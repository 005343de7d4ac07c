import ScriptBridge.Proofs.Stack.Ends

/-!
# Slots above a stack

What an operation leaves above a stack is a list of values: `Stack.extend` puts it there. Each
operation of a stack is described by what it does to such a list, as long as it does not reach
below it.
-/

namespace ScriptBridge

namespace Stack

/-- The stack with more values on top. -/
def extend (s : Stack) (vs : List Value) : Stack := { s with slots := s.slots ++ vs }

@[simp] theorem size_extend (s : Stack) (vs : List Value) :
    (s.extend vs).size = s.size + vs.length := by
  simp [extend, size]

@[simp] theorem config_extend (s : Stack) (vs : List Value) : (s.extend vs).config = s.config := rfl

@[simp] theorem extend_nil (s : Stack) : s.extend [] = s := by simp [extend]

@[simp] theorem extend_extend (s : Stack) (us vs : List Value) :
    (s.extend us).extend vs = s.extend (us ++ vs) := by
  simp [extend]

@[simp] theorem slots_extend (s : Stack) (vs : List Value) :
    (s.extend vs).slots = s.slots ++ vs := rfl

/-! ## Pushing and dropping -/

theorem isFull_iff (s : Stack) : s.isFull = true ↔ s.config.capacity ≤ s.size := by
  simp [isFull]

theorem push_of_lt {s : Stack} (v : Value) (h : s.size < s.config.capacity) :
    s.push v = .ok (s.extend [v]) := by
  have hfull : s.isFull = false := by simpa [isFull] using h
  simp [push, hfull, extend]

theorem push_of_le {s : Stack} (v : Value) (h : s.config.capacity ≤ s.size) :
    s.push v = .error s.overflow := by
  have hfull : s.isFull = true := s.isFull_iff.mpr h
  simp [push, hfull]

theorem pop_extend (s : Stack) (us vs : List Value) :
    (s.extend (us ++ vs)).pop vs.length = .ok (s.extend us) := by
  have hsize : ¬ (s.extend (us ++ vs)).size < vs.length := by simp; omega
  have hkept : (s.extend (us ++ vs)).size - vs.length = (s.slots ++ us).length := by
    simp [size]; omega
  have htake : (s.slots ++ (us ++ vs)).take (s.slots ++ us).length = s.slots ++ us := by
    rw [← List.append_assoc, List.take_left]
  simp only [pop, hsize, if_false, hkept, slots_extend, htake]
  rfl

theorem popValue_extend (s : Stack) (v : Value) : (s.extend [v]).popValue = .ok (v, s) := by
  simp [popValue, extend]

/-- What was taken off the top was there. -/
theorem popValue_ok {s t : Stack} {v : Value} (h : s.popValue = .ok (v, t)) : s = t.extend [v] := by
  simp only [popValue] at h
  split at h
  next v' hlast =>
    cases h
    obtain ⟨below, hslots⟩ := List.getLast?_eq_some_iff.mp hlast
    simp only [extend, hslots, List.dropLast_concat]
    rw [← hslots]
  next => cases h

theorem popValue_error {s : Stack} {e : StackError} (h : s.popValue = .error e) :
    s.size = 0 ∧ e = .underflow 1 0 := by
  simp only [popValue] at h
  split at h
  · cases h
  next hlast =>
    cases h
    exact ⟨by simp [size, List.getLast?_eq_none_iff.mp hlast], rfl⟩

theorem truncate_extend (s : Stack) (vs : List Value) : (s.extend vs).truncate s.size = s := by
  simp [truncate, extend, size]

/-! ## Positions -/

section Positions

variable {s : Stack} {index position : Int} {k : Nat}

/-- A slot has two indices, one from the bottom and one from the top. -/
theorem offset?_eq_some_iff :
    s.offset? index = some k ↔ k < s.size ∧ (index = k + 1 ∨ index = k - s.size) := by
  simp only [offset?]
  split
  · split
    · rw [Option.some.injEq]
      omega
    · simp only [reduceCtorEq, false_iff]
      omega
  · split
    · split
      · rw [Option.some.injEq]
        omega
      · simp only [reduceCtorEq, false_iff]
        omega
    · simp only [reduceCtorEq, false_iff]
      omega

/-- An index names a slot, or none at all. -/
theorem offset?_lt (h : s.offset? index = some k) : k < s.size := (offset?_eq_some_iff.mp h).1

/-- The slot that an index from the top names. -/
theorem offset?_neg {n : Nat} (hpos : 0 < n) (hle : n ≤ s.size) :
    s.offset? (-(n : Int)) = some (s.size - n) :=
  offset?_eq_some_iff.mpr ⟨by omega, by omega⟩

theorem offset?_position (hlt : k < s.size) : s.offset? ((k : Int) + 1) = some k :=
  offset?_eq_some_iff.mpr ⟨hlt, .inl rfl⟩

/-- An absolute index names the slot that it named before values were put on top. -/
theorem offset?_extend_of_pos (vs : List Value) (hpos : 0 < index)
    (h : s.offset? index = some k) : (s.extend vs).offset? index = some k := by
  rw [offset?_eq_some_iff] at h ⊢
  rw [size_extend]
  omega

/-- The absolute form of both indices of a slot is the one from the bottom. -/
theorem absolute_eq_some_iff :
    s.absolute index = some position ↔
      ∃ k, k + 1 ≤ maxIndex ∧ position = (k : Int) + 1 ∧ s.offset? index = some k := by
  simp only [absolute, Option.bind_eq_some_iff]
  constructor
  · rintro ⟨k, hk, hposition⟩
    split at hposition
    next hindex =>
      cases hposition
      exact ⟨k, hindex, rfl, hk⟩
    · cases hposition
  · rintro ⟨k, hindex, rfl, hk⟩
    exact ⟨k, hk, if_pos hindex⟩

theorem offset?_of_absolute (h : s.absolute index = some position) :
    0 < position ∧ ∃ k, s.offset? position = some k ∧ s.offset? index = some k := by
  obtain ⟨k, -, rfl, hk⟩ := absolute_eq_some_iff.mp h
  have hpos : (0 : Int) < (k : Int) + 1 := by omega
  exact ⟨hpos, k, offset?_position (offset?_lt hk), hk⟩

end Positions

/-- What an index names is found under its absolute form after values were put on top. -/
theorem peek_extend_of_absolute {s : Stack} {index position : Int} (vs : List Value)
    (h : s.absolute index = some position) : (s.extend vs).peek position = s.peek index := by
  obtain ⟨hpos, k, hk, hindex⟩ := offset?_of_absolute h
  have hlt : k < s.slots.length := offset?_lt hk
  simp only [peek, offset?_extend_of_pos vs hpos hk, hindex, Option.bind_some, slots_extend,
    List.getElem?_append_left hlt]

@[simp] theorem peek_top_extend (s : Stack) (vs : List Value) (v : Value) :
    (s.extend (vs ++ [v])).peek top = some v := by
  have hoffset : (s.extend (vs ++ [v])).offset? top = some (s.slots ++ vs).length := by
    have h := offset?_neg (s := s.extend (vs ++ [v])) (n := 1) (by omega) (by simp; omega)
    simpa [size, top, Nat.add_assoc] using h
  rw [peek, hoffset]
  simp only [Option.bind_some, slots_extend]
  rw [← List.append_assoc, List.getElem?_concat_length]

@[simp] theorem peek_top_extend_singleton (s : Stack) (v : Value) :
    (s.extend [v]).peek top = some v :=
  s.peek_top_extend [] v

@[simp] theorem kind_top_extend (s : Stack) (v : Value) : (s.extend [v]).kind top = v.kind := by
  simp [kind]

theorem offset?_second_extend (s : Stack) (u v : Value) :
    (s.extend [u, v]).offset? (-2) = some s.slots.length := by
  have h := offset?_neg (s := s.extend [u, v]) (n := 2) (by omega) (by simp)
  simpa [size] using h

theorem table_second_extend (s : Stack) (id : ObjectId) (v : Value) :
    (s.extend [.table id, v]).table (-2) = .ok id := by
  simp [table, peek, offset?_second_extend]

theorem table_top_extend (s : Stack) (id : ObjectId) :
    (s.extend [.table id]).table top = .ok id := by
  simp [table]

theorem remove_second_extend (s : Stack) (u v : Value) :
    (s.extend [u, v]).remove (-2) = .ok (u, s.extend [v]) := by
  simp only [remove, offset?_second_extend]
  simp [extend, List.eraseIdx_append_of_length_le]

theorem remove_ok_iff {s t : Stack} {index : Int} {v : Value} :
    s.remove index = .ok (v, t) ↔ ∃ k, s.offset? index = some k ∧ s.slots[k]? = some v ∧
      t = { s with slots := s.slots.eraseIdx k } := by
  cases hoffset : s.offset? index with
  | none => simp [remove, hoffset]
  | some k =>
    cases hslot : s.slots[k]? with
    | none => simp [remove, hoffset, hslot]
    | some u => simp [remove, hoffset, hslot, eq_comm]

/-- A stack with a value on top is another one with this value above it. -/
theorem exists_extend_of_peek_top {s : Stack} {v : Value} (h : s.peek top = some v) :
    ∃ below : Stack, s = below.extend [v] := by
  have hne : s.slots ≠ [] := by
    intro hnil
    simp [peek, offset?, top, size, hnil] at h
  obtain ⟨below, last, hslots⟩ : ∃ below last, s.slots = below ++ [last] :=
    ⟨_, _, (List.dropLast_concat_getLast hne).symm⟩
  have hs : s = ({ s with slots := below } : Stack).extend [last] := by
    simp [extend, ← hslots]
  rw [hs, peek_top_extend_singleton] at h
  cases h
  exact ⟨_, hs⟩

end Stack

end ScriptBridge
