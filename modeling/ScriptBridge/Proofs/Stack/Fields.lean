import ScriptBridge.Proofs.Script.RawAccess
import ScriptBridge.Proofs.Stack.Answers
import ScriptBridge.Proofs.Stack.Writes

/-!
# Fields of tables that slots hold

A host reads a field of a table in two ways: by a text that it names, and by a key on top of the
stack. `pushField_ok_iff` and `pushKeyed_ok_iff` say what either comes to, with metatables or
without, and `pushField_iff_pushKeyed` that it is the same. `storeField_of_bare` says what a host
writes where there are no metatables. Which slot an index names is asked at the moment of the
access, since a key or a value on top moves the slots that are counted from there.
-/

namespace ScriptBridge

open HostM

variable {β σ : Type}

/-! ## Heaps without metatables -/

namespace Heap

/-- No table has a metatable. -/
def Bare (h : Heap β) : Prop := ∀ id, (h.table id).metatable = none

/-- The heap after the host wrote a value under a key of a table. An error gets a mark. -/
def receiving (h : Heap β) (id : ObjectId) (key : String) (v : Value) : Heap β :=
  (h.attach v).2.storing id key (h.attach v).1

variable {h : Heap β} {id other : ObjectId} {key : String} {v : Value}

theorem table_receiving_same (known : id < h.tables.size) (key : String) (v : Value) :
    (h.receiving id key v).table id = (h.table id).set (.text key) (h.attach v).1 := by
  have hknown : id < (h.attach v).2.tables.size := by
    cases v <;> exact known
  rw [receiving, storing, table_modifyTable_same hknown, table_attach]

theorem table_receiving_ne (ne : other ≠ id) (key : String) (v : Value) :
    (h.receiving id key v).table other = h.table other := by
  rw [receiving, storing, table_modifyTable_ne _ ne, table_attach]

/-- The table gives what was written, as the host holds it. -/
theorem field_receiving_same (known : id < h.tables.size) (key : String) (v : Value) :
    (h.receiving id key v).field id key = v.detached := by
  rw [field, table_receiving_same known, Table.get_set_same, detached_attach]

/-- Another key, or any key of another table, gives what it gave. -/
theorem get_receiving_ne (known : id < h.tables.size) {k : Value}
    (ne : other ≠ id ∨ k.normalKey ≠ .text key) (v : Value) :
    ((h.receiving id key v).table other).get k = (h.table other).get k := by
  by_cases hother : other = id
  · subst hother
    have hkey : k.normalKey ≠ .text key := ne.resolve_left (fun h => h rfl)
    rw [table_receiving_same known, Table.get_set_ne _ hkey]
  · rw [table_receiving_ne hother]

theorem Bare.receiving (bare : h.Bare) (known : id < h.tables.size) (key : String) (v : Value) :
    (h.receiving id key v).Bare := by
  intro other
  by_cases hother : other = id
  · subst hother
    rw [table_receiving_same known, Table.metatable_set, bare]
  · rw [table_receiving_ne hother, bare]

end Heap

namespace Script.Site

variable {site : Script.Site β σ} {w : World β σ} {id : ObjectId} {key : String}

theorem writeField_of_bare (bare : w.heap.Bare) (v : Value) :
    site.writeField id (.text key) v w =
      .ok () { w with heap := w.heap.receiving id key v } := by
  rw [writeField_of_none _ v (bare id)]
  exact rawStore_text site id key _ _

/-- A table is a key like a text. -/
theorem readField_table_of_bare (bare : w.heap.Bare) (k : ObjectId) :
    site.readField id (.table k) w = .ok ((w.heap.table id).get (.table k)).detached w :=
  readField_of_none _ (bare id)

end Script.Site

/-! ## Tables in slots -/

namespace Stack

variable {s : Stack} {index : Int} {k : Nat} {id : ObjectId}

theorem table_ok_iff :
    s.table index = .ok id ↔ ∃ k, s.offset? index = some k ∧ s.slots[k]? = some (.table id) := by
  cases hoffset : s.offset? index with
  | none => simp [table, peek, hoffset]
  | some k =>
    cases hslot : s.slots[k]? with
    | none => simp [table, peek, hoffset, hslot]
    | some v => cases v <;> simp [table, peek, hoffset, hslot]

/-- An absolute index names the slots of a stack alike when there are values above them. -/
theorem offset?_extend_iff_of_pos (vs : List Value) (hpos : 0 < index) (hk : k < s.size) :
    (s.extend vs).offset? index = some k ↔ s.offset? index = some k := by
  simp only [offset?_eq_some_iff, size_extend]
  omega

/-- An index that counts from the top counts a value more when one was pushed. -/
theorem offset?_extend_iff_of_neg {n : Nat} (v : Value) (hpos : 0 < n) :
    (s.extend [v]).offset? (-((n : Int) + 1)) = some k ↔ s.offset? (-(n : Int)) = some k := by
  simp only [offset?_eq_some_iff, size_extend, List.length_singleton]
  omega

end Stack

/-! ## Two ways to read -/

namespace StackM

variable {site : Script.Site β σ} {m m' : Machine β σ} {index : Int} {key : String} {k : Nat}
  {id : ObjectId}

/-- Pushes a text and exchanges it for the value under it of the table at an index. -/
def pushKeyed (site : Script.Site β σ) (index : Int) (key : String) : StackM β σ Unit := do
  pushText key
  swapField site index

theorem script_ok_iff {α : Type} {action : ScriptM β σ α} {a : α} :
    script site action m = .ok a m' ↔
      ∃ w, action m.world = .ok a w ∧ m' = { m with world := w } := by
  constructor
  · intro h
    obtain ⟨hrun, hstack⟩ := script_ok h
    exact ⟨m'.world, hrun, by rw [← hstack]⟩
  · rintro ⟨w, hrun, rfl⟩
    exact bind_of_ok (attemptScript_of_ok hrun)

theorem push_ok_iff {v : Value} :
    push v m = .ok () m' ↔
      m.stack.size < m.stack.config.capacity ∧ m' = { m with stack := m.stack.extend [v] } := by
  rw [push_apply]
  by_cases free : m.stack.size < m.stack.config.capacity
  · rw [if_pos free]
    constructor
    · intro h
      cases h
      exact ⟨free, rfl⟩
    · rintro ⟨-, rfl⟩
      rfl
  · rw [if_neg free]
    constructor
    · intro h
      cases h
    · intro h
      exact absurd h.1 free

theorem view_ok_iff {α : Type} {f : Stack → Except StackError α} {a : α} :
    (view f : StackM β σ α) m = .ok a m' ↔ f m.stack = .ok a ∧ m' = m := by
  cases h : f m.stack with
  | ok b =>
    rw [view_of_ok h]
    constructor
    · intro hok
      cases hok
      exact ⟨rfl, rfl⟩
    · rintro ⟨hb, rfl⟩
      cases hb
      rfl
  | error e =>
    rw [view_of_error h]
    constructor
    · intro hok
      cases hok
    · rintro ⟨hb, -⟩
      cases hb

end StackM

open StackM

section Reading

variable {site : Script.Site β σ} {m m' : Machine β σ} {index : Int} {key : String} {k : Nat}
  {id : ObjectId}

/-- A slot holds a table, the table gives a value for a key, and there is room for the value. -/
def Machine.Fetches (m : Machine β σ) (site : Script.Site β σ) (k : Nat) (key : String)
    (m' : Machine β σ) : Prop :=
  ∃ id v w, m.stack.slots[k]? = some (.table id) ∧
    site.readField id (.text key) m.world = .ok v w ∧
    m.stack.size < m.stack.config.capacity ∧ m' = ⟨m.stack.extend [v], w⟩

theorem Machine.Fetches.lt (h : m.Fetches site k key m') : k < m.stack.size := by
  obtain ⟨id, v, w, holds, -⟩ := h
  exact (List.getElem?_eq_some_iff.mp holds).1

theorem script_push_ok_iff :
    (script site (site.readField id (.text key)) >>= push) m = .ok () m' ↔
      ∃ v w, site.readField id (.text key) m.world = .ok v w ∧
        m.stack.size < m.stack.config.capacity ∧ m' = ⟨m.stack.extend [v], w⟩ := by
  rw [bind_ok_iff]
  constructor
  · rintro ⟨v, m₁, hread, hpush⟩
    obtain ⟨w, hrun, rfl⟩ := script_ok_iff.mp hread
    obtain ⟨free, rfl⟩ := push_ok_iff.mp hpush
    exact ⟨v, w, hrun, free, rfl⟩
  · rintro ⟨v, w, hrun, free, rfl⟩
    exact ⟨v, { m with world := w }, script_ok_iff.mpr ⟨w, hrun, rfl⟩,
      push_ok_iff.mpr ⟨free, rfl⟩⟩

theorem pushField_ok_iff :
    pushField site index key m = .ok () m' ↔
      ∃ k, m.stack.offset? index = some k ∧ m.Fetches site k key m' := by
  rw [pushField, bind_ok_iff]
  constructor
  · rintro ⟨id, m₁, hview, hrest⟩
    obtain ⟨htable, rfl⟩ := view_ok_iff.mp hview
    obtain ⟨k, named, holds⟩ := Stack.table_ok_iff.mp htable
    obtain ⟨v, w, hrun, free, rfl⟩ := script_push_ok_iff.mp hrest
    exact ⟨k, named, id, v, w, holds, hrun, free, rfl⟩
  · rintro ⟨k, named, id, v, w, holds, hrun, free, rfl⟩
    have htable : m.stack.table index = .ok id := Stack.table_ok_iff.mpr ⟨k, named, holds⟩
    exact ⟨id, m, view_ok_iff.mpr ⟨htable, rfl⟩, script_push_ok_iff.mpr ⟨v, w, hrun, free, rfl⟩⟩

/-- The key is a text, so the table that is read lies below it. -/
theorem Stack.table_extend_text_iff {s : Stack} :
    (s.extend [.text key]).table index = .ok id ↔
      ∃ k, (s.extend [.text key]).offset? index = some k ∧ s.slots[k]? = some (.table id) := by
  rw [Stack.table_ok_iff]
  constructor
  · rintro ⟨k, named, holds⟩
    refine ⟨k, named, ?_⟩
    rw [Stack.slots_extend] at holds
    by_cases hbelow : k < s.slots.length
    · rwa [List.getElem?_append_left hbelow] at holds
    · rw [List.getElem?_append_right (Nat.le_of_not_lt hbelow)] at holds
      have hmem := List.mem_of_getElem? holds
      cases List.mem_singleton.mp hmem
  · rintro ⟨k, named, holds⟩
    refine ⟨k, named, ?_⟩
    rw [Stack.slots_extend, List.getElem?_append_left (List.getElem?_eq_some_iff.mp holds).1, holds]

theorem pushKeyed_ok_iff :
    pushKeyed site index key m = .ok () m' ↔
      ∃ k, (m.stack.extend [.text key]).offset? index = some k ∧ m.Fetches site k key m' := by
  rw [pushKeyed, bind_ok_iff]
  constructor
  · rintro ⟨_, m₁, hpush, hrest⟩
    obtain ⟨free, rfl⟩ := push_ok_iff.mp hpush
    obtain ⟨id, m₂, hview, hrest⟩ := bind_ok_iff.mp hrest
    obtain ⟨htable, rfl⟩ := view_ok_iff.mp hview
    obtain ⟨k, named, holds⟩ := Stack.table_extend_text_iff.mp htable
    rw [bind_of_ok (popValue_apply rfl)] at hrest
    obtain ⟨v, w, hrun, -, rfl⟩ := script_push_ok_iff.mp hrest
    exact ⟨k, named, id, v, w, holds, hrun, free, rfl⟩
  · rintro ⟨k, named, id, v, w, holds, hrun, free, rfl⟩
    let keyed : Machine β σ := { m with stack := m.stack.extend [.text key] }
    have htable : keyed.stack.table index = .ok id :=
      Stack.table_extend_text_iff.mpr ⟨k, named, holds⟩
    refine ⟨(), keyed, push_ok_iff.mpr ⟨free, rfl⟩, ?_⟩
    rw [swapField, bind_of_ok (view_of_ok (f := (·.table index)) htable),
      bind_of_ok (popValue_apply (m := keyed) rfl)]
    exact script_push_ok_iff.mpr ⟨v, w, hrun, free, rfl⟩

/-- Indices that name the same slots, one before the key was pushed and one after, make no
difference. -/
theorem pushField_iff_pushKeyed {named keyed : Int}
    (same : ∀ k < m.stack.size, m.stack.offset? named = some k ↔
      (m.stack.extend [.text key]).offset? keyed = some k) :
    pushField site named key m = .ok () m' ↔ pushKeyed site keyed key m = .ok () m' := by
  rw [pushField_ok_iff, pushKeyed_ok_iff]
  constructor
  · rintro ⟨k, hk, fetches⟩
    exact ⟨k, (same k fetches.lt).mp hk, fetches⟩
  · rintro ⟨k, hk, fetches⟩
    exact ⟨k, (same k fetches.lt).mpr hk, fetches⟩

end Reading

/-! ## Writing and reading again -/

/-- Both ways to read a key of the table in a slot push a value and do nothing else, by every index
that names the slot when the table is looked for. -/
structure Machine.LooksUp (m : Machine β σ) (site : Script.Site β σ) (k : Nat) (key : String)
    (v : Value) : Prop where
  named : ∀ index, m.stack.offset? index = some k →
    pushField site index key m = .ok () { m with stack := m.stack.extend [v] }
  keyed : ∀ index, (m.stack.extend [.text key]).offset? index = some k →
    pushKeyed site index key m = .ok () { m with stack := m.stack.extend [v] }

section Writing

variable {site : Script.Site β σ} {m : Machine β σ} {w : World β σ} {s : Stack} {index : Int}
  {k : Nat} {id : ObjectId} {key : String} {v : Value}

theorem looksUp_of_field (bare : m.world.heap.Bare) (hv : m.world.heap.field id key = v)
    (holds : m.stack.slots[k]? = some (.table id))
    (free : m.stack.size < m.stack.config.capacity) : m.LooksUp site k key v := by
  have hread : site.readField id (.text key) m.world = .ok v m.world := by
    rw [← hv]
    exact Script.Site.readField_of_plain (.inl (bare id))
  have fetches : m.Fetches site k key { m with stack := m.stack.extend [v] } :=
    ⟨id, v, m.world, holds, hread, free, rfl⟩
  constructor
  · intro index named
    exact pushField_ok_iff.mpr ⟨k, named, fetches⟩
  · intro index named
    exact pushKeyed_ok_iff.mpr ⟨k, named, fetches⟩

/-- What lies on top after a push is in the slot of that number. -/
theorem Stack.getElem?_extend_top (s : Stack) (v : Value) :
    (s.extend [v]).slots[s.size]? = some v := by
  rw [Stack.slots_extend, Stack.size, List.getElem?_concat_length]

/-- The machine after the host wrote a value under a key of a table. -/
def Machine.receiving (m : Machine β σ) (id : ObjectId) (key : String) (v : Value) :
    Machine β σ :=
  { m with world := { m.world with heap := m.world.heap.receiving id key v } }

/-- The table is looked for while the value still lies on top, and may be the value itself. -/
theorem storeField_of_bare (bare : m.world.heap.Bare) (hstack : m.stack = s.extend [v])
    (named : m.stack.offset? index = some k) (holds : m.stack.slots[k]? = some (.table id)) :
    storeField site index key m = .ok () ({ m with stack := s }.receiving id key v) := by
  have htable : m.stack.table index = .ok id := Stack.table_ok_iff.mpr ⟨k, named, holds⟩
  rw [storeField_of_table htable hstack]
  exact script_ok_iff.mpr ⟨_, Script.Site.writeField_of_bare bare v, rfl⟩

/-- A table on top that is exchanged for what it gives is looked up under itself. -/
theorem swapField_self (bare : m.world.heap.Bare) (hstack : m.stack = s.extend [.table id])
    (named : m.stack.offset? index = some s.size) (free : s.size < s.config.capacity) :
    swapField site index m = .ok () { m with
      stack := s.extend [((m.world.heap.table id).get (.table id)).detached] } := by
  have holds : m.stack.slots[s.size]? = some (.table id) := by
    rw [hstack, s.getElem?_extend_top]
  have htable : m.stack.table index = .ok id := Stack.table_ok_iff.mpr ⟨_, named, holds⟩
  have hread : script site (site.readField id (.table id)) { m with stack := s } =
      .ok ((m.world.heap.table id).get (.table id)).detached { m with stack := s } :=
    script_ok_iff.mpr ⟨m.world, Script.Site.readField_table_of_bare bare id, rfl⟩
  rw [swapField, bind_of_ok (view_of_ok (f := (·.table index)) htable),
    bind_of_ok (popValue_apply hstack), bind_of_ok hread]
  exact push_ok_iff.mpr ⟨free, rfl⟩

end Writing

end ScriptBridge
