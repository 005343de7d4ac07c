import ScriptBridge.Proofs.Stack.Access

/-!
# Primitive operations

A primitive operation pushes, takes or exchanges values in one place of the stack, or reads or
writes one key of a table on the way. `Primitive.refusal` says when it is refused; then nothing has
happened. Otherwise so many values are in the place of so many others, and the slots below and
above them are as they were: `primitive_is_atomic`.
-/

namespace ScriptBridge

open HostM

variable {β σ : Type}

/-! ## Exchanged slots -/

namespace Stack

/-- Two stacks differ in no more than what lies above a number of slots: so many values of the one
are exchanged for so many others, and the slots above them are the same again. -/
def Exchange (s t : Stack) (position takes puts : Nat) : Prop :=
  ∃ below taken put above, s.slots = below ++ taken ++ above ∧ t.slots = below ++ put ++ above ∧
    below.length = position ∧ taken.length = takes ∧ put.length = puts

variable {s t : Stack}

theorem Exchange.size_eq {position takes puts : Nat} (h : s.Exchange t position takes puts) :
    t.size + takes = s.size + puts := by
  obtain ⟨below, taken, put, above, hs, ht, -, htakes, hputs⟩ := h
  simp only [size, hs, ht, List.length_append]
  omega

theorem exchange_extend (s : Stack) (us vs : List Value) :
    (s.extend us).Exchange (s.extend vs) s.size us.length vs.length :=
  ⟨s.slots, us, vs, [], by simp, by simp, rfl, rfl, rfl⟩

theorem exchange_of_slots (h : t.slots = s.slots) : s.Exchange t s.size 0 0 :=
  ⟨s.slots, [], [], [], by simp, by simp [h], rfl, rfl, rfl⟩

/-- A stack with so many values has them above another one. -/
theorem exists_extend_of_le {count : Nat} (h : count ≤ s.size) :
    ∃ (below : Stack) (vs : List Value), s = below.extend vs ∧ vs.length = count := by
  refine ⟨{ s with slots := s.slots.take (s.size - count) }, s.slots.drop (s.size - count), ?_, ?_⟩
  · simp only [extend, List.take_append_drop]
  · rw [List.length_drop]
    simp only [size] at *
    omega

theorem exchange_remove {index : Int} {v : Value} (h : s.remove index = .ok (v, t)) :
    ∃ k, s.offset? index = some k ∧ s.Exchange t k 1 0 := by
  obtain ⟨k, hk, -, rfl⟩ := remove_ok_iff.mp h
  have hlt : k < s.slots.length := offset?_lt hk
  refine ⟨k, hk, s.slots.take k, [s.slots[k]], [], s.slots.drop (k + 1), ?_, ?_, ?_, rfl, rfl⟩
  · rw [List.append_assoc, List.singleton_append, ← List.drop_eq_getElem_cons hlt,
      List.take_append_drop]
  · simp only [List.append_nil, List.eraseIdx_eq_take_drop_succ]
  · rw [List.length_take]
    omega

/-! ## Positions that are refused -/

theorem peek_eq_none_iff {index : Int} : s.peek index = none ↔ s.offset? index = none := by
  cases hoffset : s.offset? index with
  | none => simp [peek, hoffset]
  | some k =>
    have hlt : k < s.slots.length := offset?_lt hoffset
    simp [peek, hoffset, hlt]

theorem size_pos_of_table {index : Int} {id : ObjectId} (h : s.table index = .ok id) :
    0 < s.size := by
  cases hoffset : s.offset? index with
  | none =>
    simp [table, peek, hoffset] at h
  | some k => exact Nat.zero_lt_of_lt (offset?_lt hoffset)

theorem remove_of_none {index : Int} (h : s.offset? index = none) :
    s.remove index = .error (.invalidIndex index) := by
  simp only [remove, h]

end Stack

/-! ## The operations -/

/-- A primitive operation of a stack. The values that are pushed may be of any kind. -/
inductive Primitive (β : Type) where
  | push (v : Value)
  | pushArg (a : Arg)
  | pushCopy (index : Int)
  | pushCallback (callback : Callback β)
  | pushTable
  | pushGlobal (name : String)
  | pushField (index : Int) (key : String)
  | swapField (index : Int)
  | pop (count : Nat)
  | popValue
  | remove (index : Int)
  | bindGlobal (name : String)
  | storeField (index : Int) (key : String)
  | register (callback : Callback β)

namespace Primitive

/-- What an operation does, its result apart. -/
def run (site : Script.Site β σ) : Primitive β → StackM β σ Unit
  | push v => StackM.push v
  | pushArg a => StackM.pushArg a
  | pushCopy index => StackM.change (·.pushCopy index)
  | pushCallback callback => StackM.pushCallback callback
  | pushTable => discard StackM.pushTable
  | pushGlobal name => StackM.pushGlobal site name
  | pushField index key => StackM.pushField site index key
  | swapField index => StackM.swapField site index
  | pop count => StackM.pop count
  | popValue => discard StackM.popValue
  | remove index => discard (StackM.remove index)
  | bindGlobal name => StackM.bindGlobal site name
  | storeField index key => StackM.storeField site index key
  | register callback => StackM.register site callback

/-- How many values an operation takes. -/
def takes : Primitive β → Nat
  | pop count => count
  | swapField _ | popValue | remove _ | bindGlobal _ | storeField _ _ => 1
  | _ => 0

/-- How many values an operation puts. -/
def puts : Primitive β → Nat
  | pop _ | popValue | remove _ | bindGlobal _ | storeField _ _ | register _ => 0
  | _ => 1

/-- How many slots lie below the place where an operation takes and puts values. -/
def position (s : Stack) : Primitive β → Nat
  | remove index => (s.offset? index).getD 0
  | op => s.size - op.takes

/-- The failure of an operation that needs room for one value. -/
def crowding (s : Stack) : Option StackError := if s.isFull then some s.overflow else none

/-- The failure of an operation that needs a value at an index. -/
def absence (s : Stack) (index : Int) : Option StackError :=
  if s.peek index = none then some (.invalidIndex index) else none

/-- The failure of an operation that needs a table at an index. -/
def tableFault (s : Stack) (index : Int) : Option StackError :=
  match s.table index with
  | .ok _ => none
  | .error e => some e

/-- The failure of an operation that takes so many values off the top. -/
def shortage (s : Stack) (count : Nat) : Option StackError :=
  if s.size < count then some (.underflow count s.size) else none

/-- Why a stack refuses an operation, if it does. What an index names is looked at before the
room. -/
def refusal (s : Stack) : Primitive β → Option StackError
  | push _ | pushArg _ | pushCallback _ | pushGlobal _ | register _ => crowding s
  | pushCopy index => absence s index <|> crowding s
  | pushTable => if maxIndex < s.size + 1 then some s.overflow else crowding s
  | pushField index _ => tableFault s index <|> crowding s
  | swapField index | storeField index _ => tableFault s index
  | pop count => shortage s count
  | popValue | bindGlobal _ => shortage s 1
  | remove index => absence s index

/-- The table that an operation reads or writes a key of. -/
def accessed (s : Stack) : Primitive β → Option ObjectId
  | pushGlobal _ | bindGlobal _ | register _ => some Heap.globals
  | pushField index _ | swapField index | storeField index _ => (s.table index).toOption
  | _ => none

/-- The access of an operation can be made. -/
def Reaches (site : Script.Site β σ) (h : Heap β) (s : Stack) (op : Primitive β) : Prop :=
  ∀ id ∈ op.accessed s, site.Reaches h id

/-- An operation finds no metamethod. -/
def IsRaw (h : Heap β) (s : Stack) : Primitive β → Prop
  | pushGlobal name => h.ReadsRaw Heap.globals (.text name)
  | pushField index key => ∀ id, s.table index = .ok id → h.ReadsRaw id (.text key)
  | swapField index => ∀ id key, s.table index = .ok id → s.peek top = some key → h.ReadsRaw id key
  | bindGlobal name => h.WritesRaw Heap.globals name
  | storeField index key => ∀ id, s.table index = .ok id → h.WritesRaw id key
  | register callback => h.WritesRaw Heap.globals callback.name
  | _ => True

/-- An operation was done: it had no reason to be refused, and so many values are exchanged. -/
structure Done (op : Primitive β) (s t : Stack) : Prop where
  admitted : op.refusal s = none
  exchange : s.Exchange t (op.position s) op.takes op.puts

/-- An operation was not done. It was refused, and then nothing has happened; or its access to a
table could not be made. -/
inductive Undone (site : Script.Site β σ) (op : Primitive β) (m : Machine β σ) :
    StackError → Machine β σ → Prop
  | refused {e : StackError} (refusal : op.refusal m.stack = some e) : Undone site op m e m
  | unreached {e : LuaError} {m' : Machine β σ}
    (far : ¬ op.Reaches site m.world.heap m.stack) : Undone site op m (.engine e) m'

/-! ## Reasons to refuse -/

section Refusals

variable {s : Stack}

theorem crowding_of_lt (h : s.size < s.config.capacity) : crowding s = none := by
  have hfull : s.isFull = false := by simpa [Stack.isFull] using h
  simp [crowding, hfull]

theorem crowding_of_le (h : s.config.capacity ≤ s.size) : crowding s = some s.overflow := by
  simp [crowding, s.isFull_iff.mpr h]

theorem absence_of_some {index : Int} {v : Value} (h : s.peek index = some v) :
    absence s index = none := by
  simp [absence, h]

theorem absence_of_none {index : Int} (h : s.peek index = none) :
    absence s index = some (.invalidIndex index) := by
  simp [absence, h]

theorem tableFault_of_ok {index : Int} {id : ObjectId} (h : s.table index = .ok id) :
    tableFault s index = none := by
  simp [tableFault, h]

theorem tableFault_of_error {index : Int} {e : StackError} (h : s.table index = .error e) :
    tableFault s index = some e := by
  simp [tableFault, h]

theorem shortage_of_le {count : Nat} (h : count ≤ s.size) : shortage s count = none := by
  simp [shortage, Nat.not_lt_of_le h]

theorem shortage_of_lt {count : Nat} (h : s.size < count) :
    shortage s count = some (.underflow count s.size) := by
  simp [shortage, h]

end Refusals

/-! ## Tables that are accessed -/

theorem accessed_of_table {s : Stack} {index : Int} {id : ObjectId} (h : s.table index = .ok id) :
    (s.table index).toOption = some id := by
  simp [h, Except.toOption]

theorem not_reaches {site : Script.Site β σ} {h : Heap β} {s : Stack} {op : Primitive β}
    {id : ObjectId} (accessed : op.accessed s = some id) (far : ¬ site.Reaches h id) :
    ¬ op.Reaches site h s :=
  fun reaches => far (reaches id accessed)

/-! ## How the operations end -/

/-- An operation is done or undone, and it does not stop unless its access cannot be made. -/
def Settles (site : Script.Site β σ) (m : Machine β σ) (op : Primitive β) : Prop :=
  Ending.Meets (fun _ m' => op.Done m.stack m'.stack) (op.Undone site m)
    (fun _ => ¬ op.Reaches site m.world.heap m.stack) (op.run site m)

section Ways

variable {site : Script.Site β σ} {m n : Machine β σ} {op : Primitive β}

theorem settles_of_done (run : op.run site m = .ok () n) (done : op.Done m.stack n.stack) :
    op.Settles site m := by
  rw [Settles, run]
  exact done

theorem settles_of_refused {e : StackError} (run : op.run site m = .error (.error e) m)
    (refusal : op.refusal m.stack = some e) : op.Settles site m := by
  rw [Settles, run]
  exact .refused refusal

/-- The last part of an operation decides how it ends. -/
theorem settles_of_rest {last : StackM β σ Unit} (run : op.run site m = last n)
    (rest : last.Ends n (fun _ t => op.Done m.stack t.stack) (op.Undone site m)
      fun _ => ¬ op.Reaches site m.world.heap m.stack) : op.Settles site m := by
  rw [Settles, run]
  exact rest.meets

/-- An operation that puts a value for which there was room on top. -/
theorem done_of_pushed {s : Stack} (v : Value) (room : s.size < s.config.capacity)
    (admission : op.refusal s = crowding s)
    (place : op.position s = s.size ∧ op.takes = 0 ∧ op.puts = 1) : op.Done s (s.extend [v]) := by
  obtain ⟨hposition, htakes, hputs⟩ := place
  refine ⟨admission.trans (crowding_of_lt room), ?_⟩
  rw [hposition, htakes, hputs]
  simpa using s.exchange_extend [] [v]

/-- An operation that comes down to pushing a value for which there has to be room. -/
theorem ends_pushing (v : Value) (admission : op.refusal m.stack = crowding m.stack)
    (place : op.position m.stack = m.stack.size ∧ op.takes = 0 ∧ op.puts = 1) :
    (StackM.push v).Ends m (fun _ t => op.Done m.stack t.stack) (op.Undone site m)
      fun _ => ¬ op.Reaches site m.world.heap m.stack :=
  StackM.ends_push (fun hroom => done_of_pushed v hroom admission place)
    fun hfull => .refused (admission.trans (crowding_of_le hfull))

/-- An operation that comes down to pushing a new object. -/
theorem ends_pushingNew (allocate : Heap β → Value × Heap β)
    (admission : op.refusal m.stack = crowding m.stack)
    (place : op.position m.stack = m.stack.size ∧ op.takes = 0 ∧ op.puts = 1) :
    (StackM.pushNew allocate).Ends m (fun _ t => op.Done m.stack t.stack) (op.Undone site m)
      fun _ => ¬ op.Reaches site m.world.heap m.stack :=
  StackM.ends_pushNew (fun hroom v _ => done_of_pushed v hroom admission place)
    fun hfull => .refused (admission.trans (crowding_of_le hfull))

/-- An operation that takes the value off the top. -/
theorem done_of_taken {s t : Stack} {v : Value} (hs : s = t.extend [v])
    (admitted : op.refusal s = none)
    (place : op.position s = s.size - 1 ∧ op.takes = 1 ∧ op.puts = 0) : op.Done s t := by
  obtain ⟨hposition, htakes, hputs⟩ := place
  refine ⟨admitted, ?_⟩
  rw [hposition, htakes, hputs, hs]
  simpa using t.exchange_extend [v] []

end Ways

section Operations

variable {site : Script.Site β σ} {m : Machine β σ}

/-! ### Operations that push -/

theorem settles_push (v : Value) : (push v : Primitive β).Settles site m :=
  settles_of_rest (n := m) rfl (ends_pushing v rfl ⟨rfl, rfl, rfl⟩)

theorem settles_pushArg (a : Arg) : (pushArg a : Primitive β).Settles site m :=
  settles_of_rest (n := m) rfl (ends_pushing a.toValue rfl ⟨rfl, rfl, rfl⟩)

/-- The frames of a callback get the configuration of the stack on which it was made. -/
theorem settles_pushCallback (callback : Callback β) : (pushCallback callback).Settles site m := by
  have hrun : (pushCallback callback).run site m = StackM.pushNew (fun heap =>
      (heap.allocFunction (.host callback m.stack.config)).map Value.function id) m := rfl
  exact settles_of_rest hrun (ends_pushingNew _ rfl ⟨rfl, rfl, rfl⟩)

theorem settles_pushCopy (index : Int) : (pushCopy index).Settles site m := by
  cases hpeek : m.stack.peek index with
  | none =>
    exact settles_of_refused (StackM.pushCopy_of_absent hpeek)
      (by simp [refusal, absence_of_none hpeek])
  | some v =>
    exact settles_of_rest (StackM.pushCopy_of_peek hpeek)
      (ends_pushing v (by simp [refusal, absence_of_some hpeek]) ⟨rfl, rfl, rfl⟩)

/-- The position of a new table has to be an index, whatever the capacity is. -/
theorem settles_pushTable : (pushTable : Primitive β).Settles site m := by
  refine settles_of_rest (n := m) rfl (ends_discard (ends_stack (fun _ => rfl) ?_))
  by_cases hindex : maxIndex < m.stack.size + 1
  · rw [if_pos hindex]
    exact ends_fail (.refused (if_pos hindex))
  · rw [if_neg hindex]
    have hadmission : (pushTable : Primitive β).refusal m.stack = crowding m.stack :=
      if_neg hindex
    exact ends_bind ((ends_pushingNew _ hadmission ⟨rfl, rfl, rfl⟩).mono
      (fun _ _ done => ends_pure done) (fun _ _ undone => undone) fun _ far => far)

theorem settles_pushGlobal (name : String)
    (raw : m.world.heap.ReadsRaw Heap.globals (.text name)) :
    (pushGlobal name).Settles site m :=
  settles_of_rest (n := m) rfl (ends_bind (StackM.ends_rawReadText raw
    (fun v => ends_pushing v rfl ⟨rfl, rfl, rfl⟩) (fun far _ _ => .unreached (not_reaches rfl far))
    fun far _ => not_reaches rfl far))

theorem settles_pushField (index : Int) (key : String)
    (raw : ∀ id, m.stack.table index = .ok id → m.world.heap.ReadsRaw id (.text key)) :
    (pushField index key).Settles site m := by
  cases htable : m.stack.table index with
  | error e =>
    exact settles_of_refused (bind_of_error (StackM.view_of_error (f := (·.table index)) htable))
      (by simp [refusal, tableFault_of_error htable])
  | ok id =>
    have hadmission : (pushField (β := β) index key).refusal m.stack = crowding m.stack := by
      simp [refusal, tableFault_of_ok htable]
    exact settles_of_rest (bind_of_ok (StackM.view_of_ok (f := (·.table index)) htable))
      (ends_bind (StackM.ends_rawReadText (raw id htable)
        (fun v => ends_pushing v hadmission ⟨rfl, rfl, rfl⟩)
        (fun far _ _ => .unreached (not_reaches (accessed_of_table htable) far))
        fun far _ => not_reaches (accessed_of_table htable) far))

/-! ### Operations that take -/

theorem settles_pop (count : Nat) : (pop count : Primitive β).Settles site m := by
  by_cases hfew : m.stack.size < count
  · have hpop : m.stack.pop count = .error (.underflow count m.stack.size) := by
      simp only [Stack.pop, if_pos hfew]
    exact settles_of_refused (StackM.change_of_error (f := (·.pop count)) hpop)
      (shortage_of_lt hfew)
  · obtain ⟨below, vs, hs, rfl⟩ := Stack.exists_extend_of_le (Nat.le_of_not_lt hfew)
    have hpop : m.stack.pop vs.length = .ok below := by
      simpa [hs] using below.pop_extend [] vs
    refine settles_of_done (StackM.change_of_ok (f := (·.pop vs.length)) hpop)
      ⟨shortage_of_le (Nat.le_of_not_lt hfew), ?_⟩
    have hexchange := below.exchange_extend vs []
    have hposition : m.stack.size - vs.length = below.size := by simp [hs]
    rw [Stack.extend_nil, ← hs, ← hposition] at hexchange
    exact hexchange

theorem settles_popValue : (popValue : Primitive β).Settles site m := by
  refine settles_of_rest (n := m) rfl (ends_discard (StackM.ends_popValue_cases
    (fun v s hs => ?_) fun hempty => .refused ?_))
  · have hpos : 1 ≤ m.stack.size := by simp [hs]
    exact done_of_taken hs (shortage_of_le hpos) ⟨rfl, rfl, rfl⟩
  · exact (shortage_of_lt (by omega)).trans (by rw [hempty])

theorem settles_remove (index : Int) : (remove index : Primitive β).Settles site m := by
  refine settles_of_rest (n := m) rfl (ends_discard (StackM.ends_take
    (fun policy => m.stack.remove_withBalance policy index) (fun v t h => ?_) fun e h => ?_))
  · obtain ⟨k, hk, hexchange⟩ := Stack.exchange_remove h
    have hposition : (remove (β := β) index).position m.stack = k := by simp [position, hk]
    refine ⟨?_, hposition ▸ hexchange⟩
    have hpeek : m.stack.peek index ≠ none := by simp [Stack.peek_eq_none_iff, hk]
    exact if_neg hpeek
  · cases hoffset : m.stack.offset? index with
    | none =>
      rw [Stack.remove_of_none hoffset] at h
      cases h
      exact .refused (absence_of_none (Stack.peek_eq_none_iff.mpr hoffset))
    | some k =>
      have hlt : k < m.stack.slots.length := Stack.offset?_lt hoffset
      simp [Stack.remove, hoffset, hlt] at h

theorem settles_bindGlobal (name : String) (raw : m.world.heap.WritesRaw Heap.globals name) :
    (bindGlobal name).Settles site m := by
  refine settles_of_rest (n := m) rfl (ends_bind (StackM.ends_popValue_cases
    (fun v s hs => ?_) fun hempty => .refused ?_))
  · have hpos : 1 ≤ m.stack.size := by simp [hs]
    exact StackM.ends_rawWrite raw
      (fun _ => done_of_taken hs (shortage_of_le hpos) ⟨rfl, rfl, rfl⟩)
      (fun far _ _ => .unreached (not_reaches rfl far)) fun far _ => not_reaches rfl far
  · exact (shortage_of_lt (by omega)).trans (by rw [hempty])

theorem settles_storeField (index : Int) (key : String)
    (raw : ∀ id, m.stack.table index = .ok id → m.world.heap.WritesRaw id key) :
    (storeField index key).Settles site m := by
  cases htable : m.stack.table index with
  | error e =>
    exact settles_of_refused (bind_of_error (StackM.view_of_error (f := (·.table index)) htable))
      (tableFault_of_error htable)
  | ok id =>
    refine settles_of_rest (bind_of_ok (StackM.view_of_ok (f := (·.table index)) htable))
      (ends_bind (StackM.ends_popValue_cases (fun v s hs => ?_) fun hempty => ?_))
    · exact StackM.ends_rawWrite (raw id htable)
        (fun _ => done_of_taken hs (tableFault_of_ok htable) ⟨rfl, rfl, rfl⟩)
        (fun far _ _ => .unreached (not_reaches (accessed_of_table htable) far))
        fun far _ => not_reaches (accessed_of_table htable) far
    · exact absurd hempty (Nat.ne_of_gt (Stack.size_pos_of_table htable))

/-! ### Operations that exchange -/

/-- A callback is registered by way of a slot above the stack, which is free again afterwards. -/
theorem settles_register (callback : Callback β)
    (raw : m.world.heap.WritesRaw Heap.globals callback.name) :
    (register callback).Settles site m := by
  by_cases hroom : m.stack.size < m.stack.config.capacity
  · have hpush := (StackM.pushCallback_eq callback m).trans (if_pos hroom)
    have hnoted : (register callback).Done m.stack (m.stack.note callback.name callback.minArgs) :=
      ⟨crowding_of_lt hroom, Stack.exchange_of_slots rfl⟩
    refine settles_of_rest (bind_of_ok hpush) (ends_bind (ends_bind
      (StackM.ends_popValue (s := m.stack) rfl (StackM.ends_rawWrite raw (fun w => ?_)
        (fun far _ _ => .unreached (not_reaches rfl far)) fun far _ => not_reaches rfl far))))
    exact ends_bind (ends_log (StackM.ends_note hnoted))
  · have hfull := Nat.le_of_not_lt hroom
    exact settles_of_refused
      (bind_of_error ((StackM.pushCallback_eq callback m).trans (if_neg hroom)))
      (crowding_of_le hfull)

/-- The value takes the slot of its key, so it always has one. -/
theorem settles_swapField (fits : m.stack.size ≤ m.stack.config.capacity) (index : Int)
    (raw : ∀ id key, m.stack.table index = .ok id → m.stack.peek top = some key →
      m.world.heap.ReadsRaw id key) :
    (swapField index).Settles site m := by
  cases htable : m.stack.table index with
  | error e =>
    exact settles_of_refused (bind_of_error (StackM.view_of_error (f := (·.table index)) htable))
      (tableFault_of_error htable)
  | ok id =>
    refine settles_of_rest (bind_of_ok (StackM.view_of_ok (f := (·.table index)) htable))
      (ends_bind (StackM.ends_popValue_cases (fun key s hs => ?_) fun hempty => ?_))
    · have hraw := raw id key htable (by rw [hs, Stack.peek_top_extend_singleton])
      have hsize : m.stack.size = s.size + 1 := by rw [hs, Stack.size_extend]; rfl
      have hconfig : m.stack.config = s.config := by rw [hs, Stack.config_extend]
      refine ends_bind (StackM.ends_rawRead hraw (fun v w => ?_)
        (fun far _ _ => .unreached (not_reaches (accessed_of_table htable) far))
        fun far _ => not_reaches (accessed_of_table htable) far)
      refine StackM.ends_push (fun _ => ⟨tableFault_of_ok htable, ?_⟩) fun hfull => ?_
      · have hexchange := s.exchange_extend [key] [v]
        have hposition : (swapField (β := β) index).position m.stack = s.size := by
          simp [position, takes, hsize]
        rw [hposition, hs]
        exact hexchange
      · change s.config.capacity ≤ s.size at hfull
        rw [hconfig] at fits
        omega
    · exact absurd hempty (Nat.ne_of_gt (Stack.size_pos_of_table htable))

/-! ## Every operation -/

theorem settles_of_raw {op : Primitive β} (fits : m.stack.size ≤ m.stack.config.capacity)
    (raw : op.IsRaw m.world.heap m.stack) : op.Settles site m := by
  cases op with
  | push v => exact settles_push v
  | pushArg a => exact settles_pushArg a
  | pushCopy index => exact settles_pushCopy index
  | pushCallback callback => exact settles_pushCallback callback
  | pushTable => exact settles_pushTable
  | pushGlobal name => exact settles_pushGlobal name raw
  | pushField index key => exact settles_pushField index key raw
  | swapField index => exact settles_swapField fits index raw
  | pop count => exact settles_pop count
  | popValue => exact settles_popValue
  | remove index => exact settles_remove index
  | bindGlobal name => exact settles_bindGlobal name raw
  | storeField index key => exact settles_storeField index key raw
  | register callback => exact settles_register callback raw

/-- An operation that is not refused is done, if its access can be made. -/
theorem Settles.exists_ok {op : Primitive β} (settles : op.Settles site m)
    (admitted : op.refusal m.stack = none) (reaches : op.Reaches site m.world.heap m.stack) :
    ∃ m', op.run site m = .ok () m' := by
  unfold Settles Ending.Meets at settles
  split at settles
  next m' hrun => exact ⟨m', hrun⟩
  next e m' hrun =>
    cases settles with
    | refused refusal => rw [admitted] at refusal; cases refusal
    | unreached far => exact absurd reaches far
  next => exact absurd reaches settles
  next => exact absurd reaches settles

end Operations

/-- Every primitive operation is done or undone. If it is done, it exchanges so many values for so
many others in one place and leaves the other slots as they were. If it is refused, the slots, the
callbacks, the globals and all tables are as they were. Exchanging a key for a field is not refused
for want of room, however full the stack is. -/
theorem primitive_is_atomic (site : Script.Site β σ) (op : Primitive β) (m : Machine β σ)
    (fits : m.stack.size ≤ m.stack.config.capacity) (raw : op.IsRaw m.world.heap m.stack) :
    Ending.Meets
      (fun _ m' => op.Done m.stack m'.stack ∧ m'.stack.size + op.takes = m.stack.size + op.puts)
      (op.Undone site m) (fun _ => ¬ op.Reaches site m.world.heap m.stack) (op.run site m) ∧
    ∀ index id, op = .swapField index → m.stack.table index = .ok id →
      site.Reaches m.world.heap id → ∃ m', op.run site m = .ok () m' := by
  have settles : op.Settles site m := settles_of_raw fits raw
  refine ⟨?_, ?_⟩
  · have hmeets := settles
    unfold Settles Ending.Meets at hmeets
    unfold Ending.Meets
    split at hmeets
    · exact ⟨hmeets, hmeets.exchange.size_eq⟩
    all_goals exact hmeets
  · rintro index id rfl htable reaches
    refine settles.exists_ok (tableFault_of_ok htable) fun id' hid' => ?_
    rw [accessed, accessed_of_table htable] at hid'
    cases hid'
    exact reaches

/-- A table that is its own key, on a stack with no room for more. -/
theorem primitive_is_atomic_full :
    let site : Script.Site Unit Unit := .outermost fun _ _ args => return args
    let config : Config := Config.standard.withCapacity 1
    let m : Machine Unit Unit := ⟨{ Stack.ofConfig config with slots := [.table Heap.globals] },
      ⟨Heap.initial, [], ()⟩⟩
    let op : Primitive Unit := .swapField (-1)
    m.stack.size ≤ m.stack.config.capacity ∧ op.IsRaw m.world.heap m.stack ∧
    m.stack.isFull = true ∧ ∃ m', op.run site m = .ok () m' ∧ m'.stack.size = 1 := by
  intro site config m op
  have fits : m.stack.size ≤ m.stack.config.capacity := by decide
  have raw : op.IsRaw m.world.heap m.stack := by
    intro id key htable _
    cases htable
    exact .inl rfl
  obtain ⟨hmeets, hswap⟩ := primitive_is_atomic site op m fits raw
  obtain ⟨m', hrun⟩ := hswap (-1) Heap.globals rfl rfl (.inl rfl)
  rw [hrun] at hmeets
  have hsize : m'.stack.size + 1 = 1 + 1 := hmeets.2
  exact ⟨fits, raw, by decide, m', hrun, by omega⟩

end Primitive

end ScriptBridge
