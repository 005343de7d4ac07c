import ScriptBridge.Proofs.Stack.Slots

/-!
# How the actions on a stack end

One rule for each action that pushes, drops or takes values, on a stack with known values on top,
and for the actions of a balance scope. A scope is balanced when the stack has the size that it
expects; only then is the end of the scope the same under every balance policy.
-/

namespace ScriptBridge

variable {ε β σ α : Type}

/-! ## Operations under another balance policy -/

namespace Stack

variable (s : Stack) (policy : BalancePolicy)

@[simp] theorem slots_withBalance : (s.withBalance policy).slots = s.slots := rfl

@[simp] theorem size_withBalance : (s.withBalance policy).size = s.size := rfl

@[simp] theorem offset?_withBalance (index : Int) :
    (s.withBalance policy).offset? index = s.offset? index := rfl

@[simp] theorem table_withBalance (index : Int) :
    (s.withBalance policy).table index = s.table index := rfl

theorem push_withBalance (v : Value) :
    (s.withBalance policy).push v = (s.push v).map (·.withBalance policy) := by
  change (if s.isFull then _ else _) = _
  unfold push
  split <;> rfl

theorem pop_withBalance (count : Nat) :
    (s.withBalance policy).pop count = (s.pop count).map (·.withBalance policy) := by
  change (if s.size < count then _ else _) = _
  unfold pop
  split <;> rfl

theorem popValue_withBalance :
    (s.withBalance policy).popValue =
      s.popValue.map fun (v, t) => (v, t.withBalance policy) := by
  unfold popValue
  rw [slots_withBalance]
  split <;> rfl

theorem remove_withBalance (index : Int) :
    (s.withBalance policy).remove index =
      (s.remove index).map fun (v, t) => (v, t.withBalance policy) := by
  unfold remove
  rw [offset?_withBalance]
  split
  · rw [slots_withBalance]
    split <;> rfl
  · rfl

end Stack

namespace StackM

open HostM

variable {m : Machine β σ} {s : Stack} {fails : StackError → Machine β σ → Prop}
  {stops : Stop → Prop}

/-! ## Parts and changes of the stack -/

theorem change_of_ok {f : Stack → Except StackError Stack} {t : Stack}
    (h : f m.stack = .ok t) :
    (change f : StackM β σ Unit) m = .ok () { m with stack := t } := by
  simp only [change, stack_bind, h]
  rfl

theorem change_of_error {f : Stack → Except StackError Stack} {e : StackError}
    (h : f m.stack = .error e) : (change f : StackM β σ Unit) m = .error (.error e) m := by
  simp only [change, stack_bind, h]
  rfl

theorem take_of_ok {f : Stack → Except StackError (α × Stack)} {a : α} {t : Stack}
    (h : f m.stack = .ok (a, t)) : (take f : StackM β σ α) m = .ok a { m with stack := t } := by
  simp only [take, stack_bind, h]
  rfl

theorem take_of_error {f : Stack → Except StackError (α × Stack)} {e : StackError}
    (h : f m.stack = .error e) : (take f : StackM β σ α) m = .error (.error e) m := by
  simp only [take, stack_bind, h]
  rfl

theorem view_of_ok {f : Stack → Except StackError α} {a : α} (h : f m.stack = .ok a) :
    (view f : StackM β σ α) m = .ok a m := by
  simp only [view, stack_bind, h]
  rfl

theorem view_of_error {f : Stack → Except StackError α} {e : StackError}
    (h : f m.stack = .error e) : (view f : StackM β σ α) m = .error (.error e) m := by
  simp only [view, stack_bind, h]
  rfl

theorem ends_change {f : Stack → Except StackError Stack} {returns : Unit → Machine β σ → Prop}
    (huniform : ∀ policy, f (m.stack.withBalance policy) =
      (f m.stack).map (·.withBalance policy))
    (hreturns : ∀ t, f m.stack = .ok t → returns () { m with stack := t })
    (hfails : ∀ e, f m.stack = .error e → fails e m) :
    (change f).Ends m returns fails stops := by
  cases h : f m.stack with
  | ok t =>
    refine ⟨?_, fun policy => ?_⟩
    · rw [change_of_ok h]
      exact hreturns t h
    · have hpolicy : f (m.withBalance policy).stack = .ok (t.withBalance policy) :=
        (huniform policy).trans (by rw [h]; rfl)
      rw [change_of_ok h, change_of_ok hpolicy]
      rfl
  | error e =>
    refine ⟨?_, fun policy => ?_⟩
    · rw [change_of_error h]
      exact hfails e h
    · have hpolicy : f (m.withBalance policy).stack = .error e :=
        (huniform policy).trans (by rw [h]; rfl)
      rw [change_of_error h, change_of_error hpolicy]
      rfl

theorem ends_take {f : Stack → Except StackError (α × Stack)} {returns : α → Machine β σ → Prop}
    (huniform : ∀ policy, f (m.stack.withBalance policy) =
      (f m.stack).map fun (a, t) => (a, t.withBalance policy))
    (hreturns : ∀ a t, f m.stack = .ok (a, t) → returns a { m with stack := t })
    (hfails : ∀ e, f m.stack = .error e → fails e m) :
    (take f).Ends m returns fails stops := by
  cases h : f m.stack with
  | ok taken =>
    obtain ⟨a, t⟩ := taken
    refine ⟨?_, fun policy => ?_⟩
    · rw [take_of_ok h]
      exact hreturns a t h
    · have hpolicy : f (m.withBalance policy).stack = .ok (a, t.withBalance policy) :=
        (huniform policy).trans (by rw [h]; rfl)
      rw [take_of_ok h, take_of_ok hpolicy]
      rfl
  | error e =>
    refine ⟨?_, fun policy => ?_⟩
    · rw [take_of_error h]
      exact hfails e h
    · have hpolicy : f (m.withBalance policy).stack = .error e :=
        (huniform policy).trans (by rw [h]; rfl)
      rw [take_of_error h, take_of_error hpolicy]
      rfl

theorem ends_view {f : Stack → Except StackError α} {returns : α → Machine β σ → Prop}
    (huniform : ∀ policy, f (m.stack.withBalance policy) = f m.stack)
    (hreturns : ∀ a, f m.stack = .ok a → returns a m)
    (hfails : ∀ e, f m.stack = .error e → fails e m) :
    (view f).Ends m returns fails stops := by
  refine ends_stack (fun policy => by rw [huniform]) ?_
  cases h : f m.stack with
  | ok a => exact ends_pure (hreturns a h)
  | error e => exact ends_fail (hfails e h)

/-! ## Pushing and dropping -/

theorem push_apply (v : Value) (m : Machine β σ) :
    (push v : StackM β σ Unit) m =
      if m.stack.size < m.stack.config.capacity then .ok () { m with stack := m.stack.extend [v] }
      else .error (.error m.stack.overflow) m := by
  simp only [push, change, stack_bind]
  split
  next h => simp only [Stack.push_of_lt v h]; rfl
  next h => simp only [Stack.push_of_le v (Nat.le_of_not_lt h)]; rfl

theorem pushCopy_of_peek {index : Int} {v : Value} (h : m.stack.peek index = some v) :
    (change (·.pushCopy index) : StackM β σ Unit) m = push v m := by
  simp only [push, change, stack_bind, Stack.pushCopy, h]

theorem pushCopy_of_absent {index : Int} (h : m.stack.peek index = none) :
    (change (·.pushCopy index) : StackM β σ Unit) m = .error (.error (.invalidIndex index)) m := by
  have hcopy : m.stack.pushCopy index = .error (.invalidIndex index) := by
    simp only [Stack.pushCopy, h]
  exact change_of_error (f := (·.pushCopy index)) hcopy

theorem pushAll_apply (vs : List Value) (m : Machine β σ) :
    (pushAll vs : StackM β σ Unit) m =
      let room := m.stack.config.capacity - m.stack.size
      let m' : Machine β σ := { m with stack := m.stack.extend (vs.take room) }
      if room < vs.length then .error (.error m.stack.overflow) m' else .ok () m' := by
  simp only [pushAll, stack_bind]
  split <;> rfl

/-- Values for which there is room are all pushed. -/
theorem pushAll_of_le {vs : List Value} {m : Machine β σ}
    (h : vs.length ≤ m.stack.config.capacity - m.stack.size) :
    (pushAll vs : StackM β σ Unit) m = .ok () { m with stack := m.stack.extend vs } := by
  have hroom : ¬ m.stack.config.capacity - m.stack.size < vs.length := by omega
  simp only [pushAll_apply, hroom, if_false, List.take_of_length_le h]

theorem ends_push {v : Value} {returns : Unit → Machine β σ → Prop}
    (hroom : m.stack.size < m.stack.config.capacity →
      returns () { m with stack := m.stack.extend [v] })
    (hfull : m.stack.config.capacity ≤ m.stack.size → fails m.stack.overflow m) :
    (push v).Ends m returns fails stops := by
  refine ends_change (fun policy => m.stack.push_withBalance policy v) (fun t h => ?_)
    (fun e h => ?_)
  · by_cases hlt : m.stack.size < m.stack.config.capacity
    · rw [Stack.push_of_lt v hlt] at h
      cases h
      exact hroom hlt
    · rw [Stack.push_of_le v (Nat.le_of_not_lt hlt)] at h
      cases h
  · by_cases hlt : m.stack.size < m.stack.config.capacity
    · rw [Stack.push_of_lt v hlt] at h
      cases h
    · rw [Stack.push_of_le v (Nat.le_of_not_lt hlt)] at h
      cases h
      exact hfull (Nat.le_of_not_lt hlt)

theorem ends_pushAll {vs : List Value} {returns : Unit → Machine β σ → Prop}
    (hroom : vs.length ≤ m.stack.config.capacity - m.stack.size →
      returns () { m with stack := m.stack.extend vs })
    (hfull : ∀ us, m.stack.config.capacity - m.stack.size < vs.length →
      fails m.stack.overflow { m with stack := m.stack.extend us }) :
    (pushAll vs).Ends m returns fails stops := by
  constructor
  · rw [pushAll_apply]
    by_cases hlt : m.stack.config.capacity - m.stack.size < vs.length
    · simp only [if_pos hlt]
      exact hfull _ hlt
    · simp only [if_neg hlt]
      rw [List.take_of_length_le (by omega)]
      exact hroom (by omega)
  · intro policy
    rw [pushAll_apply, pushAll_apply]
    change (if m.stack.config.capacity - m.stack.size < vs.length then _ else _) = _
    simp only
    split <;> rfl

/-- Values that were all pushed had room. -/
theorem pushAll_ok {vs : List Value} {m' : Machine β σ}
    (h : (pushAll vs : StackM β σ Unit) m = .ok () m') :
    vs.length ≤ m.stack.config.capacity - m.stack.size ∧ m'.stack = m.stack.extend vs := by
  have hends : (pushAll vs : StackM β σ Unit).Ends m
      (fun _ m' => vs.length ≤ m.stack.config.capacity - m.stack.size ∧
        m'.stack = m.stack.extend vs) (fun _ _ => True) (fun _ => True) :=
    ends_pushAll (fun hroom => ⟨hroom, rfl⟩) fun _ _ => trivial
  exact hends.of_ok h

theorem pushNew_apply (allocate : Heap β → Value × Heap β) (m : Machine β σ) :
    (pushNew allocate : StackM β σ Unit) m =
      if m.stack.size < m.stack.config.capacity then
        .ok () ⟨m.stack.extend [(allocate m.world.heap).1],
          { m.world with heap := (allocate m.world.heap).2 }⟩
      else .error (.error m.stack.overflow) m := by
  simp only [pushNew, stack_bind, m.stack.isFull_iff]
  by_cases hlt : m.stack.size < m.stack.config.capacity
  · rw [if_pos hlt, if_neg (Nat.not_le_of_lt hlt)]
    rfl
  · rw [if_neg hlt, if_pos (Nat.le_of_not_lt hlt)]
    rfl

/-- A new table has the next number of the heap, and its position has to be an index. -/
theorem pushTable_apply (m : Machine β σ) :
    (pushTable : StackM β σ Int) m =
      if m.stack.size + 1 ≤ maxIndex ∧ m.stack.size < m.stack.config.capacity then
        .ok (m.stack.size + 1) ⟨m.stack.extend [.table m.world.heap.tables.size],
          { m.world with heap := (m.world.heap.allocTable .empty).2 }⟩
      else .error (.error m.stack.overflow) m := by
  have hnew := pushNew_apply (σ := σ) (fun heap : Heap β =>
    (.table (heap.allocTable .empty).1, (heap.allocTable .empty).2)) m
  simp only [pushTable, stack_bind]
  by_cases hindex : m.stack.size + 1 ≤ maxIndex
  · rw [if_neg (Nat.not_lt_of_le hindex)]
    by_cases hlt : m.stack.size < m.stack.config.capacity
    · rw [if_pos hlt] at hnew
      rw [if_pos ⟨hindex, hlt⟩]
      exact bind_of_ok hnew
    · rw [if_neg hlt] at hnew
      rw [if_neg fun h => hlt h.2]
      exact bind_of_error hnew
  · rw [if_pos (Nat.lt_of_not_le hindex), if_neg fun h => hindex h.1]
    rfl

theorem pushTable_ok {m m' : Machine β σ} {position : Int}
    (h : (pushTable : StackM β σ Int) m = .ok position m') :
    position = m.stack.size + 1 ∧ m.stack.size + 1 ≤ maxIndex ∧
      m' = ⟨m.stack.extend [.table m.world.heap.tables.size],
        { m.world with heap := (m.world.heap.allocTable .empty).2 }⟩ := by
  rw [pushTable_apply] at h
  split at h
  next hroom =>
    cases h
    exact ⟨rfl, hroom.1, rfl⟩
  · cases h

/-- A callback that is pushed gets the configuration of the stack for its frames. -/
theorem pushCallback_eq (callback : Callback β) (m : Machine β σ) :
    (pushCallback callback : StackM β σ Unit) m =
      if m.stack.size < m.stack.config.capacity then
        .ok () ⟨m.stack.extend [.function m.world.heap.functions.size], { m.world with
          heap := (m.world.heap.allocFunction (.host callback m.stack.config)).2 }⟩
      else .error (.error m.stack.overflow) m := by
  simp only [pushCallback, stack_bind, pushNew_apply]
  rfl

theorem ends_pushNew {allocate : Heap β → Value × Heap β} {returns : Unit → Machine β σ → Prop}
    (hroom : m.stack.size < m.stack.config.capacity → ∀ v heap,
      returns () ⟨m.stack.extend [v], { m.world with heap := heap }⟩)
    (hfull : m.stack.config.capacity ≤ m.stack.size → fails m.stack.overflow m) :
    (pushNew allocate).Ends m returns fails stops := by
  constructor
  · rw [pushNew_apply]
    split
    next hlt => exact hroom hlt _ _
    next hlt => exact hfull (Nat.le_of_not_lt hlt)
  · intro policy
    rw [pushNew_apply, pushNew_apply]
    change (if m.stack.size < m.stack.config.capacity then _ else _) = _
    split <;> rfl

theorem ends_pop (vs : List Value) {returns : Unit → Machine β σ → Prop}
    (hstack : m.stack = s.extend vs) (h : returns () { m with stack := s }) :
    (pop vs.length).Ends m returns fails stops := by
  have hpop : m.stack.pop vs.length = .ok s := by
    simpa [hstack] using s.pop_extend [] vs
  refine ends_change (fun policy => m.stack.pop_withBalance policy vs.length) (fun t ht => ?_)
    (fun e he => ?_)
  · rw [hpop] at ht
    cases ht
    exact h
  · rw [hpop] at he
    cases he

theorem ends_popValue {v : Value} {returns : Value → Machine β σ → Prop}
    (hstack : m.stack = s.extend [v]) (h : returns v { m with stack := s }) :
    popValue.Ends m returns fails stops := by
  have hpop : m.stack.popValue = .ok (v, s) := by rw [hstack, Stack.popValue_extend]
  refine ends_take (fun policy => m.stack.popValue_withBalance policy) (fun a t ht => ?_)
    (fun e he => ?_)
  · rw [hpop] at ht
    cases ht
    exact h
  · rw [hpop] at he
    cases he

/-- Taking the value off the top needs one there. -/
theorem ends_popValue_cases {returns : Value → Machine β σ → Prop}
    (htaken : ∀ v s, m.stack = s.extend [v] → returns v { m with stack := s })
    (hempty : m.stack.size = 0 → fails (.underflow 1 0) m) :
    popValue.Ends m returns fails stops := by
  refine ends_take (fun policy => m.stack.popValue_withBalance policy)
    (fun v s h => htaken v s (Stack.popValue_ok h)) fun e h => ?_
  obtain ⟨hsize, rfl⟩ := Stack.popValue_error h
  exact hempty hsize

theorem ends_remove_second {u v : Value} {returns : Value → Machine β σ → Prop}
    (hstack : m.stack = s.extend [u, v]) (h : returns u { m with stack := s.extend [v] }) :
    (remove (-2)).Ends m returns fails stops := by
  have hremove : m.stack.remove (-2) = .ok (u, s.extend [v]) := by
    rw [hstack, Stack.remove_second_extend]
  refine ends_take (fun policy => m.stack.remove_withBalance policy (-2)) (fun a t ht => ?_)
    (fun e he => ?_)
  · rw [hremove] at ht
    cases ht
    exact h
  · rw [hremove] at he
    cases he

theorem ends_note {name : String} {minArgs : Nat} {returns : Unit → Machine β σ → Prop}
    (h : returns () { m with stack := m.stack.note name minArgs }) :
    (modify fun m => { m with stack := m.stack.note name minArgs } : StackM β σ Unit).Ends m
      returns fails stops :=
  ⟨h, fun _ => rfl⟩

theorem ends_view_table {index : Int} {id : ObjectId} {returns : ObjectId → Machine β σ → Prop}
    (htable : m.stack.table index = .ok id) (h : returns id m) :
    (view (·.table index)).Ends m returns fails stops := by
  refine ends_view (fun policy => m.stack.table_withBalance policy index) (fun a ha => ?_)
    (fun e he => ?_)
  · rw [htable] at ha
    cases ha
    exact h
  · rw [htable] at he
    cases he

end StackM

namespace BalanceScope

open HostM

variable {m : Machine β σ} {s : Stack} {fails : ε → Machine β σ → Prop} {stops : Stop → Prop}
  {returns : Unit → Machine β σ → Prop}

/-! ## Scopes -/

theorem ends_enter {label : String} {delta : Int} {returns : BalanceScope → Machine β σ → Prop}
    (h : returns ⟨label, delta, m.stack.size⟩ m) :
    (enter label delta : HostM ε β σ BalanceScope).Ends m returns fails stops :=
  ends_stack (fun _ => rfl) (ends_pure h)

theorem finish_of_balanced (scope : BalanceScope) (h : (m.stack.size : Int) = scope.expected) :
    (scope.finish : HostM ε β σ Unit) m = .ok () m := by
  simp only [finish, stack_bind, if_pos h]
  rfl

/-- A balanced scope ends without a report. -/
theorem ends_finish {scope : BalanceScope} (hbalanced : (m.stack.size : Int) = scope.expected)
    (h : returns () m) : (finish scope : HostM ε β σ Unit).Ends m returns fails stops := by
  refine ends_stack (fun policy => ?_) ?_
  · simp only [Stack.size_withBalance, hbalanced, if_true]
  · simp only [hbalanced, if_true]
    exact ends_pure h

theorem abandon_apply (scope : BalanceScope) (m : Machine β σ) :
    (abandon scope : HostM ε β σ Unit) m =
      if scope.entry < m.stack.size then
        .ok () ⟨m.stack.truncate scope.entry, { m.world with
          journal := m.world.journal ++ [⟨.trace, scope.label ++ ": discarding "
            ++ toString (m.stack.size - scope.entry) ++ " values"⟩] }⟩
      else .ok () m := by
  simp only [abandon, stack_bind]
  split <;> rfl

/-- Abandoning a scope brings the stack back to its start; what is discarded is only logged. -/
theorem ends_abandon {scope : BalanceScope} (vs : List Value) (hstack : m.stack = s.extend vs)
    (hentry : scope.entry = s.size)
    (h : ∀ journal, returns () ⟨s, { m.world with journal := journal }⟩) :
    (abandon scope : HostM ε β σ Unit).Ends m returns fails stops := by
  constructor
  · rw [abandon_apply]
    split
    · rw [hentry, hstack, Stack.truncate_extend]
      exact h _
    next hsize =>
      have hnil : vs = [] := by
        rw [hentry, hstack, Stack.size_extend] at hsize
        exact List.eq_nil_of_length_eq_zero (by omega)
      have hs : m.stack = s := by rw [hstack, hnil, Stack.extend_nil]
      rw [← hs] at h
      exact h m.world.journal
  · intro policy
    rw [abandon_apply, abandon_apply]
    change (if scope.entry < m.stack.size then _ else _) = _
    split <;> rfl

end BalanceScope

end ScriptBridge
