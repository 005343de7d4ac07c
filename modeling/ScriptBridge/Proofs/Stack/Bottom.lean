import ScriptBridge.Proofs.Stack.Invoke
import ScriptBridge.Proofs.Stack.Moves

/-!
# What lies at the bottom of a stack

`HostM.Spares p` says of an action that the values `p` lie at the bottom of the stack however it
ends: with a result, an error or a stop. An action that pushes spares whatever is there, one that
takes values off spares what it does not reach, and one that takes off what it pushed spares the
whole stack.
-/

namespace ScriptBridge

open HostM StackM

variable {ε ε' β σ α γ : Type}

/-! ## What lies at the bottom of a stack -/

/-- Some values lie at the bottom of a stack. -/
def Stack.Holds (p : List Value) (s : Stack) : Prop := p <+: s.slots

/-- Pushing keeps what lies at the bottom. -/
theorem Upward.holds (p : List Value) :
    Upward fun s s' => s.Holds p → s'.Holds p where
  refl _ h := h
  trans first second h := second (first h)
  push s vs _ h := h.trans (List.prefix_append s.slots vs)

theorem Stack.Holds.length_le {p : List Value} {s : Stack} (h : s.Holds p) : p.length ≤ s.size :=
  List.IsPrefix.length_le h

theorem Stack.Holds.take {p : List Value} {s : Stack} {n : Nat} (h : s.Holds p)
    (hle : p.length ≤ n) : p <+: s.slots.take n :=
  List.prefix_take_iff.mpr ⟨h, hle⟩

namespace HostM

/-- However an action ends, some values lie at the bottom of the stack then. -/
def Spares (p : List Value) (action : HostM ε β σ α) (m : Machine β σ) : Prop :=
  (Ending.machine (action m)).stack.Holds p

variable {p : List Value} {m : Machine β σ}

theorem spares_of_moves {action : HostM ε β σ α}
    (h : action.Moves fun s s' => s.Holds p → s'.Holds p) (hm : m.stack.Holds p) :
    action.Spares p m :=
  h m hm

theorem Spares.of_ok {action : HostM ε β σ α} {a : α} {m' : Machine β σ} (h : action.Spares p m)
    (run : action m = .ok a m') : m'.stack.Holds p := by
  unfold Spares at h
  rwa [run] at h

theorem spares_bind {action : HostM ε β σ γ} {next : γ → HostM ε β σ α} (h : action.Spares p m)
    (hnext : ∀ c m', action m = .ok c m' → m'.stack.Holds p → (next c).Spares p m') :
    (action >>= next).Spares p m := by
  unfold Spares
  cases hending : action m with
  | ok c m' =>
    rw [bind_of_ok hending]
    exact hnext c m' hending (h.of_ok hending)
  | error failure m' =>
    rw [bind_of_error hending]
    unfold Spares at h
    rwa [hending] at h

theorem spares_mapError {f : ε' → ε} {action : HostM ε' β σ α} (h : action.Spares p m) :
    (mapError f action).Spares p m := by
  unfold Spares at h ⊢
  simp only [mapError, EStateM.adaptExcept]
  cases hending : action m <;> rwa [hending] at h

theorem spares_attempt {action : HostM ε β σ α} (h : action.Spares p m) :
    (attempt action).Spares p m := by
  unfold Spares at h ⊢
  simp only [attempt]
  cases hending : action m with
  | ok a m' => rwa [hending] at h
  | error failure m' =>
    rw [hending] at h
    cases failure <;> exact h

theorem spares_discard {action : HostM ε β σ α} (h : action.Spares p m) :
    (discard action).Spares p m := by
  unfold Spares at h ⊢
  change (Ending.machine (EStateM.map (fun _ => ()) action m)).stack.Holds p
  simp only [EStateM.map]
  cases hending : action m <;> rwa [hending] at h

/-- What follows a look at the stack starts from the same stack. -/
theorem spares_stack {next : Stack → HostM ε β σ α} (h : (next m.stack).Spares p m) :
    (stack >>= next).Spares p m := h

theorem spares_pure {a : α} (h : m.stack.Holds p) : (pure a : HostM ε β σ α).Spares p m := h

theorem spares_fail {e : ε} (h : m.stack.Holds p) : (fail e : HostM ε β σ α).Spares p m := h

theorem spares_forM {action : γ → HostM ε β σ Unit}
    (h : ∀ c (m : Machine β σ), m.stack.Holds p → (action c).Spares p m) (cs : List γ)
    (hm : m.stack.Holds p) : (cs.forM action).Spares p m := by
  induction cs generalizing m with
  | nil => exact hm
  | cons c cs ih => exact spares_bind (h c m hm) fun _ m' _ hm' => ih hm'

end HostM

/-! ## Actions that take values off -/

namespace StackM

variable {p : List Value} {m : Machine β σ} {site : Script.Site β σ}

theorem spares_change {f : Stack → Except StackError Stack} (hm : m.stack.Holds p)
    (h : ∀ t, f m.stack = .ok t → t.Holds p) : (change f : StackM β σ Unit).Spares p m := by
  unfold Spares
  cases hchange : f m.stack with
  | ok t =>
    rw [change_of_ok hchange]
    exact h t hchange
  | error e =>
    rw [change_of_error hchange]
    exact hm

theorem spares_take {f : Stack → Except StackError (α × Stack)} (hm : m.stack.Holds p)
    (h : ∀ a t, f m.stack = .ok (a, t) → t.Holds p) : (take f : StackM β σ α).Spares p m := by
  unfold Spares
  cases htake : f m.stack with
  | ok taken =>
    obtain ⟨a, t⟩ := taken
    rw [take_of_ok htake]
    exact h a t htake
  | error e =>
    rw [take_of_error htake]
    exact hm

theorem spares_view_bind {f : Stack → Except StackError γ} {next : γ → StackM β σ α}
    (hm : m.stack.Holds p) (h : ∀ c, f m.stack = .ok c → (next c).Spares p m) :
    (view f >>= next).Spares p m := by
  unfold Spares
  cases hf : f m.stack with
  | ok c =>
    rw [bind_of_ok (view_of_ok hf)]
    exact h c hf
  | error e =>
    rw [bind_of_error (view_of_error hf)]
    exact hm

theorem spares_pop {count : Nat} (hm : m.stack.Holds p)
    (h : count ≤ m.stack.size → p.length ≤ m.stack.size - count) :
    (pop count : StackM β σ Unit).Spares p m := by
  refine spares_change hm fun t ht => ?_
  simp only [Stack.pop] at ht
  split at ht
  · cases ht
  next hcount =>
    cases ht
    exact hm.take (h (Nat.le_of_not_lt hcount))

theorem spares_popValue (hm : m.stack.Holds p) (h : p.length ≤ m.stack.size - 1) :
    (popValue : StackM β σ Value).Spares p m := by
  refine spares_take hm fun v t ht => ?_
  simp only [Stack.popValue] at ht
  split at ht
  · cases ht
    change p <+: m.stack.slots.dropLast
    rw [List.dropLast_eq_take]
    exact hm.take h
  · cases ht

theorem spares_remove {index : Int} (hm : m.stack.Holds p)
    (h : ∀ k, m.stack.offset? index = some k → p.length ≤ k) :
    (remove index : StackM β σ Value).Spares p m := by
  refine spares_take hm fun v t ht => ?_
  obtain ⟨k, hk, -, rfl⟩ := Stack.remove_ok_iff.mp ht
  change p <+: m.stack.slots.eraseIdx k
  rw [List.eraseIdx_eq_take_drop_succ]
  exact (hm.take (h k hk)).trans (List.prefix_append _ _)

theorem spares_bindGlobal {name : String} (hm : m.stack.Holds p)
    (h : p.length ≤ m.stack.size - 1) : (bindGlobal site name).Spares p m :=
  spares_bind (spares_popValue hm h) fun _ _ _ hm' =>
    spares_of_moves (moves_script (.holds p) site _) hm'

theorem spares_storeField {index : Int} {key : String} (hm : m.stack.Holds p)
    (h : ∀ id, m.stack.table index = .ok id → p.length ≤ m.stack.size - 1) :
    (storeField site index key).Spares p m := by
  refine spares_view_bind hm fun id hid => ?_
  exact spares_bind (spares_popValue hm (h id hid)) fun _ _ _ hm' =>
    spares_of_moves (moves_script (.holds p) site _) hm'

theorem spares_swapField {index : Int} (hm : m.stack.Holds p)
    (h : ∀ id, m.stack.table index = .ok id → p.length ≤ m.stack.size - 1) :
    (swapField site index).Spares p m := by
  have up := Upward.holds p
  refine spares_view_bind hm fun id hid => ?_
  refine spares_bind (spares_popValue hm (h id hid)) fun _ _ _ hm' => ?_
  exact spares_of_moves (moves_bind up (moves_script up site _) fun _ => moves_push up _) hm'

/-- A key is exchanged for one value. -/
theorem size_of_swapField {m' : Machine β σ} {index : Int}
    (run : swapField site index m = .ok () m') : m'.stack.size = m.stack.size := by
  have hends : (swapField site index).Ends m (fun _ m' => m'.stack.size = m.stack.size)
      (fun _ _ => True) (fun _ => True) := by
    refine ends_bind (ends_view (fun policy => m.stack.table_withBalance policy index)
      (fun id _ => ?_) fun _ _ => trivial)
    refine ends_bind (ends_popValue_cases (fun key s hs => ?_) fun _ => trivial)
    refine ends_bind (ends_script (fun v w _ => ?_) (fun _ _ _ => trivial) fun _ _ => trivial)
    refine ends_push (fun _ => ?_) fun _ => trivial
    rw [hs, Stack.size_extend, Stack.size_extend]
    rfl
  exact hends.of_ok run

theorem spares_invoke {inputs outputs : Nat} {handler : Int} (hm : m.stack.Holds p)
    (h : ∀ parts, m.stack.callParts inputs outputs handler = .ok parts →
      p.length ≤ parts.below.length) : (invoke site inputs outputs handler).Spares p m := by
  unfold Spares
  cases hparts : m.stack.callParts inputs outputs handler with
  | error e =>
    rw [invoke_of_refused hparts]
    exact hm
  | ok parts =>
    have up := Upward.holds p
    have hbelow : p <+: parts.below := by
      have hslots : p <+: parts.below ++ parts.callee :: parts.args := by
        rw [← (Stack.callParts_ok hparts).1]
        exact hm
      exact List.prefix_of_prefix_length_le hslots (List.prefix_append _ _) (h parts hparts)
    have hcalling : (m.calling parts.below inputs outputs).stack.Holds p := hbelow
    rw [invoke_of_parts hparts]
    exact spares_of_moves (moves_bind up (moves_callOutcome up site _ _)
      fun r => moves_settleCall up site outputs parts.handler r) hcalling

/-! ## Actions that take off what they pushed -/

/-- An action that pushes one value when it returns. -/
def PushesOne (action : StackM β σ Unit) : Prop :=
  ∀ m m', action m = .ok () m' → m'.stack.size = m.stack.size + 1

theorem pushesOne_push (v : Value) : PushesOne (push v : StackM β σ Unit) := by
  intro m m' h
  rw [push_apply] at h
  split at h
  · cases h
    exact m.stack.size_extend [v]
  · cases h

theorem pushesOne_pushCallback (callback : Callback β) :
    PushesOne (pushCallback callback : StackM β σ Unit) := by
  intro m m' h
  simp only [pushCallback, pushNew, stack_bind] at h
  split at h
  · cases h
  · cases h
    exact m.stack.size_extend [_]

theorem spares_addMember {index : Int} {key : String} {pushMember : StackM β σ Unit}
    (hpush : pushMember.Moves fun s s' => s.Holds p → s'.Holds p) (hone : PushesOne pushMember)
    (hm : m.stack.Holds p) : (addMember site index key pushMember).Spares p m := by
  have hsize := hm.length_le
  refine spares_bind (spares_of_moves (moves_stack (.holds p)) hm) fun s m₁ hs hm₁ => ?_
  cases hs
  split
  · exact spares_fail hm₁
  · refine spares_bind (spares_of_moves hpush hm₁) fun _ m₂ hpushed hm₂ => ?_
    refine spares_storeField hm₂ fun id _ => ?_
    rw [hone _ _ hpushed]
    exact hsize

theorem spares_register (callback : Callback β) (hm : m.stack.Holds p) :
    (register site callback).Spares p m := by
  have hsize := hm.length_le
  have up := Upward.holds p
  refine spares_bind (spares_of_moves (moves_pushCallback up callback) hm)
    fun _ m₁ hpushed hm₁ => ?_
  have hkept : p.length ≤ m₁.stack.size - 1 := by
    rw [pushesOne_pushCallback callback _ _ hpushed]
    exact hsize
  refine spares_bind (spares_bindGlobal hm₁ hkept) fun _ m₂ _ hm₂ => ?_
  exact spares_bind (spares_of_moves (moves_log up _ _) hm₂) fun _ m₃ _ hm₃ => hm₃

end StackM

/-! ## Scopes -/

namespace BalanceScope

variable {p : List Value} {m : Machine β σ} {scope : BalanceScope}

theorem spares_abandon (hm : m.stack.Holds p) (hentry : p.length ≤ scope.entry) :
    (scope.abandon : HostM ε β σ Unit).Spares p m := by
  unfold Spares
  rw [abandon_apply]
  split
  · exact hm.take hentry
  · exact hm

theorem spares_guarding {action : HostM ε β σ α} (h : action.Spares p m)
    (hentry : p.length ≤ scope.entry) : (scope.guarding action).Spares p m := by
  refine spares_bind (spares_attempt h) fun r m₁ _ hm₁ => ?_
  cases r with
  | ok a => exact spares_pure hm₁
  | error e =>
    exact spares_bind (spares_abandon hm₁ hentry) fun _ m₂ _ hm₂ => spares_fail hm₂

end BalanceScope

end ScriptBridge
