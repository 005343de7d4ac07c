import ScriptBridge.Proofs.Stack.Invoke
import ScriptBridge.Proofs.Stack.Moves

/-!
# Where actions that take values off take the stack

An action that pushes values and takes values off moves the stack along every relation that neither
breaks. Calls are among these actions: what runs during a call has a stack of its own.
-/

namespace ScriptBridge

open HostM StackM

variable {ε β σ : Type} {R : Stack → Stack → Prop} (up : Upward R) (down : Downward R)

include up down

/-! ## Actions that take values off -/

namespace StackM

theorem moves_pop (count : Nat) : (pop count : StackM β σ Unit).Moves R := by
  apply moves_change up
  intro s t h
  simp only [Stack.pop] at h
  split at h
  · cases h
  · cases h
    apply down
    rw [List.length_take]
    exact Nat.min_le_right _ _

theorem moves_popValue : (popValue : StackM β σ Value).Moves R := by
  apply moves_take up
  intro s v t h
  simp only [Stack.popValue] at h
  split at h
  · cases h
    apply down
    rw [List.length_dropLast]
    exact Nat.sub_le _ _
  · cases h

theorem moves_remove (index : Int) : (remove index : StackM β σ Value).Moves R := by
  apply moves_take up
  intro s v t h
  obtain ⟨k, -, -, rfl⟩ := Stack.remove_ok_iff.mp h
  exact down _ _ (List.length_eraseIdx_le _ _)

variable (site : Script.Site β σ)

theorem moves_bindGlobal (name : String) : (bindGlobal site name).Moves R :=
  moves_bind up (moves_popValue up down) fun _ => moves_script up site _

theorem moves_storeField (index : Int) (key : String) :
    (storeField site index key).Moves R :=
  moves_bind up (moves_view up _) fun _ =>
    moves_bind up (moves_popValue up down) fun _ => moves_script up site _

theorem moves_swapField (index : Int) : (swapField site index).Moves R :=
  moves_bind up (moves_view up _) fun _ =>
    moves_bind up (moves_popValue up down) fun _ =>
      moves_bind up (moves_script up site _) fun _ => moves_push up _

theorem moves_addMember (index : Int) (key : String) {pushMember : StackM β σ Unit}
    (h : pushMember.Moves R) :
    (addMember site index key pushMember).Moves R := by
  refine moves_bind up (moves_stack up) fun s => ?_
  split
  · exact moves_fail up _
  · exact moves_bind up h fun _ => moves_storeField up down site _ key

theorem moves_invoke (inputs outputs : Nat) (handler : Int) :
    (invoke site inputs outputs handler).Moves R := by
  intro m
  cases hparts : m.stack.callParts inputs outputs handler with
  | error e =>
    rw [invoke_of_refused hparts]
    exact up.refl _
  | ok parts =>
    rw [invoke_of_parts hparts]
    have hsize := (Stack.callParts_ok hparts).2.1
    have htaken : R m.stack (m.calling parts.below inputs outputs).stack := down _ _ (by omega)
    exact up.trans htaken (moves_bind up (moves_callOutcome up site _ _)
      (fun r => moves_settleCall up site outputs parts.handler r) _)

end StackM

/-! ## Scopes -/

namespace BalanceScope

theorem moves_abandon (scope : BalanceScope) :
    (scope.abandon : HostM ε β σ Unit).Moves R := by
  intro m
  rw [abandon_apply]
  split
  · apply down
    rw [List.length_take]
    exact Nat.min_le_right _ _
  · exact up.refl _

theorem moves_guarding (scope : BalanceScope) {α : Type} {action : HostM ε β σ α}
    (h : action.Moves R) : (scope.guarding action).Moves R := by
  refine moves_bind up (moves_attempt h) fun r => ?_
  cases r with
  | ok a => exact moves_pure up a
  | error e => exact moves_bind up (moves_abandon up down scope) fun _ => moves_fail up e

end BalanceScope

end ScriptBridge
