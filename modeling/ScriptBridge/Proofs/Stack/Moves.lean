import ScriptBridge.Proofs.Stack.Actions
import ScriptBridge.Script.Chunk
import ScriptBridge.Stack.Invoke

/-!
# Where actions take the stack

`HostM.Moves R` says of an action that it takes every stack to one that is `R`-related to it,
however it ends: with a result, an error or a stop. A relation is `Upward` when it can be followed
from stack to stack and holds of a stack and what is pushed on it within its capacity. An action
that only pushes moves the stack along every such relation, so that what pushing keeps is proved of
all these actions at once. An action that takes values off as well needs a relation that is
`Downward` too.
-/

namespace ScriptBridge

variable {ε ε' β σ α γ : Type}

/-- A relation that can be followed from stack to stack, and that pushes do not break. -/
structure Upward (R : Stack → Stack → Prop) : Prop where
  refl : ∀ s, R s s
  trans : ∀ {s t u}, R s t → R t u → R s u
  push : ∀ s vs, vs.length ≤ s.config.capacity - s.size → R s (s.extend vs)

/-- Taking values off does not break a relation. -/
def Downward (R : Stack → Stack → Prop) : Prop :=
  ∀ (s : Stack) (vs : List Value), vs.length ≤ s.size → R s { s with slots := vs }

namespace HostM

/-- The machine at the end of an action. -/
def Ending.machine : Ending ε β σ α → Machine β σ
  | .ok _ m => m
  | .error _ m => m

/-- An action takes every stack to one that is related to it, however it ends. -/
def Moves (R : Stack → Stack → Prop) (action : HostM ε β σ α) : Prop :=
  ∀ m, R m.stack (Ending.machine (action m)).stack

section Rules

variable {R : Stack → Stack → Prop} (up : Upward R)

include up

/-! ## The rules -/

/-- An action that leaves the stack alone. -/
theorem moves_of_eq {action : HostM ε β σ α}
    (h : ∀ m, (Ending.machine (action m)).stack = m.stack) : action.Moves R := by
  intro m
  rw [h m]
  exact up.refl m.stack

theorem moves_pure (a : α) : (pure a : HostM ε β σ α).Moves R := moves_of_eq up fun _ => rfl

theorem moves_throw (failure : Failure ε) : (throw failure : HostM ε β σ α).Moves R :=
  moves_of_eq up fun _ => rfl

theorem moves_fail (e : ε) : (fail e : HostM ε β σ α).Moves R := moves_throw up (.error e)

theorem moves_stack : (stack : HostM ε β σ Stack).Moves R := moves_of_eq up fun _ => rfl

theorem moves_memory : (memory : HostM ε β σ σ).Moves R := moves_of_eq up fun _ => rfl

theorem moves_modifyMemory (f : σ → σ) : (modifyMemory f : HostM ε β σ Unit).Moves R :=
  moves_of_eq up fun _ => rfl

theorem moves_log (level : LogLevel) (text : String) :
    (log level text : HostM ε β σ Unit).Moves R :=
  moves_of_eq up fun _ => rfl

theorem moves_bind {action : HostM ε β σ γ} {next : γ → HostM ε β σ α} (h : action.Moves R)
    (hnext : ∀ c, (next c).Moves R) : (action >>= next).Moves R := by
  intro m
  have hfirst := h m
  cases hending : action m with
  | ok c m' =>
    rw [hending] at hfirst
    rw [bind_of_ok hending]
    exact up.trans hfirst (hnext c m')
  | error failure m' =>
    rw [hending] at hfirst
    rw [bind_of_error hending]
    exact hfirst

omit up in
theorem moves_attempt {action : HostM ε β σ α} (h : action.Moves R) :
    (attempt action).Moves R := by
  intro m
  have hm := h m
  simp only [attempt]
  cases hending : action m with
  | ok a m' => rwa [hending] at hm
  | error failure m' =>
    rw [hending] at hm
    cases failure <;> exact hm

omit up in
theorem moves_mapError {f : ε' → ε} {action : HostM ε' β σ α} (h : action.Moves R) :
    (mapError f action).Moves R := by
  intro m
  have hm := h m
  simp only [mapError, EStateM.adaptExcept]
  cases hending : action m <;> rwa [hending] at hm

omit up in
theorem moves_discard {action : HostM ε β σ α} (h : action.Moves R) :
    (discard action).Moves R := by
  intro m
  have hm := h m
  change R m.stack (Ending.machine (EStateM.map (fun _ => ()) action m)).stack
  simp only [EStateM.map]
  cases hending : action m <;> rwa [hending] at hm

theorem moves_forM {action : γ → HostM ε β σ Unit} (h : ∀ c, (action c).Moves R)
    (cs : List γ) : (cs.forM action).Moves R := by
  induction cs with
  | nil => exact moves_pure up ()
  | cons c cs ih => exact moves_bind up (h c) fun _ => ih

theorem moves_mapM {action : γ → HostM ε β σ α} (h : ∀ c, (action c).Moves R)
    (cs : List γ) : (cs.mapM action).Moves R := by
  induction cs with
  | nil => exact moves_pure up []
  | cons c cs ih =>
    rw [List.mapM_cons]
    exact moves_bind up (h c) fun _ => moves_bind up ih fun _ => moves_pure up _

end Rules

end HostM

namespace StackM

open HostM

section Rules

variable {R : Stack → Stack → Prop} (up : Upward R)

include up

/-! ## Parts and changes of the stack -/

theorem moves_attemptScript (site : Script.Site β σ) (action : ScriptM β σ α) :
    (attemptScript site action : HostM ε β σ _).Moves R := by
  refine moves_of_eq up fun m => ?_
  simp only [attemptScript]
  split <;> rfl

theorem moves_script (site : Script.Site β σ) (action : ScriptM β σ α) :
    (script site action).Moves R := by
  refine moves_bind up (moves_attemptScript up site action) fun r => ?_
  cases r with
  | ok a => exact moves_pure up a
  | error e => exact moves_fail up _

theorem moves_change {f : Stack → Except StackError Stack}
    (h : ∀ s t, f s = .ok t → R s t) : (change f : StackM β σ Unit).Moves R := by
  intro m
  cases hchange : f m.stack with
  | ok t =>
    rw [change_of_ok hchange]
    exact h _ _ hchange
  | error e =>
    rw [change_of_error hchange]
    exact up.refl _

theorem moves_take {f : Stack → Except StackError (α × Stack)}
    (h : ∀ s a t, f s = .ok (a, t) → R s t) : (take f : StackM β σ α).Moves R := by
  intro m
  cases htake : f m.stack with
  | ok taken =>
    obtain ⟨a, t⟩ := taken
    rw [take_of_ok htake]
    exact h _ _ _ htake
  | error e =>
    rw [take_of_error htake]
    exact up.refl _

theorem moves_view (f : Stack → Except StackError α) : (view f : StackM β σ α).Moves R := by
  refine moves_bind up (moves_stack up) fun s => ?_
  split
  · exact moves_pure up _
  · exact moves_fail up _

/-! ## Pushing -/

theorem moves_push (v : Value) : (push v : StackM β σ Unit).Moves R := by
  intro m
  rw [push_apply]
  split
  next hlt => exact up.push m.stack [v] (Nat.succ_le_of_lt (Nat.sub_pos_of_lt hlt))
  next => exact up.refl _

theorem moves_pushCopy (index : Int) :
    (change (·.pushCopy index) : StackM β σ Unit).Moves R := by
  intro m
  cases hpeek : m.stack.peek index with
  | some v =>
    rw [pushCopy_of_peek hpeek]
    exact moves_push up v m
  | none =>
    rw [pushCopy_of_absent hpeek]
    exact up.refl _

theorem moves_pushText (text : String) : (pushText text : StackM β σ Unit).Moves R :=
  moves_push up _

theorem moves_pushArg (a : Arg) : (pushArg a : StackM β σ Unit).Moves R := moves_push up _

theorem moves_pushAll (vs : List Value) : (pushAll vs : StackM β σ Unit).Moves R := by
  intro m
  have hroom : (vs.take (m.stack.config.capacity - m.stack.size)).length ≤
      m.stack.config.capacity - m.stack.size := by
    rw [List.length_take]
    exact Nat.min_le_left _ _
  rw [pushAll_apply]
  simp only
  split <;> exact up.push m.stack _ hroom

theorem moves_pushNew (allocate : Heap β → Value × Heap β) :
    (pushNew allocate : StackM β σ Unit).Moves R := by
  intro m
  simp only [pushNew, stack_bind]
  split
  · exact up.refl _
  next hfull =>
    have hlt : m.stack.size < m.stack.config.capacity :=
      Nat.lt_of_not_le fun h => hfull (m.stack.isFull_iff.mpr h)
    exact up.push m.stack [(allocate m.world.heap).1] (Nat.succ_le_of_lt (Nat.sub_pos_of_lt hlt))

theorem moves_pushCallback (callback : Callback β) :
    (pushCallback callback : StackM β σ Unit).Moves R :=
  moves_bind up (moves_stack up) fun _ => moves_pushNew up _

theorem moves_pushTable : (pushTable : StackM β σ Int).Moves R := by
  refine moves_bind up (moves_stack up) fun s => ?_
  split
  · exact moves_fail up _
  · exact moves_bind up (moves_pushNew up _) fun _ => moves_pure up _

theorem moves_pushGlobal (site : Script.Site β σ) (name : String) :
    (pushGlobal site name).Moves R :=
  moves_bind up (moves_script up site _) fun _ => moves_push up _

theorem moves_pushField (site : Script.Site β σ) (index : Int) (key : String) :
    (pushField site index key).Moves R :=
  moves_bind up (moves_view up _) fun _ =>
    moves_bind up (moves_script up site _) fun _ => moves_push up _

/-! ## Scripts and calls -/

theorem moves_settle (outcome : Except ScriptError Unit) :
    (settle outcome : StackM β σ Unit).Moves R := by
  cases outcome with
  | ok => exact moves_pure up ()
  | error e => exact moves_bind up (moves_log up _ _) fun _ => moves_fail up _

theorem moves_runChunk (site : Script.Site β σ) (name shown source : Bytes) :
    (runChunk site name shown source).Moves R := by
  unfold runChunk
  split
  · exact moves_pure up _
  · refine moves_bind up (moves_attemptScript up site _) fun r => ?_
    cases r <;> exact moves_pure up _

theorem moves_runSource (site : Script.Site β σ) (source name : String) :
    (runSource site source name).Moves R := by
  unfold runSource
  split
  · exact moves_settle up _
  · exact moves_bind up (moves_runChunk up site _ _ _) fun _ => moves_settle up _

theorem moves_runFile (site : Script.Site β σ) (path : String)
    (contents : Except String Bytes) : (runFile site path contents).Moves R := by
  refine moves_bind up (moves_log up _ _) fun _ => ?_
  cases contents with
  | error reason => exact moves_settle up _
  | ok source => exact moves_bind up (moves_runChunk up site _ _ _) fun _ => moves_settle up _

theorem moves_callOutcome (site : Script.Site β σ) (callee : Value) (args : List Value) :
    (callOutcome site callee args).Moves R := by
  cases callee with
  | function id =>
    refine moves_bind up (moves_attemptScript up site _) fun r => ?_
    cases r <;> exact moves_pure up _
  | _ => exact moves_pure up _

theorem moves_faultText (site : Script.Site β σ) (handler : Option Value) (text : String) :
    (faultText site handler text).Moves R := by
  cases handler with
  | none => exact moves_pure up _
  | some v =>
    cases v with
    | function id =>
      refine moves_bind up (moves_attemptScript up site _) fun r => ?_
      cases r <;> exact moves_pure up _
    | _ => exact moves_pure up _

theorem moves_settleCall (site : Script.Site β σ) (outputs : Nat) (handler : Option Value)
    (r : Except String (List Value)) : (settleCall site outputs handler r).Moves R := by
  cases r with
  | ok results => exact moves_pushAll up _
  | error text =>
    refine moves_bind up (moves_faultText up site handler text) fun _ => ?_
    exact moves_bind up (moves_log up _ _) fun _ =>
      moves_bind up (moves_pushText up _) fun _ => moves_fail up _

end Rules

end StackM

/-! ## Scopes -/

namespace BalanceScope

open HostM

variable {R : Stack → Stack → Prop} (up : Upward R)

include up

theorem moves_enter (label : String) (delta : Int) :
    (enter label delta : HostM ε β σ BalanceScope).Moves R :=
  moves_of_eq up fun _ => rfl

/-- The end of a scope compares the size and leaves the stack alone. -/
theorem moves_finish (scope : BalanceScope) : (scope.finish : HostM ε β σ Unit).Moves R := by
  refine moves_bind up (moves_stack up) fun s => ?_
  split
  · exact moves_pure up ()
  · split
    · exact moves_pure up ()
    · exact moves_log up _ _
    · exact moves_throw up _

end BalanceScope

end ScriptBridge
