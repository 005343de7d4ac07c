import ScriptBridge.Proofs.Script.Oblivious
import ScriptBridge.Script.Chunk
import ScriptBridge.Stack.Scope

/-!
# Actions on a stack that do not see the journal

`HostM.Oblivious` says of an action on a stack what `ScriptM.Oblivious` says of one of a script:
on machines that differ in their journals at most it does the same. What scripts do on the world of
a stack keeps the two stacks as they are, whatever these hold (`agree_attemptScript`), so that the
rules hold for actions that run scripts as well.
-/

namespace ScriptBridge

open HostM

variable {ε ε' β σ α γ : Type}

/-- Two machines with the same stack in worlds that differ in their journals at most. -/
structure Machine.Alike (m₁ m₂ : Machine β σ) : Prop where
  stack : m₁.stack = m₂.stack
  world : m₁.world.Alike m₂.world

namespace HostM

/-- Whatever is in the journal, the action does the same. -/
abbrev Oblivious (action : HostM ε β σ α) : Prop := Respects Machine.Alike action

/-! ## The rules -/

theorem oblivious_fail (e : ε) : (fail e : HostM ε β σ α).Oblivious := respects_throw _

theorem oblivious_stack : (stack : HostM ε β σ Stack).Oblivious := by
  intro m₁ m₂ alike
  have hstack : (stack : HostM ε β σ Stack) m₂ = .ok m₁.stack m₂ := by rw [alike.stack]; rfl
  rw [hstack]
  exact .ok alike

theorem oblivious_memory : (memory : HostM ε β σ σ).Oblivious := by
  intro m₁ m₂ alike
  have hmemory : (memory : HostM ε β σ σ) m₂ = .ok m₁.world.memory m₂ := by
    rw [alike.world.memory]
    rfl
  rw [hmemory]
  exact .ok alike

theorem oblivious_setStack (s : Stack) : (setStack s : HostM ε β σ Unit).Oblivious :=
  fun _ _ alike => .ok ⟨rfl, alike.world⟩

theorem oblivious_modifyMemory (f : σ → σ) : (modifyMemory f : HostM ε β σ Unit).Oblivious :=
  fun _ _ alike => .ok ⟨alike.stack, alike.world.heap, congrArg f alike.world.memory⟩

theorem oblivious_log (level : LogLevel) (text : String) :
    (log level text : HostM ε β σ Unit).Oblivious :=
  fun _ _ alike => .ok ⟨alike.stack, alike.world.heap, alike.world.memory⟩

theorem oblivious_attempt {x : HostM ε β σ α} (hx : x.Oblivious) : (attempt x).Oblivious := by
  intro m₁ m₂ alike
  have hrun := hx alike
  simp only [attempt]
  generalize x m₁ = r₁ at hrun
  generalize x m₂ = r₂ at hrun
  cases hrun with
  | ok related => exact .ok related
  | @error failure _ _ related =>
    cases failure with
    | error e => exact .ok related
    | panic text => exact .error related
    | exhausted => exact .error related

theorem oblivious_mapError {f : ε' → ε} {x : HostM ε' β σ α} (hx : x.Oblivious) :
    (mapError f x).Oblivious := by
  intro m₁ m₂ alike
  have hrun := hx alike
  simp only [mapError, EStateM.adaptExcept]
  generalize x m₁ = r₁ at hrun
  generalize x m₂ = r₂ at hrun
  cases hrun with
  | ok related => exact .ok related
  | error related => exact .error related

end HostM

namespace StackM

/-! ## Actions of scripts -/

section Scripts

variable {site : Script.Site β σ} (quiet : Script.Engine.Oblivious site.engine)
  {action : ScriptM β σ α} (oblivious : action.Oblivious)
include quiet oblivious

/-- What a script does is the same on any two stacks, and both stay as they are. A thrown value is
no failure. -/
theorem agree_attemptScript {m₁ m₂ : Machine β σ} (alike : m₁.world.Alike m₂.world) :
    Agree (fun _ n₁ n₂ => n₁.stack = m₁.stack ∧ n₂.stack = m₂.stack ∧ n₁.world.Alike n₂.world)
      (fun failure n₁ n₂ => (∀ e : ε, failure ≠ .error e) ∧
        n₁.stack = m₁.stack ∧ n₂.stack = m₂.stack ∧ n₁.world.Alike n₂.world)
      (attemptScript site action m₁) (attemptScript site action m₂) := by
  have hattempt := ScriptM.oblivious_attempt oblivious alike
  simp only [attemptScript, bind, EStateM.bind]
  generalize ScriptM.attempt action m₁.world = r₁ at hattempt ⊢
  generalize ScriptM.attempt action m₂.world = r₂ at hattempt ⊢
  cases hattempt with
  | @error failure _ _ related =>
    cases failure <;> exact .error ⟨(fun _ h => by cases h), rfl, rfl, related⟩
  | @ok outcome w₁ w₂ related =>
    cases outcome with
    | ok a => exact .ok ⟨rfl, rfl, related⟩
    | error v =>
      have hthrown := oblivious_ofThrown quiet v related
      simp only [EStateM.bind]
      generalize LuaError.ofThrown site v w₁ = r₁ at hthrown ⊢
      generalize LuaError.ofThrown site v w₂ = r₂ at hthrown ⊢
      cases hthrown with
      | ok related => exact .ok ⟨rfl, rfl, related⟩
      | @error failure _ _ related =>
        cases failure <;> exact .error ⟨(fun _ h => by cases h), rfl, rfl, related⟩

theorem oblivious_attemptScript : (attemptScript site action : HostM ε β σ _).Oblivious := by
  intro m₁ m₂ alike
  refine (agree_attemptScript quiet oblivious alike.world).mono ?_ ?_
  · rintro _ _ _ ⟨left, right, world⟩
    exact ⟨left.trans (alike.stack.trans right.symm), world⟩
  · rintro _ _ _ ⟨-, left, right, world⟩
    exact ⟨left.trans (alike.stack.trans right.symm), world⟩

theorem oblivious_script : (script site action).Oblivious := by
  refine respects_bind (oblivious_attemptScript quiet oblivious) fun outcome => ?_
  cases outcome with
  | ok a => exact respects_pure a
  | error e => exact HostM.oblivious_fail _

end Scripts

/-! ## Parts and changes of the stack -/

theorem oblivious_view (f : Stack → Except StackError α) :
    (view f : StackM β σ α).Oblivious := by
  refine respects_bind HostM.oblivious_stack fun s => ?_
  split
  · exact respects_pure _
  · exact HostM.oblivious_fail _

theorem oblivious_change (f : Stack → Except StackError Stack) :
    (change f : StackM β σ Unit).Oblivious := by
  refine respects_bind HostM.oblivious_stack fun s => ?_
  split
  · exact HostM.oblivious_setStack _
  · exact HostM.oblivious_fail _

theorem oblivious_take (f : Stack → Except StackError (α × Stack)) :
    (take f : StackM β σ α).Oblivious := by
  refine respects_bind HostM.oblivious_stack fun s => ?_
  split
  · exact respects_bind (HostM.oblivious_setStack _) fun _ => respects_pure _
  · exact HostM.oblivious_fail _

theorem oblivious_pushAll (vs : List Value) : (pushAll vs : StackM β σ Unit).Oblivious := by
  refine respects_bind HostM.oblivious_stack fun s => ?_
  refine respects_bind (HostM.oblivious_setStack _) fun _ => ?_
  exact respects_ite (HostM.oblivious_fail _) (respects_pure _)

theorem oblivious_pushNew (allocate : Heap β → Value × Heap β) :
    (pushNew allocate : StackM β σ Unit).Oblivious := by
  refine respects_bind HostM.oblivious_stack fun s => ?_
  refine respects_ite (HostM.oblivious_fail _) fun m₁ m₂ alike => ?_
  have hnew : allocate m₁.world.heap = allocate m₂.world.heap := congrArg allocate alike.world.heap
  exact .ok ⟨congrArg (fun new => { s with slots := s.slots ++ [new.1] }) hnew,
    congrArg Prod.snd hnew, alike.world.memory⟩

theorem oblivious_pushCallback (callback : Callback β) :
    (pushCallback callback : StackM β σ Unit).Oblivious :=
  respects_bind HostM.oblivious_stack fun _ => oblivious_pushNew _

theorem oblivious_pushTable : (pushTable : StackM β σ Int).Oblivious := by
  refine respects_bind HostM.oblivious_stack fun s => ?_
  refine respects_ite (HostM.oblivious_fail _) ?_
  exact respects_bind (oblivious_pushNew _) fun _ => respects_pure _

/-! ## Globals, fields and calls -/

section Site

variable {site : Script.Site β σ} (quiet : Script.Engine.Oblivious site.engine)
include quiet

theorem oblivious_pushRead {action : ScriptM β σ Value} (oblivious : action.Oblivious) :
    (do push (← script site action) : StackM β σ Unit).Oblivious :=
  respects_bind (oblivious_script quiet oblivious) fun _ => oblivious_change _

theorem oblivious_pushGlobal (name : String) : (pushGlobal site name).Oblivious :=
  oblivious_pushRead quiet (Script.Site.oblivious_readField quiet _ _)

theorem oblivious_bindGlobal (name : String) : (bindGlobal site name).Oblivious :=
  respects_bind (oblivious_take _) fun _ =>
    oblivious_script quiet (Script.Site.oblivious_writeField quiet _ _ _)

theorem oblivious_storeField (index : Int) (key : String) : (storeField site index key).Oblivious :=
  respects_bind (oblivious_view _) fun _ => respects_bind (oblivious_take _) fun _ =>
    oblivious_script quiet (Script.Site.oblivious_writeField quiet _ _ _)

theorem oblivious_swapField (index : Int) : (swapField site index).Oblivious :=
  respects_bind (oblivious_view _) fun _ => respects_bind (oblivious_take _) fun _ =>
    oblivious_pushRead quiet (Script.Site.oblivious_readField quiet _ _)

theorem oblivious_pushField (index : Int) (key : String) : (pushField site index key).Oblivious :=
  respects_bind (oblivious_view _) fun _ =>
    oblivious_pushRead quiet (Script.Site.oblivious_readField quiet _ _)

theorem oblivious_addMember (index : Int) (key : String) {pushMember : StackM β σ Unit}
    (h : pushMember.Oblivious) : (addMember site index key pushMember).Oblivious := by
  refine respects_bind HostM.oblivious_stack fun s => ?_
  split
  · exact HostM.oblivious_fail _
  · exact respects_bind h fun _ => oblivious_storeField quiet _ _

theorem oblivious_register (callback : Callback β) : (register site callback).Oblivious := by
  refine respects_bind (oblivious_pushCallback callback) fun _ => ?_
  refine respects_bind (oblivious_bindGlobal quiet callback.name) fun _ => ?_
  refine respects_bind (HostM.oblivious_log _ _) fun _ m₁ m₂ alike => ?_
  exact .ok ⟨congrArg (·.note callback.name callback.minArgs) alike.stack, alike.world⟩

theorem oblivious_install (batch : CallbackBatch β) : (install site batch).Oblivious :=
  respects_forM (oblivious_register quiet) batch

theorem oblivious_callOutcome (callee : Value) (args : List Value) :
    (callOutcome site callee args).Oblivious := by
  unfold callOutcome
  split
  · refine respects_bind (oblivious_attemptScript quiet (oblivious_callFunction quiet _ _))
      fun outcome => ?_
    cases outcome <;> exact respects_pure _
  · exact respects_pure _

theorem oblivious_faultText (handler : Option Value) (text : String) :
    (faultText site handler text).Oblivious := by
  unfold faultText
  split
  · unfold handleFault
    split
    · refine respects_bind (oblivious_attemptScript quiet (oblivious_callFunction quiet _ _))
        fun outcome => ?_
      cases outcome <;> exact respects_pure _
    · exact respects_pure _
  · exact respects_pure _

theorem oblivious_settleCall (outputs : Nat) (handler : Option Value)
    (outcome : Except String (List Value)) :
    (settleCall site outputs handler outcome).Oblivious := by
  cases outcome with
  | ok results => exact oblivious_pushAll _
  | error text =>
    refine respects_bind (oblivious_faultText quiet handler text) fun text => ?_
    refine respects_bind (HostM.oblivious_log _ _) fun _ => ?_
    exact respects_bind (oblivious_change _) fun _ => HostM.oblivious_fail _

theorem oblivious_invoke (inputs outputs : Nat) (handler : Int) :
    (invoke site inputs outputs handler).Oblivious := by
  refine respects_bind (oblivious_view _) fun parts => ?_
  refine respects_bind HostM.oblivious_stack fun s => ?_
  refine respects_bind (HostM.oblivious_setStack _) fun _ => ?_
  refine respects_bind HostM.oblivious_stack fun s => ?_
  refine respects_bind (HostM.oblivious_log _ _) fun _ => ?_
  exact respects_bind (oblivious_callOutcome quiet _ _) fun outcome =>
    oblivious_settleCall quiet outputs parts.handler outcome

/-! ## Scripts that are loaded -/

omit quiet in
theorem oblivious_settle (outcome : Except ScriptError Unit) :
    (settle outcome : StackM β σ Unit).Oblivious := by
  cases outcome with
  | ok done => exact respects_pure _
  | error e => exact respects_bind (HostM.oblivious_log _ _) fun _ => HostM.oblivious_fail _

theorem oblivious_runChunk (name shown source : Bytes) :
    (runChunk site name shown source).Oblivious := by
  unfold runChunk
  split
  · exact respects_pure _
  · refine respects_bind (oblivious_attemptScript quiet ?_) fun outcome => ?_
    · refine respects_bind (ScriptM.oblivious_allocate _) fun _ => ?_
      refine respects_bind (ScriptM.oblivious_allocate _) fun _ => ?_
      exact respects_discard (oblivious_callFunction quiet _ _)
    · cases outcome <;> exact respects_pure _

theorem oblivious_runSource (source name : String) : (runSource site source name).Oblivious := by
  unfold runSource
  dsimp only
  split
  · exact oblivious_settle _
  · exact respects_bind (oblivious_runChunk quiet _ _ _) fun _ => oblivious_settle _

theorem oblivious_runFile (path : String) (contents : Except String Bytes) :
    (runFile site path contents).Oblivious := by
  refine respects_bind (HostM.oblivious_log _ _) fun _ => ?_
  cases contents with
  | error reason => exact oblivious_settle _
  | ok source =>
    exact respects_bind (oblivious_runChunk quiet _ _ _) fun _ => oblivious_settle _

end Site

end StackM

/-! ## Scopes -/

namespace BalanceScope

theorem oblivious_enter (label : String) (delta : Int) :
    (enter label delta : HostM ε β σ BalanceScope).Oblivious :=
  respects_bind HostM.oblivious_stack fun _ => respects_pure _

variable (scope : BalanceScope)

theorem oblivious_finish : (scope.finish : HostM ε β σ Unit).Oblivious := by
  refine respects_bind HostM.oblivious_stack fun s => ?_
  refine respects_ite (respects_pure _) ?_
  split
  · exact respects_pure _
  · exact HostM.oblivious_log _ _
  · exact respects_throw _

theorem oblivious_abandon : (scope.abandon : HostM ε β σ Unit).Oblivious := by
  refine respects_bind HostM.oblivious_stack fun s => ?_
  refine respects_ite ?_ (respects_pure _)
  exact respects_bind (HostM.oblivious_log _ _) fun _ => HostM.oblivious_setStack _

theorem oblivious_guarding {action : HostM ε β σ α} (h : action.Oblivious) :
    (scope.guarding action).Oblivious := by
  refine respects_bind (HostM.oblivious_attempt h) fun outcome => ?_
  cases outcome with
  | ok a => exact respects_pure a
  | error e => exact respects_bind scope.oblivious_abandon fun _ => HostM.oblivious_fail e

end BalanceScope

end ScriptBridge
