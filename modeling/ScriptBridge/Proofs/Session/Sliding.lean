import ScriptBridge.Proofs.Session.Moves
import ScriptBridge.Proofs.Stack.Sliding

/-!
# Steps that do not register callbacks

Filling records, calling script functions and all steps of a session but those that register
callbacks move the stack along every relation that neither pushing nor taking values off breaks:
`moves_perform_of_unregistering`.
-/

namespace ScriptBridge

open HostM StackM

variable {β σ ι : Type} {R : Stack → Stack → Prop} (up : Upward R) (down : Downward R)

include up down

/-! ## Records -/

section Records

open BalanceScope

variable (site : Script.Site β σ)

theorem TableView.moves_lookup (view : TableView) (f : Field) (key : String) :
    (view.lookup site f key).Moves R :=
  moves_bind up (moves_pushText up key) fun _ =>
    moves_bind up (moves_swapField up down site (-2)) fun _ =>
      moves_bind up (moves_stack up) fun _ =>
        moves_bind up (moves_pop up down 1) fun _ =>
          moves_bind up (moves_log up _ _) fun _ => moves_pure up _

theorem TableView.moves_mapField (view : TableView) (f : Field) (key : String) :
    (view.mapField site f key).Moves R := by
  refine moves_bind up (moves_mapError (view.moves_lookup up down site f key)) fun found =>
    moves_bind up (moves_stack up) fun s => ?_
  split
  · exact moves_fail up _
  · exact moves_pure up _

theorem TableView.moves_requireField (view : TableView) (f : Field) (key : String) :
    (view.requireField site f key).Moves R := by
  refine moves_bind up (moves_mapError (view.moves_lookup up down site f key)) fun found => ?_
  obtain ⟨assigned, kind⟩ := found
  cases assigned with
  | some f => exact moves_pure up f
  | none => exact moves_fail up _

theorem Mapping.moves_apply (mapping : Mapping ι) (view : TableView) (f : Field) :
    (mapping.apply site view f).Moves R := by
  unfold Mapping.apply
  split
  · exact view.moves_requireField up down site f mapping.key
  · exact moves_bind up (view.moves_mapField up down site f mapping.key) fun _ => moves_pure up _

variable [DecidableEq ι] (keep : Record ι → σ → σ)

theorem Schema.moves_applyKeeping (view : TableView) (schema : Schema ι) (r : Record ι) :
    (schema.applyKeeping keep site view r).Moves R := by
  induction schema generalizing r with
  | nil => exact moves_pure up _
  | cons mapping rest ih =>
    refine moves_bind up (moves_attempt (mapping.moves_apply up down site view _)) fun r => ?_
    cases r with
    | ok f => exact moves_bind up (moves_modifyMemory up _) fun _ => ih _
    | error e => exact moves_pure up _

theorem Schema.moves_applyTopKeeping (schema : Schema ι) (tableName : String) (r : Record ι) :
    (schema.applyTopKeeping keep site tableName r).Moves R := by
  refine moves_bind up (moves_attempt (moves_mapError (Session.moves_ofTop up tableName)))
    fun outcome => ?_
  cases outcome with
  | ok view => exact schema.moves_applyKeeping up down site keep view r
  | error e => exact moves_pure up _

theorem moves_hydrateTop (scope : BalanceScope) (schema : Schema ι) (r : Record ι)
    (tableName : String) :
    (hydrateTop keep site scope schema r tableName).Moves R := by
  refine moves_bind up (schema.moves_applyTopKeeping up down site keep tableName r) fun _ => ?_
  split
  · exact moves_bind up (moves_log up _ _) fun _ =>
      moves_bind up (moves_abandon up down scope) fun _ => moves_pure up _
  · exact moves_bind up (moves_mapError (moves_pop up down 1)) fun _ =>
      moves_bind up (moves_finish up scope) fun _ => moves_pure up _

theorem moves_hydrateKeeping (schema : Schema ι) (r : Record ι) (tableName : String) :
    (hydrateKeeping keep site schema r tableName).Moves R := by
  refine moves_bind up (moves_enter up _ _) fun scope =>
    moves_bind up (moves_attempt (moves_mapError (moves_pushGlobal up site tableName)))
      fun outcome => ?_
  cases outcome with
  | error e => exact moves_bind up (moves_abandon up down scope) fun _ => moves_pure up _
  | ok =>
    refine moves_bind up (moves_stack up) fun s => ?_
    simp only
    split
    · exact moves_bind up (moves_log up _ _) fun _ =>
        moves_bind up (moves_mapError (moves_pop up down 1)) fun _ =>
          moves_bind up (moves_finish up scope) fun _ => moves_pure up _
    · exact moves_hydrateTop up down site keep scope schema r tableName

end Records

namespace ScriptFunction

open BalanceScope

variable (site : Script.Site β σ) (f : ScriptFunction) (scope : BalanceScope)

theorem moves_pushBound (binding : FunctionBinding) :
    (pushBound site binding).Moves R := by
  unfold pushBound
  split
  · exact moves_pushGlobal up site binding.name
  · exact moves_bind up (moves_push up _) fun _ =>
      moves_bind up (moves_pushField up site top binding.name) fun _ =>
        moves_discard (moves_remove up down (-2))

theorem moves_invokePushed (name : String) (handler : Int) :
    (f.invokePushed site scope name handler).Moves R := by
  refine moves_bind up (moves_attempt (moves_mapError (moves_invoke up down site _ _ handler)))
    fun outcome => ?_
  split
  · exact moves_pure up _
  · exact moves_bind up (moves_mapError (moves_pop up down 1)) fun _ =>
      moves_bind up (moves_finish up scope) fun _ => moves_pure up _
  · exact moves_fail up _

theorem moves_pushResults (binding : FunctionBinding) (handler : Int) (inputs : List Arg) :
    (f.pushResults site scope binding handler inputs).Moves R := by
  refine moves_bind up (moves_mapError (moves_pushBound up down site binding)) fun _ =>
    moves_bind up (moves_stack up) fun s => ?_
  simp only
  split
  · exact moves_bind up (moves_mapError (moves_pop up down 1)) fun _ =>
      moves_bind up (moves_finish up scope) fun _ => moves_pure up _
  · exact moves_bind up (moves_mapError (moves_pushAll up _)) fun _ =>
      moves_invokePushed up down site f scope _ handler

theorem moves_call (inputs outputs : List Arg) :
    (f.call site inputs outputs).Moves R := by
  refine moves_bind up (moves_stack up) fun s => ?_
  split
  · exact moves_pure up _
  · refine moves_bind up (moves_enter up _ _) fun scope =>
      moves_bind up (moves_attempt (moves_pushResults up down site f scope _ _ inputs)) fun r => ?_
    split
    · exact moves_bind up (moves_abandon up down scope) fun _ => moves_pure up _
    · exact moves_pure up _
    · refine moves_bind up (moves_stack up) fun s => ?_
      split
      · exact moves_bind up (moves_abandon up down scope) fun _ => moves_pure up _
      · exact moves_bind up (moves_mapError (moves_pop up down _)) fun _ =>
          moves_bind up (moves_finish up scope) fun _ => moves_pure up _

theorem moves_callTyped (inputs : List Arg) (types : List ArgType) :
    (f.callTyped site inputs types).Moves R := by
  refine moves_bind up (moves_call up down site f inputs _) fun r => ?_
  split
  · exact moves_pure up _
  · exact moves_fail up _

end ScriptFunction

/-! ## Steps -/

namespace Session

variable (site : Script.Site Body Memory)

theorem moves_mapOne (view : TableView) (mapping : SingleMapping) :
    (mapOne site view mapping).Moves R := by
  unfold mapOne
  split
  · refine moves_bind up (moves_attempt (view.moves_requireField up down site _ _)) fun r => ?_
    cases r <;> exact moves_pure up _
  · refine moves_bind up (moves_attempt (view.moves_mapField up down site _ _)) fun r => ?_
    split <;> exact moves_pure up _

theorem moves_inScope (label : String) (delta : Int) {steps : List Nested} (ending : ScopeEnd)
    (h : (performAll site ("scope:" ++ label) steps).Moves R) :
    (perform site (.inScope label delta steps ending)).Moves R := by
  refine moves_bind up (BalanceScope.moves_enter up label delta) fun scope =>
    moves_bind up (scope.moves_guarding up down h) fun _ => ?_
  cases ending with
  | finished =>
    exact moves_bind up (BalanceScope.moves_finish up scope) fun _ => moves_pure up _
  | dropped => exact moves_bind up (scope.moves_abandon up down) fun _ => moves_pure up _

/-- A step that registers callbacks, or that has steps within it which may do so. -/
def Step.Registers : Step → Prop
  | .register _ | .install _ | .inScope _ _ _ _ => True
  | _ => False

theorem moves_perform_of_unregistering {step : Step} (h : ¬ step.Registers) :
    (perform site step).Moves R := by
  cases step with
  | pop count => exact moves_quietly up (moves_pop up down count)
  | popValue =>
    exact moves_bind up (moves_mapError (moves_popValue up down)) fun _ => moves_pure up _
  | remove index =>
    exact moves_bind up (moves_mapError (moves_remove up down index)) fun _ => moves_pure up _
  | clear => exact fun m => down _ _ (Nat.zero_le _)
  | bindGlobal name => exact moves_quietly up (moves_bindGlobal up down site name)
  | storeField index key => exact moves_quietly up (moves_storeField up down site index key)
  | swapField index => exact moves_quietly up (moves_swapField up down site index)
  | addMember index key a =>
    exact moves_quietly up (moves_addMember up down site index key (moves_pushArg up a))
  | addCallback index key callback =>
    exact moves_quietly up
      (moves_addMember up down site index key (moves_pushCallback up callback))
  | register callback => exact absurd trivial h
  | install batch => exact absurd trivial h
  | invoke inputs outputs handler =>
    exact moves_quietly up (moves_invoke up down site inputs outputs handler)
  | inScope label delta steps ending => exact absurd trivial h
  | callFunction use inputs outputs =>
    refine moves_bind up (moves_memory up) fun _ =>
      moves_bind up (ScriptFunction.moves_call up down site _ inputs outputs) fun r => ?_
    split <;> exact moves_pure up _
  | callTyped use inputs types =>
    exact moves_bind up (moves_memory up) fun _ =>
      moves_bind up (ScriptFunction.moves_callTyped up down site _ inputs types) fun _ =>
        moves_pure up _
  | hydrate record table schema =>
    refine moves_bind up (moves_memory up) fun _ =>
      moves_bind up (moves_hydrateKeeping up down site _ schema _ table) fun _ =>
        moves_bind up (moves_modifyMemory up _) fun _ => ?_
    split <;> exact moves_pure up _
  | applySchema record table schema =>
    refine moves_bind up (moves_memory up) fun _ =>
      moves_bind up (schema.moves_applyTopKeeping up down site _ table _) fun _ =>
        moves_bind up (moves_modifyMemory up _) fun _ => ?_
    split <;> exact moves_pure up _
  | mapFields table mappings =>
    exact moves_bind up (moves_mapError (moves_ofTop up table)) fun view =>
      moves_bind up (moves_mapM up (moves_mapOne up down site view) mappings) fun _ =>
        moves_pure up _
  | _ => exact moves_perform_of_onlyPushes up site trivial

end Session

end ScriptBridge
