import ScriptBridge.Proofs.Record.Oblivious
import ScriptBridge.Proofs.Script.ObliviousEngine
import ScriptBridge.Session.Run

/-!
# Sessions do not see the journal

No step of a session looks at the journal: `oblivious_perform`. So the bodies of callbacks do not
look at it (`oblivious_runBody`), and neither does any function that a session's host calls
(`quiet_hostSite`).
-/

namespace ScriptBridge.Session

open HostM StackM BalanceScope

/-! ## Steps without steps within them -/

theorem oblivious_quietly {action : StackM Body Memory Unit} (h : action.Oblivious) :
    (quietly action).Oblivious :=
  respects_bind (RecordM.oblivious_lift h) fun _ => respects_pure _

theorem oblivious_note (place : String) (ending : Session.Ending) :
    (note place ending).Oblivious :=
  respects_bind HostM.oblivious_stack fun _ => HostM.oblivious_modifyMemory _

theorem oblivious_pushOperand (operand : Operand) : (pushOperand operand).Oblivious := by
  cases operand with
  | given v => exact oblivious_change _
  | newTable => exact respects_discard oblivious_pushTable
  | newFailure => exact oblivious_change _
  | _ =>
    unfold pushOperand
    exact oblivious_pushNew _

theorem oblivious_fill (site : Script.Site Body Memory) (index : Int) (source : ArgSource) :
    (perform site (.fill index source)).Oblivious := by
  cases source with
  | named name =>
    refine respects_bind HostM.oblivious_memory fun _ => ?_
    refine respects_bind (respects_pure _) fun a => ?_
    refine respects_bind HostM.oblivious_stack fun s => ?_
    split
    · exact respects_pure _
    · exact respects_bind (HostM.oblivious_modifyMemory _) fun _ => respects_pure _
  | fresh a =>
    refine respects_bind (respects_pure _) fun a => ?_
    refine respects_bind HostM.oblivious_stack fun s => ?_
    split <;> exact respects_pure _

theorem oblivious_inScope (site : Script.Site Body Memory) (label : String) (delta : Int)
    {steps : List Nested} (ending : ScopeEnd)
    (h : (performAll site ("scope:" ++ label) steps).Oblivious) :
    (perform site (.inScope label delta steps ending)).Oblivious := by
  refine respects_bind (oblivious_enter label delta) fun scope => ?_
  refine respects_bind (scope.oblivious_guarding h) fun _ => ?_
  cases ending with
  | finished => exact respects_bind scope.oblivious_finish fun _ => respects_pure _
  | dropped => exact respects_bind scope.oblivious_abandon fun _ => respects_pure _

section Steps

variable {site : Script.Site Body Memory} (quiet : Script.Engine.Oblivious site.engine)
include quiet

theorem oblivious_mapOne (view : TableView) (mapping : SingleMapping) :
    (mapOne site view mapping).Oblivious := by
  unfold mapOne
  split
  · refine respects_bind (HostM.oblivious_attempt (view.oblivious_requireField quiet _ _))
      fun outcome => ?_
    cases outcome <;> exact respects_pure _
  · refine respects_bind (HostM.oblivious_attempt (view.oblivious_mapField quiet _ _))
      fun outcome => ?_
    split <;> exact respects_pure _

/-- A step without steps within it. -/
theorem oblivious_perform_of_not_inScope {step : Step}
    (h : ∀ label delta steps ending, step ≠ .inScope label delta steps ending) :
    (perform site step).Oblivious := by
  cases step with
  | push operand => exact oblivious_quietly (oblivious_pushOperand operand)
  | pushArgs args => exact oblivious_quietly (oblivious_pushAll _)
  | pushMany count => exact oblivious_quietly (respects_forM (fun _ => oblivious_change _) _)
  | pushCopy index => exact oblivious_quietly (oblivious_change _)
  | pushCallback callback => exact oblivious_quietly (oblivious_pushCallback callback)
  | pop count => exact oblivious_quietly (oblivious_change _)
  | popValue =>
    exact respects_bind (RecordM.oblivious_lift (oblivious_take _)) fun _ => respects_pure _
  | remove index =>
    exact respects_bind (RecordM.oblivious_lift (oblivious_take _)) fun _ => respects_pure _
  | clear =>
    refine respects_bind HostM.oblivious_stack fun s => ?_
    exact respects_bind (HostM.oblivious_setStack _) fun _ => respects_pure _
  | inspect index => exact respects_bind HostM.oblivious_stack fun _ => respects_pure _
  | describe => exact respects_bind HostM.oblivious_stack fun _ => respects_pure _
  | pushGlobal name => exact oblivious_quietly (oblivious_pushGlobal quiet name)
  | bindGlobal name => exact oblivious_quietly (oblivious_bindGlobal quiet name)
  | pushTable =>
    exact respects_bind (RecordM.oblivious_lift oblivious_pushTable) fun _ => respects_pure _
  | storeField index key => exact oblivious_quietly (oblivious_storeField quiet index key)
  | swapField index => exact oblivious_quietly (oblivious_swapField quiet index)
  | pushField index key => exact oblivious_quietly (oblivious_pushField quiet index key)
  | addMember index key a =>
    exact oblivious_quietly (oblivious_addMember quiet index key (oblivious_change _))
  | addCallback index key callback =>
    exact oblivious_quietly (oblivious_addMember quiet index key (oblivious_pushCallback callback))
  | register callback => exact oblivious_quietly (oblivious_register quiet callback)
  | install batch =>
    exact respects_bind (RecordM.oblivious_lift (oblivious_install quiet batch)) fun _ =>
      respects_pure _
  | runSource source name => exact oblivious_quietly (oblivious_runSource quiet source name)
  | runFile path contents => exact oblivious_quietly (oblivious_runFile quiet path _)
  | invoke inputs outputs handler =>
    exact oblivious_quietly (oblivious_invoke quiet inputs outputs handler)
  | inScope label delta steps ending => exact absurd rfl (h label delta steps ending)
  | keepArg name a =>
    exact respects_bind (HostM.oblivious_modifyMemory _) fun _ => respects_pure _
  | pushNamedArg name =>
    exact respects_bind HostM.oblivious_memory fun _ => oblivious_quietly (oblivious_change _)
  | fill index source => exact oblivious_fill site index source
  | keepFunction name f =>
    exact respects_bind (HostM.oblivious_modifyMemory _) fun _ => respects_pure _
  | describeFunction use => exact respects_bind HostM.oblivious_memory fun _ => respects_pure _
  | callFunction use inputs outputs =>
    refine respects_bind HostM.oblivious_memory fun m => ?_
    refine respects_bind ((m.function use).oblivious_call quiet inputs outputs) fun result => ?_
    split <;> exact respects_pure _
  | callTyped use inputs types =>
    refine respects_bind HostM.oblivious_memory fun m => ?_
    exact respects_bind ((m.function use).oblivious_callTyped quiet inputs types) fun _ =>
      respects_pure _
  | keepRecord name start =>
    exact respects_bind (HostM.oblivious_modifyMemory _) fun _ => respects_pure _
  | hydrate record table schema =>
    refine respects_bind HostM.oblivious_memory fun _ => ?_
    refine respects_bind (oblivious_hydrateKeeping quiet _ schema _ table) fun result => ?_
    refine respects_bind (HostM.oblivious_modifyMemory _) fun _ => ?_
    split <;> exact respects_pure _
  | applySchema record table schema =>
    refine respects_bind HostM.oblivious_memory fun _ => ?_
    refine respects_bind (schema.oblivious_applyTopKeeping quiet _ table _) fun result => ?_
    refine respects_bind (HostM.oblivious_modifyMemory _) fun _ => ?_
    split <;> exact respects_pure _
  | mapFields table mappings =>
    refine respects_bind (RecordM.oblivious_lift (TableView.oblivious_ofTop table))
      fun view => ?_
    exact respects_bind (respects_mapM (oblivious_mapOne quiet view) _) fun _ => respects_pure _
  | sum a b =>
    exact respects_bind HostM.oblivious_stack fun _ => oblivious_quietly (oblivious_change _)
  | difference a b =>
    exact respects_bind HostM.oblivious_stack fun _ => oblivious_quietly (oblivious_change _)
  | double a =>
    exact respects_bind HostM.oblivious_stack fun _ => oblivious_quietly (oblivious_change _)
  | greet a greeting =>
    exact respects_bind HostM.oblivious_stack fun _ => oblivious_quietly (oblivious_change _)
  | pushSize =>
    exact respects_bind HostM.oblivious_stack fun _ => oblivious_quietly (oblivious_change _)
  | raise e => exact RecordM.oblivious_lift (HostM.oblivious_fail e)
  | panic text => exact respects_throw _

end Steps

/-! ## Steps and bodies -/

mutual

theorem oblivious_perform {site : Script.Site Body Memory}
    (quiet : Script.Engine.Oblivious site.engine) (step : Step) :
    (perform site step).Oblivious := by
  cases step with
  | inScope label delta steps ending =>
    exact oblivious_inScope site label delta ending
      (oblivious_performAll quiet ("scope:" ++ label) steps)
  | _ => exact oblivious_perform_of_not_inScope quiet fun _ _ _ _ h => by cases h

theorem oblivious_performAll {site : Script.Site Body Memory}
    (quiet : Script.Engine.Oblivious site.engine) (place : String) (steps : List Nested) :
    (performAll site place steps).Oblivious := by
  cases steps with
  | nil => exact respects_pure ()
  | cons nested rest =>
    obtain ⟨step, tolerated⟩ := nested
    refine respects_bind (HostM.oblivious_attempt (oblivious_perform quiet step)) fun outcome => ?_
    cases outcome with
    | ok gain =>
      exact respects_bind (oblivious_note _ _) fun _ => oblivious_performAll quiet place rest
    | error e =>
      refine respects_bind (oblivious_note _ _) fun _ => ?_
      exact respects_ite (oblivious_performAll quiet place rest) (HostM.oblivious_fail e)

end

theorem oblivious_runBody : BodyRunner.Oblivious runBody := by
  intro site quiet body
  obtain ⟨label, steps, promise⟩ := body
  refine respects_bind (HostM.oblivious_mapError (oblivious_performAll quiet _ steps)) fun _ => ?_
  cases promise with
  | count n => exact respects_pure n
  | all => exact respects_bind HostM.oblivious_stack fun _ => respects_pure _

/-- No function that the host of a session calls sees the journal. -/
theorem quiet_hostSite : Script.Engine.Oblivious (hostSite runBody).engine :=
  engine_oblivious oblivious_runBody Script.nestingLimit

end ScriptBridge.Session
