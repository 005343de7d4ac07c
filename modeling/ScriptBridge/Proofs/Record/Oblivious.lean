import ScriptBridge.Proofs.Stack.Oblivious
import ScriptBridge.Record.Call

/-!
# Records and script functions do not see the journal

Filling a record and calling a script function do the same whatever is in the journal, at every site
from which calls do: `oblivious_hydrateKeeping` and `ScriptFunction.oblivious_call`.
-/

namespace ScriptBridge

open HostM StackM BalanceScope

variable {β σ ι α : Type}

/-- Errors of the stack are passed on. -/
theorem RecordM.oblivious_lift {action : StackM β σ α} (h : action.Oblivious) :
    HostM.Oblivious (RecordM.lift action) :=
  HostM.oblivious_mapError h

namespace BalanceScope

variable (scope : BalanceScope)

theorem oblivious_close (count : Nat) (a : α) : HostM.Oblivious (do
    RecordM.lift (StackM.pop count)
    scope.finish
    return a : RecordM β σ α) :=
  respects_bind (RecordM.oblivious_lift (oblivious_change _)) fun _ =>
    respects_bind scope.oblivious_finish fun _ => respects_pure a

theorem oblivious_leave (a : α) : HostM.Oblivious (do
    scope.abandon
    return a : RecordM β σ α) :=
  respects_bind scope.oblivious_abandon fun _ => respects_pure a

end BalanceScope

/-! ## Records -/

section Records

variable {site : Script.Site β σ} (quiet : Script.Engine.Oblivious site.engine)

namespace TableView

theorem oblivious_ofTop (name : String) : (ofTop name : StackM β σ TableView).Oblivious := by
  refine respects_bind HostM.oblivious_stack fun s => ?_
  split
  · exact respects_pure _
  · exact HostM.oblivious_fail _

include quiet

theorem oblivious_lookup (view : TableView) (f : Field) (key : String) :
    (view.lookup site f key).Oblivious := by
  refine respects_bind (oblivious_change _) fun _ => ?_
  refine respects_bind (oblivious_swapField quiet (-2)) fun _ => ?_
  refine respects_bind HostM.oblivious_stack fun s => ?_
  refine respects_bind (oblivious_change _) fun _ => ?_
  exact respects_bind (HostM.oblivious_log _ _) fun _ => respects_pure _

theorem oblivious_mapField (view : TableView) (f : Field) (key : String) :
    (view.mapField site f key).Oblivious := by
  refine respects_bind (RecordM.oblivious_lift (view.oblivious_lookup quiet f key))
    fun found => ?_
  refine respects_bind HostM.oblivious_stack fun s => ?_
  exact respects_ite (HostM.oblivious_fail _) (respects_pure _)

theorem oblivious_requireField (view : TableView) (f : Field) (key : String) :
    (view.requireField site f key).Oblivious := by
  refine respects_bind (RecordM.oblivious_lift (view.oblivious_lookup quiet f key))
    fun found => ?_
  obtain ⟨assigned, kind⟩ := found
  cases assigned with
  | some f => exact respects_pure f
  | none => exact HostM.oblivious_fail _

end TableView

include quiet

theorem Mapping.oblivious_apply (mapping : Mapping ι) (view : TableView) (f : Field) :
    (mapping.apply site view f).Oblivious := by
  unfold Mapping.apply
  split
  · exact view.oblivious_requireField quiet f mapping.key
  · exact respects_bind (view.oblivious_mapField quiet f mapping.key) fun _ => respects_pure _

variable [DecidableEq ι] (keep : Record ι → σ → σ)

theorem Schema.oblivious_applyKeeping (view : TableView) (schema : Schema ι) (r : Record ι) :
    (schema.applyKeeping keep site view r).Oblivious := by
  induction schema generalizing r with
  | nil => exact respects_pure _
  | cons mapping rest ih =>
    refine respects_bind (HostM.oblivious_attempt (mapping.oblivious_apply quiet view _))
      fun outcome => ?_
    cases outcome with
    | ok f => exact respects_bind (HostM.oblivious_modifyMemory _) fun _ => ih _
    | error e => exact respects_pure _

theorem Schema.oblivious_applyTopKeeping (schema : Schema ι) (tableName : String) (r : Record ι) :
    (schema.applyTopKeeping keep site tableName r).Oblivious := by
  have hview := RecordM.oblivious_lift (TableView.oblivious_ofTop (β := β) (σ := σ) tableName)
  refine respects_bind (HostM.oblivious_attempt hview) fun outcome => ?_
  cases outcome with
  | ok view => exact schema.oblivious_applyKeeping quiet keep view r
  | error e => exact respects_pure _

theorem oblivious_hydrateTop (scope : BalanceScope) (schema : Schema ι) (r : Record ι)
    (tableName : String) : (hydrateTop keep site scope schema r tableName).Oblivious := by
  refine respects_bind (schema.oblivious_applyTopKeeping quiet keep tableName r) fun result => ?_
  split
  · refine respects_bind (HostM.oblivious_log _ _) fun _ => ?_
    exact scope.oblivious_leave _
  · exact scope.oblivious_close 1 _

theorem oblivious_hydrateKeeping (schema : Schema ι) (r : Record ι) (tableName : String) :
    (hydrateKeeping keep site schema r tableName).Oblivious := by
  refine respects_bind (oblivious_enter _ _) fun scope => ?_
  have hglobal := RecordM.oblivious_lift (oblivious_pushGlobal quiet tableName)
  refine respects_bind (HostM.oblivious_attempt hglobal) fun outcome => ?_
  cases outcome with
  | error e => exact scope.oblivious_leave _
  | ok done =>
    refine respects_bind HostM.oblivious_stack fun s => ?_
    refine respects_ite ?_ (oblivious_hydrateTop quiet keep scope schema r tableName)
    exact respects_bind (HostM.oblivious_log _ _) fun _ => scope.oblivious_close 1 _

end Records

/-! ## Calls of script functions -/

namespace ScriptFunction

variable {site : Script.Site β σ} (quiet : Script.Engine.Oblivious site.engine)
  (f : ScriptFunction)
include quiet

theorem oblivious_pushBound (binding : FunctionBinding) :
    (pushBound site binding).Oblivious := by
  unfold pushBound
  split
  · exact oblivious_pushGlobal quiet binding.name
  · refine respects_bind (oblivious_change _) fun _ => ?_
    refine respects_bind (oblivious_pushField quiet top binding.name) fun _ => ?_
    exact respects_discard (oblivious_take _)

theorem oblivious_invokePushed (scope : BalanceScope) (name : String) (handler : Int) :
    (f.invokePushed site scope name handler).Oblivious := by
  have hinvoke := RecordM.oblivious_lift (oblivious_invoke quiet f.inputs f.outputs handler)
  refine respects_bind (HostM.oblivious_attempt hinvoke) fun outcome => ?_
  split
  · exact respects_pure _
  · exact scope.oblivious_close 1 _
  · exact HostM.oblivious_fail _

theorem oblivious_pushResults (scope : BalanceScope) (binding : FunctionBinding) (handler : Int)
    (inputs : List Arg) : (f.pushResults site scope binding handler inputs).Oblivious := by
  refine respects_bind (RecordM.oblivious_lift (oblivious_pushBound quiet binding)) fun _ => ?_
  refine respects_bind HostM.oblivious_stack fun s => ?_
  refine respects_ite (scope.oblivious_close 1 _) ?_
  refine respects_bind (RecordM.oblivious_lift (oblivious_pushAll _)) fun _ => ?_
  exact f.oblivious_invokePushed quiet scope binding.name handler

theorem oblivious_call (inputs outputs : List Arg) : (f.call site inputs outputs).Oblivious := by
  refine respects_bind HostM.oblivious_stack fun s => ?_
  split
  · exact respects_pure _
  · refine respects_bind (oblivious_enter _ _) fun scope => ?_
    have hpush := f.oblivious_pushResults quiet scope
    refine respects_bind (HostM.oblivious_attempt (hpush _ _ inputs)) fun outcome => ?_
    split
    · exact scope.oblivious_leave _
    · exact respects_pure _
    · refine respects_bind HostM.oblivious_stack fun s => ?_
      split
      · exact scope.oblivious_leave _
      · exact scope.oblivious_close f.outputs _

theorem oblivious_callTyped (inputs : List Arg) (types : List ArgType) :
    (f.callTyped site inputs types).Oblivious := by
  refine respects_bind (f.oblivious_call quiet inputs _) fun result => ?_
  split
  · exact respects_pure _
  · exact HostM.oblivious_fail _

end ScriptFunction

end ScriptBridge
