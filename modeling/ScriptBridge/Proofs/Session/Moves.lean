import ScriptBridge.Proofs.Stack.Moves
import ScriptBridge.Session.Run

/-!
# Steps that only push

Most steps of a session push a value or leave the stack alone. `Step.OnlyPushes` lists them, and
`moves_perform_of_onlyPushes` says that they move the stack along every relation that pushing does
not break.
-/

namespace ScriptBridge.Session

open HostM StackM

/-- A step that may push values but never takes one off. -/
def Step.OnlyPushes : Step → Prop
  | .pop _ | .popValue | .remove _ | .clear | .bindGlobal _ | .storeField _ _ | .swapField _
  | .addMember _ _ _ | .addCallback _ _ _ | .register _ | .install _ | .invoke _ _ _
  | .inScope _ _ _ _ | .callFunction _ _ _ | .callTyped _ _ _ | .hydrate _ _ _
  | .applySchema _ _ _ | .mapFields _ _ => False
  | _ => True

section Rules

variable {β σ : Type} {R : Stack → Stack → Prop} (up : Upward R)

include up

theorem moves_quietly {action : StackM Body Memory Unit} (h : action.Moves R) :
    (quietly action).Moves R :=
  moves_bind up (moves_mapError h) fun _ => moves_pure up Gain.nothing

theorem moves_note (place : String) (ending : Session.Ending) : (note place ending).Moves R :=
  moves_of_eq up fun _ => rfl

theorem moves_pushOperand (operand : Operand) : (pushOperand operand).Moves R := by
  cases operand with
  | given v => exact moves_push up v
  | newTable => exact moves_discard (moves_pushTable up)
  | newFailure => exact moves_push up _
  | _ =>
    unfold pushOperand
    exact moves_pushNew up _

theorem moves_ofTop (name : String) : (TableView.ofTop name : StackM β σ TableView).Moves R := by
  refine moves_bind up (moves_stack up) fun s => ?_
  split
  · exact moves_pure up _
  · exact moves_fail up _

theorem moves_fill (site : Script.Site Body Memory) (index : Int) (source : ArgSource) :
    (perform site (.fill index source)).Moves R := by
  cases source with
  | named name =>
    refine moves_bind up (moves_memory up) fun _ => moves_bind up (moves_pure up _) fun a =>
      moves_bind up (moves_stack up) fun s => ?_
    split
    · exact moves_pure up _
    · exact moves_bind up (moves_modifyMemory up _) fun _ => moves_pure up _
  | fresh a =>
    refine moves_bind up (moves_pure up _) fun a => moves_bind up (moves_stack up) fun s => ?_
    split <;> exact moves_pure up _

theorem moves_perform_of_onlyPushes (site : Script.Site Body Memory) {step : Step}
    (h : step.OnlyPushes) : (perform site step).Moves R := by
  cases step with
  | push operand => exact moves_quietly up (moves_pushOperand up operand)
  | pushArgs args => exact moves_quietly up (moves_pushAll up _)
  | pushMany count => exact moves_quietly up (moves_forM up (fun _ => moves_push up _) _)
  | pushCopy index => exact moves_quietly up (moves_pushCopy up index)
  | pushCallback callback => exact moves_quietly up (moves_pushCallback up callback)
  | inspect index => exact moves_bind up (moves_stack up) fun _ => moves_pure up _
  | describe => exact moves_bind up (moves_stack up) fun _ => moves_pure up _
  | pushGlobal name => exact moves_quietly up (moves_pushGlobal up site name)
  | pushTable => exact moves_bind up (moves_mapError (moves_pushTable up)) fun _ => moves_pure up _
  | pushField index key => exact moves_quietly up (moves_pushField up site index key)
  | runSource source name => exact moves_quietly up (moves_runSource up site source name)
  | runFile path contents => exact moves_quietly up (moves_runFile up site path _)
  | keepArg name a => exact moves_bind up (moves_modifyMemory up _) fun _ => moves_pure up _
  | pushNamedArg name =>
    exact moves_bind up (moves_memory up) fun _ => moves_quietly up (moves_pushArg up _)
  | fill index source => exact moves_fill up site index source
  | keepFunction name f => exact moves_bind up (moves_modifyMemory up _) fun _ => moves_pure up _
  | describeFunction use => exact moves_bind up (moves_memory up) fun _ => moves_pure up _
  | keepRecord name start => exact moves_bind up (moves_modifyMemory up _) fun _ => moves_pure up _
  | sum a b => exact moves_bind up (moves_stack up) fun _ => moves_quietly up (moves_push up _)
  | difference a b =>
    exact moves_bind up (moves_stack up) fun _ => moves_quietly up (moves_push up _)
  | double a => exact moves_bind up (moves_stack up) fun _ => moves_quietly up (moves_push up _)
  | greet a greeting =>
    exact moves_bind up (moves_stack up) fun _ => moves_quietly up (moves_pushText up _)
  | pushSize => exact moves_bind up (moves_stack up) fun _ => moves_quietly up (moves_push up _)
  | raise e => exact moves_mapError (moves_fail up e)
  | panic text => exact moves_throw up _
  | _ => exact h.elim

end Rules

/-! ## Reports -/

/-- The machine as a step of a session finds it: nothing has been noted yet. -/
def cleared (m : Machine Body Memory) : Machine Body Memory :=
  { m with world :=
    { m.world with journal := [], memory := { m.world.memory with trace := [] } } }

/-- A report leaves the machine as the step leaves it. -/
theorem machine_report (step : Step) (m : Machine Body Memory) :
    (report step m).2 = Ending.machine (perform (hostSite runBody) step (cleared m)) := by
  have hcleared : cleared m = { m with world :=
      { m.world with journal := [], memory := { m.world.memory with trace := [] } } } := rfl
  simp only [report]
  rw [← hcleared]
  split
  all_goals
    next hending =>
      rw [hending]
      rfl

end ScriptBridge.Session
