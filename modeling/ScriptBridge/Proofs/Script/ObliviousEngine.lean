import ScriptBridge.Engine
import ScriptBridge.Proofs.Script.ObliviousExecution
import ScriptBridge.Proofs.Stack.Oblivious

/-!
# The engine does not see the journal

Nothing that a script can do depends on the journal, as long as the bodies of callbacks do not look
at it: `engine_oblivious`. The functions of the libraries do not look at it (`oblivious_run`), and a
callback that is called does what its body does; the engine follows by induction on the depth of
calls within calls.
-/

namespace ScriptBridge

open ScriptM

variable {β σ α : Type}

namespace Script

open Surroundings Site

theorem oblivious_newFunction (f : FunctionObject β) :
    (newFunction f : ScriptM β σ Value).Oblivious :=
  respects_bind (oblivious_allocate _) fun _ => respects_pure _

/-! ## Arguments of library functions -/

namespace LibraryCall

variable (c : LibraryCall β σ)

theorem oblivious_fail (text : String) : (c.fail text : ScriptM β σ α).Oblivious :=
  oblivious_failAtCaller _ _

theorem oblivious_badArgument (position : Nat) (reason : Bytes) :
    (c.badArgument position reason : ScriptM β σ α).Oblivious := by
  unfold badArgument
  dsimp only
  split
  · refine respects_ite (respects_ite ?_ ?_) ?_ <;> exact oblivious_failAtCaller _ _
  · exact respects_bind oblivious_heap fun _ => oblivious_failAtCaller _ _

theorem oblivious_argType (position : Nat) : (c.argType position).Oblivious := by
  unfold argType
  split
  · exact respects_pure _
  · refine respects_bind oblivious_heap fun h => ?_
    split <;> exact respects_pure _

theorem oblivious_badType (position : Nat) (expected : String) :
    (c.badType position expected : ScriptM β σ α).Oblivious :=
  respects_bind (c.oblivious_argType _) fun _ => c.oblivious_badArgument _ _

theorem oblivious_need (position : Nat) : (c.need position).Oblivious :=
  respects_ite (c.oblivious_badArgument _ _) (respects_pure _)

theorem oblivious_tableArg (position : Nat) : (c.tableArg position).Oblivious := by
  unfold tableArg
  split
  · exact respects_pure _
  · exact c.oblivious_badType _ _

theorem oblivious_numberArg (position : Nat) : (c.numberArg position).Oblivious := by
  unfold numberArg
  split
  · exact respects_pure _
  · exact c.oblivious_badType _ _

theorem oblivious_integerArg (position : Nat) : (c.integerArg position).Oblivious := by
  refine respects_bind (c.oblivious_numberArg _) fun v => ?_
  split
  · exact respects_pure _
  · exact c.oblivious_badArgument _ _

theorem oblivious_integerArgOr (position : Nat) (other : Int) :
    (c.integerArgOr position other).Oblivious := by
  unfold integerArgOr
  split
  · exact respects_pure _
  · exact c.oblivious_integerArg _

theorem oblivious_textArg (position : Nat) : (c.textArg position).Oblivious := by
  unfold textArg
  split
  · exact respects_pure _
  · exact c.oblivious_badType _ _

theorem oblivious_raise : c.raise.Oblivious := by
  refine respects_bind (c.oblivious_integerArgOr _ _) fun level => ?_
  dsimp only
  split
  · exact respects_ite (Surroundings.oblivious_raise _ _) (Surroundings.oblivious_raise _ _)
  · exact Surroundings.oblivious_raise _ _

theorem oblivious_select : c.select.Oblivious := by
  unfold select
  dsimp only
  split
  · exact respects_pure _
  · refine respects_bind (c.oblivious_integerArg _) fun n => ?_
    exact respects_ite (c.oblivious_badArgument _ _) (respects_pure _)

variable {c} (quiet : c.site.engine.Oblivious)
include quiet

theorem oblivious_textArithmetic (event : String) {compute : Value → Value → ScriptM β σ Value}
    (hcompute : ∀ a b, (compute a b).Oblivious) : (c.textArithmetic event compute).Oblivious := by
  unfold textArithmetic
  dsimp only
  split
  · exact respects_bind (hcompute _ _) fun _ => respects_pure _
  · refine respects_bind oblivious_heap fun h => ?_
    split
    · exact c.oblivious_fail _
    · exact c.oblivious_fail _
    · exact respects_bind (oblivious_callFirst quiet _ _) fun _ => respects_pure _

theorem oblivious_protectedCall : c.protectedCall.Oblivious := by
  refine respects_bind (c.oblivious_need 1) fun _ => ?_
  let site : Site β σ := ⟨c.site.engine,
    { c.site.around with slot := c.site.around.slot + 1 - c.args.length, isReported := false }⟩
  have hsite : site.engine.Oblivious := quiet
  refine respects_bind (oblivious_attempt (oblivious_callValue hsite _ _)) fun outcome => ?_
  split <;> exact respects_pure _

end LibraryCall

open LibraryCall

/-! ## Library functions -/

theorem Builtin.oblivious_run (b : Builtin) {c : LibraryCall β σ}
    (quiet : c.site.engine.Oblivious) : (b.run c).Oblivious := by
  cases b with
  | assert =>
    refine respects_ite (respects_pure _) ?_
    refine respects_bind (c.oblivious_need 1) fun _ => ?_
    split
    · exact Surroundings.oblivious_raise _ _
    · exact c.oblivious_fail _
  | error => exact c.oblivious_raise
  | getMetatable =>
    refine respects_bind (c.oblivious_need 1) fun _ => ?_
    refine respects_bind oblivious_heap fun h => ?_
    split
    · exact respects_pure _
    · split <;> exact respects_pure _
  | ipairs =>
    refine respects_bind (c.oblivious_need 1) fun _ => ?_
    exact respects_bind (oblivious_newFunction _) fun _ => respects_pure _
  | ipairsStep =>
    refine respects_bind (c.oblivious_integerArg 2) fun i => ?_
    refine respects_bind (oblivious_index quiet _ _ _) fun v => ?_
    split <;> exact respects_pure _
  | next =>
    refine respects_bind oblivious_heap fun h => ?_
    refine respects_bind (c.oblivious_tableArg 1) fun id => ?_
    dsimp only
    split
    · exact respects_pure _
    · exact respects_pure _
    · exact oblivious_failText _ _
  | pairs =>
    refine respects_bind (c.oblivious_need 1) fun _ => ?_
    refine respects_bind oblivious_heap fun h => ?_
    split
    · exact respects_bind (oblivious_newFunction _) fun _ => respects_pure _
    · exact respects_bind (oblivious_callValue quiet _ _) fun _ => respects_pure _
  | pcall => exact oblivious_protectedCall quiet
  | print =>
    refine respects_bind (respects_forM (fun v => ?_) _) fun _ => respects_pure _
    exact respects_discard (oblivious_textOf quiet v)
  | rawEqual =>
    refine respects_bind (c.oblivious_need 1) fun _ => ?_
    exact respects_bind (c.oblivious_need 2) fun _ => respects_pure _
  | rawGet =>
    refine respects_bind (c.oblivious_tableArg 1) fun id => ?_
    refine respects_bind (c.oblivious_need 2) fun _ => ?_
    exact respects_bind (oblivious_readTable _ _) fun _ => respects_pure _
  | rawLen =>
    dsimp only [Builtin.run]
    split
    · exact respects_bind (oblivious_tableLength _) fun _ => respects_pure _
    · exact respects_pure _
    · exact c.oblivious_badType _ _
  | rawSet =>
    refine respects_bind (c.oblivious_tableArg 1) fun id => ?_
    refine respects_bind (c.oblivious_need 2) fun _ => ?_
    refine respects_bind (c.oblivious_need 3) fun _ => ?_
    refine respects_bind (respects_discard (oblivious_present? _ _)) fun _ => ?_
    exact respects_bind (oblivious_rawStore _ _ _ _) fun _ => respects_pure _
  | select => exact c.oblivious_select
  | setMetatable =>
    refine respects_bind (c.oblivious_tableArg 1) fun id => ?_
    have hset (metatable : Option ObjectId) : ScriptM.Oblivious (do
        if (← ScriptM.heap).metamethod (c.arg 1) "__metatable" ≠ .nil then
          c.fail "cannot change a protected metatable"
        else
          ScriptM.modifyHeap fun h => h.modifyTable id fun t => { t with metatable := metatable }
          return [c.arg 1]) := by
      refine respects_bind oblivious_heap fun h => ?_
      refine respects_ite (c.oblivious_fail _) ?_
      exact respects_bind (oblivious_modifyHeap _) fun _ => respects_pure _
    dsimp only
    split
    · exact respects_bind (respects_pure _) hset
    · exact respects_bind (respects_pure _) hset
    · exact respects_bind (c.oblivious_badType _ _) hset
  | toNumber => exact respects_bind (c.oblivious_need 1) fun _ => respects_pure _
  | toString =>
    refine respects_bind (c.oblivious_need 1) fun _ => ?_
    exact respects_bind (oblivious_textOf quiet _) fun _ => respects_pure _
  | type => exact respects_bind (c.oblivious_need 1) fun _ => respects_pure _
  | createThread =>
    dsimp only [Builtin.run]
    split
    · exact respects_bind (oblivious_allocate _) fun _ => respects_pure _
    · exact c.oblivious_badType _ _
  | mathFloor =>
    refine respects_bind (c.oblivious_numberArg 1) fun v => ?_
    split <;> exact respects_pure _
  | mathType =>
    refine respects_bind (c.oblivious_need 1) fun _ => ?_
    split <;> exact respects_pure _
  | mathToInteger => exact respects_bind (c.oblivious_need 1) fun _ => respects_pure _
  | stringLength => exact respects_bind (c.oblivious_textArg 1) fun _ => respects_pure _
  | stringUpper => exact respects_bind (c.oblivious_textArg 1) fun _ => respects_pure _
  | stringLower => exact respects_bind (c.oblivious_textArg 1) fun _ => respects_pure _
  | stringRepeat =>
    refine respects_bind (c.oblivious_textArg 1) fun bytes => ?_
    refine respects_bind (c.oblivious_integerArg 2) fun count => ?_
    refine respects_ite ?_ ?_
    · exact respects_bind (respects_pure _) fun _ => respects_pure _
    · exact respects_bind (c.oblivious_textArg 3) fun _ => respects_pure _
  | stringSub =>
    refine respects_bind (c.oblivious_textArg 1) fun bytes => ?_
    refine respects_bind (c.oblivious_integerArg 2) fun start => ?_
    exact respects_bind (c.oblivious_integerArgOr 3 _) fun _ => respects_pure _
  | arithmetic op =>
    exact oblivious_textArithmetic quiet _ fun a b => oblivious_arithmetic quiet op a b
  | negateText => exact oblivious_textArithmetic quiet _ fun a _ => oblivious_negate quiet a _
  | fileText =>
    dsimp only [Builtin.run]
    split
    · exact respects_pure _
    · exact c.oblivious_badType _ _
  | absent name => exact c.oblivious_fail _

end Script

/-! ## Callbacks -/

/-- Bodies of callbacks do not see the journal, where calls do not. -/
def BodyRunner.Oblivious (run : BodyRunner β σ) : Prop :=
  ∀ site, Script.Engine.Oblivious site.engine → ∀ body, HostM.Oblivious (run site body)

namespace Callback

open HostM

/-- What a callback answers depends on the journal no more than its body. -/
theorem oblivious_answer (callback : Callback β) {run : β → StackM β σ Nat}
    (hbody : ∀ body, HostM.Oblivious (run body)) : HostM.Oblivious (callback.answer run) := by
  refine respects_bind HostM.oblivious_stack fun s => ?_
  refine respects_ite (respects_bind (HostM.oblivious_log _ _) fun _ =>
    respects_bind (StackM.oblivious_change _) fun _ => respects_bind (respects_pure _) ?_)
    (respects_bind (hbody _) ?_)
  -- either way the frame is asked for the results that were promised
  all_goals
    intro promised
    refine respects_bind HostM.oblivious_stack fun s => ?_
    split
    · exact respects_pure _
    · exact HostM.oblivious_fail _

theorem oblivious_outcome (callback : Callback β) {run : β → StackM β σ Nat}
    (hbody : ∀ body, HostM.Oblivious (run body)) (config : Config) (args : List Value) :
    (callback.outcome run config args).Oblivious := by
  intro w₁ w₂ alike
  let frame (w : World β σ) : Machine β σ := ⟨.frame (args.map Value.detached) config, w⟩
  have hframes : (frame w₁).Alike (frame w₂) := ⟨rfl, alike⟩
  have hanswer := oblivious_answer callback hbody hframes
  simp only [outcome]
  generalize callback.answer run (frame w₁) = r₁ at hanswer ⊢
  generalize callback.answer run (frame w₂) = r₂ at hanswer ⊢
  cases hanswer with
  | ok related => exact .ok related.world
  | @error failure _ _ related =>
    cases failure with
    | error e => exact .ok related.world
    | panic text => exact .error related.world
    | exhausted => exact .error related.world

theorem oblivious_dispatch (callback : Callback β) (site : Script.Site β σ)
    {run : β → StackM β σ Nat} (hbody : ∀ body, HostM.Oblivious (run body)) (config : Config)
    (args : List Value) : (callback.dispatch site run config args).Oblivious := by
  refine respects_bind (callback.oblivious_outcome hbody config args) fun outcome => ?_
  cases taken site.around outcome with
  | ok values => exact oblivious_attached values
  | error e =>
    exact respects_bind (oblivious_allocate _) fun _ => Script.Surroundings.oblivious_raise _ _

end Callback

/-! ## The engine -/

section Engine

variable {run : BodyRunner β σ} (hrun : run.Oblivious)
include hrun

theorem oblivious_callNative {deeper : Script.Engine β σ} (hdeeper : deeper.Oblivious) :
    Script.Engine.Oblivious (callNative run deeper) := by
  intro s id args
  refine respects_bind (s.oblivious_checkSlots _ _) fun _ => ?_
  refine respects_bind oblivious_heap fun h => ?_
  split
  next callback config _ =>
    exact callback.oblivious_dispatch _ (hrun (.ofNative deeper s bodySlots) hdeeper) config args
  next b _ =>
    have hsite : Script.Engine.Oblivious (Script.Site.ofNative deeper s args.length).engine :=
      hdeeper
    exact b.oblivious_run hsite
  · exact respects_pure _

/-- Calls of functions do not see the journal, at any depth. -/
theorem engine_oblivious (depth : Nat) : Script.Engine.Oblivious (engine run depth) := by
  induction depth with
  | zero => exact fun _ _ _ => respects_throw _
  | succ depth ih =>
    intro s id args
    refine respects_bind oblivious_heap fun h => ?_
    split
    · exact Script.Execution.oblivious_run (oblivious_callNative hrun ih) ih _ _ _
    · exact oblivious_callNative hrun ih _ _ _

end Engine

end ScriptBridge
