import ScriptBridge.Proofs.Script.Oblivious
import ScriptBridge.Script.Execution

/-!
# Executions do not see the journal

An execution that calls nothing that sees the journal does not see it either. Every instruction is
carried out without it (`oblivious_step`), and an execution is a run of instructions
(`oblivious_execute`).
-/

namespace ScriptBridge.Script

open ScriptM Surroundings Site

variable {β σ α : Type}

/-! ## Loops over numbers -/

namespace Count

variable (s : Surroundings)

theorem oblivious_failPart (part : String) (v : Value) :
    (failPart s part v : ScriptM β σ α).Oblivious :=
  respects_bind (oblivious_shownType v) fun _ => s.oblivious_fail _

theorem oblivious_double (part : String) (v : Value) :
    (double s part v : ScriptM β σ Double).Oblivious := by
  unfold double
  split
  · exact respects_pure _
  · exact oblivious_failPart s _ _

theorem oblivious_ofIntegers (first : Int64) (limit : Value) (step : Int64) :
    (ofIntegers s first limit step : ScriptM β σ (Option Count)).Oblivious := by
  unfold ofIntegers
  split
  · exact s.oblivious_failText _
  · split
    · exact oblivious_failPart s _ _
    · split
      · exact respects_pure _
      · exact respects_ite (respects_pure _) (respects_pure _)

theorem oblivious_ofDoubles (first limit step : Value) :
    (ofDoubles s first limit step : ScriptM β σ (Option Count)).Oblivious := by
  refine respects_bind (oblivious_double s _ _) fun l => ?_
  refine respects_bind (oblivious_double s _ _) fun d => ?_
  refine respects_bind (oblivious_double s _ _) fun i => ?_
  split
  · exact s.oblivious_failText _
  · exact respects_ite (respects_pure _) (respects_pure _)

theorem oblivious_ofParts (first limit step : Value) :
    (ofParts s first limit step : ScriptM β σ (Option Count)).Oblivious := by
  unfold ofParts
  split
  · exact oblivious_ofIntegers s _ _ _
  · exact oblivious_ofDoubles s _ _ _

end Count

/-! ## Registers -/

namespace Frame

variable (f : Frame)

theorem oblivious_read (r : Register) : (f.read r : ScriptM β σ Value).Oblivious := by
  unfold read
  split
  · exact respects_pure _
  · split
    · exact respects_bind oblivious_heap fun _ => respects_pure _
    · exact respects_pure _

theorem oblivious_write (r : Register) (v : Value) :
    (f.write r v : ScriptM β σ Frame).Oblivious := by
  unfold write
  split
  · exact respects_bind (oblivious_modifyHeap _) fun _ => respects_pure _
  · exact respects_pure _

theorem oblivious_readMany (first : Register) (n : Nat) :
    (f.readMany first n : ScriptM β σ (List Value)).Oblivious := by
  induction n generalizing first with
  | zero => exact respects_pure _
  | succ n ih =>
    refine respects_bind (f.oblivious_read _) fun v => ?_
    exact respects_bind (ih _) fun _ => respects_pure _

theorem oblivious_writeMany (first : Register) (values : List Value) :
    (f.writeMany first values : ScriptM β σ Frame).Oblivious := by
  induction values generalizing f first with
  | nil => exact respects_pure _
  | cons v values ih => exact respects_bind (f.oblivious_write _ _) fun f => ih f _

theorem oblivious_writeExactly (first : Register) (n : Nat) (values : List Value) :
    (f.writeExactly first n values : ScriptM β σ Frame).Oblivious := by
  induction n generalizing f first values with
  | zero => exact respects_pure _
  | succ n ih => exact respects_bind (f.oblivious_write _ _) fun f => ih f _ _

theorem oblivious_receive (first : Register) (count : Option Nat) (values : List Value) :
    (f.receive first count values : ScriptM β σ Frame).Oblivious := by
  unfold receive
  split
  · exact f.oblivious_writeExactly _ _ _
  · exact respects_bind (f.oblivious_writeMany _ _) fun _ => respects_pure _

theorem oblivious_take (first : Register) (count : Option Nat) :
    (f.take first count : ScriptM β σ (List Value)).Oblivious := f.oblivious_readMany _ _

theorem oblivious_share (r : Register) :
    (f.share r : ScriptM β σ (ObjectId × Frame)).Oblivious := by
  unfold share
  split
  · exact respects_pure _
  · refine respects_bind (f.oblivious_read _) fun v => ?_
    exact respects_bind (oblivious_allocate _) fun _ => respects_pure _

theorem oblivious_capture (captures : List Capture) :
    (f.capture captures : ScriptM β σ (List ObjectId × Frame)).Oblivious := by
  induction captures generalizing f with
  | nil => exact respects_pure _
  | cons c captures ih =>
    unfold capture
    split
    · refine respects_bind (f.oblivious_share _) fun shared => ?_
      exact respects_bind (ih _) fun _ => respects_pure _
    · refine respects_bind (respects_pure _) fun shared => ?_
      exact respects_bind (ih _) fun _ => respects_pure _

theorem oblivious_unshare (first : Register) :
    (f.unshare first : ScriptM β σ Frame).Oblivious :=
  respects_bind oblivious_heap fun _ => respects_pure _

theorem oblivious_readUpvalue (up : Nat) : (f.readUpvalue up : ScriptM β σ Value).Oblivious :=
  respects_bind oblivious_heap fun _ => respects_pure _

theorem oblivious_readSource (source : Source) :
    (f.readSource source : ScriptM β σ Value).Oblivious := by
  cases source with
  | register r => exact f.oblivious_read r
  | constant k => exact respects_pure _

theorem oblivious_put (r : Register) (v : Value) : (f.put r v : ScriptM β σ Progress).Oblivious :=
  respects_bind (f.oblivious_write r v) fun _ => respects_pure _

theorem oblivious_putCount (first : Register) (c : Count) :
    (f.putCount first c : ScriptM β σ Frame).Oblivious := f.oblivious_writeMany _ _

theorem oblivious_accept (values : List Value) :
    (f.accept values : ScriptM β σ Frame).Oblivious := by
  unfold accept
  split
  · exact f.oblivious_receive _ _ _
  · exact respects_pure _

end Frame

open Script.Frame

/-! ## Instructions -/

namespace Execution

/-- An execution calls functions that do not see the journal. -/
structure Oblivious (x : Execution β σ) : Prop where
  native : Engine.Oblivious x.native
  engine : Engine.Oblivious x.engine

variable {x : Execution β σ} (quiet : x.Oblivious) (callers : List Frame) (f : Frame)
include quiet

theorem oblivious_index (dest : Register) (place : Place) (v key : Value) :
    (x.index callers f dest place v key).Oblivious := by
  refine respects_bind (oblivious_present? v key) fun found => ?_
  split
  · exact f.oblivious_put _ _
  · exact respects_bind (oblivious_indexBeyond quiet.engine _ _ _ _) fun _ => f.oblivious_put _ _

theorem oblivious_store (place : Place) (v key : Value) (value : Source) :
    (x.store callers f place v key value).Oblivious := by
  refine respects_bind (f.oblivious_readSource value) fun value => ?_
  exact respects_bind (Site.oblivious_store quiet.engine _ _ _ _) fun _ => respects_pure _

theorem oblivious_fallback (op : ArithmeticOp) (a b : Value) (placeA placeB : Place)
    (isFlipped : Bool) : (x.fallback callers f op a b placeA placeB isFlipped).Oblivious := by
  unfold fallback
  dsimp only
  split
  · exact respects_bind (oblivious_arithmeticBeyond quiet.engine _ _ _ _ _) fun _ =>
      f.oblivious_put _ _
  · exact respects_bind (oblivious_arithmeticBeyond quiet.engine _ _ _ _ _) fun _ =>
      f.oblivious_put _ _

theorem oblivious_join (first : Register) (n : Nat) (v : Value) :
    (x.join callers f first n v).Oblivious := by
  induction n generalizing v with
  | zero => exact respects_pure _
  | succ n ih =>
    refine respects_bind (f.oblivious_read _) fun before => ?_
    exact respects_bind (oblivious_concat quiet.engine _ _ _ _) fun joined => ih joined

theorem oblivious_testEqual (a b : Value) (expected : Bool) :
    (x.testEqual callers f a b expected).Oblivious := by
  unfold testEqual
  split
  · exact respects_pure _
  · split
    · exact respects_bind (oblivious_equalBeyond quiet.engine _ _) fun _ => respects_pure _
    · exact respects_pure _

theorem oblivious_testOrder (op : OrderOp) (a b : Value) (expected : Bool) :
    (x.testOrder callers f op a b expected).Oblivious := by
  unfold testOrder
  split
  · exact respects_pure _
  · exact respects_bind (oblivious_orderBeyond quiet.engine _ _ _) fun _ => respects_pure _

theorem oblivious_call (first : Register) (args results : Option Nat) :
    (x.call callers f first args results).Oblivious := by
  refine respects_bind (f.oblivious_read _) fun v => ?_
  refine respects_bind (f.oblivious_take _ _) fun args => ?_
  refine respects_bind (oblivious_callee _ v args) fun callee => ?_
  refine respects_bind oblivious_heap fun h => ?_
  split
  · exact respects_bind (oblivious_checkSlots _ _ _) fun _ => respects_pure _
  · refine respects_bind (quiet.native _ _ _) fun values => ?_
    exact respects_bind (f.oblivious_receive _ _ _) fun _ => respects_pure _

theorem oblivious_tailCall (first : Register) (args : Option Nat) :
    (x.tailCall callers f first args).Oblivious := by
  refine respects_bind (f.oblivious_read _) fun v => ?_
  refine respects_bind (f.oblivious_take _ _) fun args => ?_
  refine respects_bind (oblivious_callee _ v args) fun callee => ?_
  refine respects_bind oblivious_heap fun h => ?_
  split
  · exact respects_bind (oblivious_checkSlots _ _ _) fun _ => respects_pure _
  · exact respects_bind (quiet.native _ _ _) fun _ => respects_pure _

omit quiet in
theorem oblivious_operator (x : Execution β σ) (op : ArithmeticOp) (dest : Register)
    (a b : Value) : (x.operator callers f op dest a b).Oblivious := by
  unfold operator
  split
  · exact oblivious_put _ _ _
  · exact oblivious_failText _ _
  · exact respects_pure _

theorem oblivious_step (i : Instruction) : (x.step callers f i).Oblivious := by
  cases i with
  | move dest source =>
    exact respects_bind (f.oblivious_read _) fun _ => f.oblivious_put _ _
  | loadInteger dest i => exact f.oblivious_put _ _
  | loadNumber dest d => exact f.oblivious_put _ _
  | loadConstant dest k => exact f.oblivious_put _ _
  | loadBoolean dest b => exact f.oblivious_put _ _
  | loadFalseSkip dest => exact oblivious_put _ _ _
  | loadNil first more =>
    exact respects_bind (f.oblivious_writeExactly _ _ _) fun _ => respects_pure _
  | readUpvalue dest up =>
    exact respects_bind (f.oblivious_readUpvalue _) fun _ => f.oblivious_put _ _
  | writeUpvalue source up =>
    refine respects_bind (f.oblivious_read _) fun v => ?_
    exact respects_bind (oblivious_modifyHeap _) fun _ => respects_pure _
  | indexUpvalue dest up key =>
    exact respects_bind (f.oblivious_readUpvalue _) fun _ => oblivious_index quiet _ _ _ _ _ _
  | index dest table key =>
    refine respects_bind (f.oblivious_read _) fun v => ?_
    exact respects_bind (f.oblivious_read _) fun _ => oblivious_index quiet _ _ _ _ _ _
  | indexInteger dest table i =>
    exact respects_bind (f.oblivious_read _) fun _ => oblivious_index quiet _ _ _ _ _ _
  | indexField dest table key =>
    exact respects_bind (f.oblivious_read _) fun _ => oblivious_index quiet _ _ _ _ _ _
  | storeUpvalue up key value =>
    exact respects_bind (f.oblivious_readUpvalue _) fun _ => oblivious_store quiet _ _ _ _ _ _
  | store table key value =>
    refine respects_bind (f.oblivious_read _) fun v => ?_
    exact respects_bind (f.oblivious_read _) fun _ => oblivious_store quiet _ _ _ _ _ _
  | storeInteger table i value =>
    exact respects_bind (f.oblivious_read _) fun _ => oblivious_store quiet _ _ _ _ _ _
  | storeField table key value =>
    exact respects_bind (f.oblivious_read _) fun _ => oblivious_store quiet _ _ _ _ _ _
  | newTable dest items fields =>
    exact respects_bind (oblivious_allocate _) fun _ => f.oblivious_put _ _
  | method dest object key =>
    refine respects_bind (f.oblivious_read _) fun o => ?_
    refine respects_bind (f.oblivious_readSource _) fun key => ?_
    exact respects_bind (f.oblivious_write _ _) fun _ => oblivious_index quiet _ _ _ _ _ _
  | arithmetic op dest left right =>
    refine respects_bind (f.oblivious_read _) fun a => ?_
    exact respects_bind (f.oblivious_read _) fun _ => oblivious_operator _ _ _ _ _ _ _
  | arithmeticConstant op dest left right =>
    exact respects_bind (f.oblivious_read _) fun _ => oblivious_operator _ _ _ _ _ _ _
  | arithmeticInteger op dest operand i isFlipped =>
    refine respects_bind (f.oblivious_read _) fun v => ?_
    exact respects_ite (oblivious_operator _ _ _ _ _ _ _) (oblivious_operator _ _ _ _ _ _ _)
  | fallback op left right =>
    refine respects_bind (f.oblivious_read _) fun a => ?_
    exact respects_bind (f.oblivious_read _) fun _ => oblivious_fallback quiet _ _ _ _ _ _ _ _
  | fallbackConstant op left right isFlipped =>
    exact respects_bind (f.oblivious_read _) fun _ => oblivious_fallback quiet _ _ _ _ _ _ _ _
  | fallbackInteger op operand i isFlipped =>
    exact respects_bind (f.oblivious_read _) fun _ => oblivious_fallback quiet _ _ _ _ _ _ _ _
  | unary op dest operand =>
    refine respects_bind (f.oblivious_read _) fun v => ?_
    cases op with
    | negate =>
      exact respects_bind (oblivious_negate quiet.engine _ _) fun _ => f.oblivious_put _ _
    | length =>
      exact respects_bind (oblivious_lengthOf quiet.engine _ _) fun _ => f.oblivious_put _ _
    | complement =>
      exact respects_bind (oblivious_complement quiet.engine _ _) fun _ => f.oblivious_put _ _
  | not dest operand =>
    exact respects_bind (f.oblivious_read _) fun _ => f.oblivious_put _ _
  | concat first count =>
    refine respects_bind (f.oblivious_read _) fun last => ?_
    exact respects_bind (oblivious_join quiet _ _ _ _ _) fun _ => f.oblivious_put _ _
  | close first => exact respects_bind (f.oblivious_unshare _) fun _ => respects_pure _
  | jump target => exact respects_pure _
  | equal left right expected =>
    refine respects_bind (f.oblivious_read _) fun a => ?_
    exact respects_bind (f.oblivious_read _) fun _ => oblivious_testEqual quiet _ _ _ _ _
  | equalConstant left k expected =>
    exact respects_bind (f.oblivious_read _) fun _ => respects_pure _
  | equalInteger left i expected =>
    exact respects_bind (f.oblivious_read _) fun _ => respects_pure _
  | order op left right expected =>
    refine respects_bind (f.oblivious_read _) fun a => ?_
    exact respects_bind (f.oblivious_read _) fun _ => oblivious_testOrder quiet _ _ _ _ _ _
  | orderInteger op operand i isDouble isFlipped expected =>
    refine respects_bind (f.oblivious_read _) fun v => ?_
    exact respects_ite (oblivious_testOrder quiet _ _ _ _ _ _)
      (oblivious_testOrder quiet _ _ _ _ _ _)
  | test operand expected => exact respects_bind (f.oblivious_read _) fun _ => respects_pure _
  | testMove dest operand expected =>
    refine respects_bind (f.oblivious_read _) fun v => ?_
    exact respects_ite (f.oblivious_put _ _) (respects_pure _)
  | call first args results => exact oblivious_call quiet _ _ _ _ _
  | tailCall first args => exact oblivious_tailCall quiet _ _ _ _
  | leave first count => exact respects_bind (f.oblivious_take _ _) fun _ => respects_pure _
  | prepareCount first after =>
    refine respects_bind (f.oblivious_read _) fun start => ?_
    refine respects_bind (f.oblivious_read _) fun limit => ?_
    refine respects_bind (f.oblivious_read _) fun step => ?_
    refine respects_bind (Count.oblivious_ofParts _ _ _ _) fun c => ?_
    cases c with
    | none => exact respects_pure _
    | some c => exact respects_bind (f.oblivious_putCount _ _) fun _ => respects_pure _
  | repeatCount first body =>
    refine respects_bind (f.oblivious_read _) fun index => ?_
    refine respects_bind (f.oblivious_read _) fun limit => ?_
    refine respects_bind (f.oblivious_read _) fun step => ?_
    dsimp only
    split
    · exact respects_bind (f.oblivious_putCount _ _) fun _ => respects_pure _
    · exact respects_pure _
  | prepareIterate target => exact respects_pure _
  | iterate first count =>
    refine respects_bind (f.oblivious_read _) fun iterator => ?_
    refine respects_bind (f.oblivious_read _) fun state => ?_
    refine respects_bind (f.oblivious_read _) fun control => ?_
    refine respects_bind (oblivious_callValue quiet.engine _ _) fun values => ?_
    exact respects_bind (f.oblivious_writeExactly _ _ _) fun _ => respects_pure _
  | repeatIterate first body =>
    refine respects_bind (f.oblivious_read _) fun v => ?_
    split
    · exact respects_pure _
    · exact respects_bind (f.oblivious_write _ _) fun _ => respects_pure _
  | storeItems table count stored =>
    refine respects_bind (f.oblivious_take _ _) fun values => ?_
    refine respects_bind (f.oblivious_read _) fun v => ?_
    split
    · exact respects_bind (oblivious_modifyHeap _) fun _ => respects_pure _
    · exact respects_pure _
  | closure dest child =>
    refine respects_bind (f.oblivious_capture _) fun captured => ?_
    exact respects_bind (oblivious_allocate _) fun _ => oblivious_put _ _ _
  | extraArguments dest count =>
    refine respects_ite (oblivious_failText _ _) ?_
    exact respects_bind (f.oblivious_receive _ _ _) fun _ => respects_pure _
  | moveArguments _ => exact respects_ite (oblivious_failText _ _) (respects_pure _)

theorem oblivious_execute (n : Nat) : (x.execute n f callers).Oblivious := by
  induction n generalizing f callers with
  | zero => exact respects_throw _
  | succ n ih =>
    refine respects_bind (oblivious_step quiet _ _ _) fun progress => ?_
    cases progress with
    | next f => exact ih _ _
    | enter callee caller => exact ih _ _
    | replace callee => exact ih _ _
    | finish values =>
      cases callers with
      | nil => exact respects_pure _
      | cons caller callers => exact respects_bind (caller.oblivious_accept _) fun _ => ih _ _

end Execution

theorem Execution.oblivious_run {native engine : Engine β σ} (hnative : native.Oblivious)
    (hengine : engine.Oblivious) (s : Surroundings) (c : Closure) (args : List Value) :
    (run native engine s c args).Oblivious := by
  refine respects_bind (s.oblivious_checkSlots _ _) fun _ => ?_
  exact oblivious_execute (x := ⟨native, engine, s⟩) ⟨hnative, hengine⟩ _ _ _

end ScriptBridge.Script
