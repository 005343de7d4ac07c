import ScriptBridge.Proofs.Script.RawAccess
import ScriptBridge.Proofs.Stack.Actions

/-!
# How accesses of the host end that find no metamethod

Such a read or write comes to something, unless the table is not reached because there are too many
calls within each other already. The read of a text leaves everything as it was.
-/

namespace ScriptBridge

open HostM

variable {β σ : Type}

namespace StackM

variable {site : Script.Site β σ} {m : Machine β σ} {id : ObjectId} {key v : Value}
  {text : String} {fails : StackError → Machine β σ → Prop} {stops : Stop → Prop}

/-- A script's action that comes to something comes to it on a stack as well. -/
theorem ends_script_of_ok {α : Type} {action : ScriptM β σ α} {returns : α → Machine β σ → Prop}
    {P : Prop} (comes : P → ∃ a w, action m.world = .ok a w)
    (hreturns : ∀ a w, action m.world = .ok a w → returns a { m with world := w })
    (hfails : ¬ P → ∀ e w, fails (.engine e) { m with world := w })
    (hstops : ¬ P → ∀ stop, stops stop) :
    (script site action).Ends m returns fails stops := by
  refine ends_script (fun a w h => hreturns a w (run_of_attemptScript h))
    (fun e w h => hfails (fun holds => ?_) e w) fun stop h => hstops (fun holds => ?_) stop
  · obtain ⟨a, w', hrun⟩ := comes holds
    rw [attemptScript_of_ok hrun] at h
    cases h
  · obtain ⟨a, w', hrun⟩ := comes holds
    cases h with
    | panic run => rw [attemptScript_of_ok hrun] at run; cases run
    | exhausted run => rw [attemptScript_of_ok hrun] at run; cases run

theorem ends_rawRead {returns : Value → Machine β σ → Prop}
    (raw : m.world.heap.ReadsRaw id key)
    (hreturns : ∀ v w, returns v { m with world := w })
    (hfails : ¬ site.Reaches m.world.heap id → ∀ e w, fails (.engine e) { m with world := w })
    (hstops : ¬ site.Reaches m.world.heap id → ∀ stop, stops stop) :
    (script site (site.readField id key)).Ends m returns fails stops :=
  ends_script_of_ok (Script.Site.readField_of_raw raw) (fun v w _ => hreturns v w) hfails hstops

/-- A read of a text leaves everything as it was. -/
theorem ends_rawReadText {returns : Value → Machine β σ → Prop}
    (raw : m.world.heap.ReadsRaw id (.text text)) (hreturns : ∀ v, returns v m)
    (hfails : ¬ site.Reaches m.world.heap id → ∀ e w, fails (.engine e) { m with world := w })
    (hstops : ¬ site.Reaches m.world.heap id → ∀ stop, stops stop) :
    (script site (site.readField id (.text text))).Ends m returns fails stops := by
  refine ends_script_of_ok (Script.Site.readField_of_raw raw) (fun v w hrun => ?_) hfails hstops
  have hplain := Script.Site.readsPlainly_of_read raw hrun
  rw [Script.Site.readField_of_plain hplain] at hrun
  cases hrun
  exact hreturns _

theorem ends_rawWrite {returns : Unit → Machine β σ → Prop}
    (raw : m.world.heap.WritesRaw id text) (hreturns : ∀ w, returns () { m with world := w })
    (hfails : ¬ site.Reaches m.world.heap id → ∀ e w, fails (.engine e) { m with world := w })
    (hstops : ¬ site.Reaches m.world.heap id → ∀ stop, stops stop) :
    (script site (site.writeField id (.text text) v)).Ends m returns fails stops :=
  ends_script_of_ok
    (fun reaches => (Script.Site.writeField_of_raw raw reaches v).elim fun w h => ⟨(), w, h⟩)
    (fun _ w _ => hreturns w) hfails hstops

end StackM

end ScriptBridge
