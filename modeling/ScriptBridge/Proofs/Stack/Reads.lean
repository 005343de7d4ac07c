import ScriptBridge.Proofs.Script.PlainRead
import ScriptBridge.Proofs.Stack.Actions

/-!
# How reads of the host end

The actions that push the value under a key of a table: what lies on the stack afterwards, whatever
a metamethod did, and that a plain read pushes what the table holds and changes nothing else.
-/

namespace ScriptBridge

open HostM

variable {β σ : Type}

/-- The value that a host reads under a key of a table, without metamethods. -/
def Heap.field (h : Heap β) (id : ObjectId) (key : String) : Value :=
  ((h.table id).get (.text key)).detached

namespace StackM

variable {site : Script.Site β σ} {m : Machine β σ} {s : Stack} {id : ObjectId} {key : String}
  {fails : StackError → Machine β σ → Prop} {stops : Stop → Prop}

theorem attemptScript_readField (h : site.ReadsPlainly m.world.heap id key) :
    attemptScript (ε := StackError) site (site.readField id (.text key)) m =
      .ok (.ok (m.world.heap.field id key)) m :=
  attemptScript_of_ok (Script.Site.readField_of_plain h)

theorem script_readField (h : site.ReadsPlainly m.world.heap id key) :
    script site (site.readField id (.text key)) m = .ok (m.world.heap.field id key) m :=
  bind_of_ok (attemptScript_readField h)

/-- A plain read of a global pushes what the globals hold. -/
theorem pushGlobal_of_plain (h : site.ReadsPlainly m.world.heap Heap.globals key)
    (free : m.stack.size < m.stack.config.capacity) :
    pushGlobal site key m =
      .ok () { m with stack := m.stack.extend [m.world.heap.field Heap.globals key] } := by
  rw [pushGlobal, bind_of_ok (script_readField h), push_apply, if_pos free]

/-- A plain read of a field pushes what the table on top holds. -/
theorem pushField_of_plain (h : site.ReadsPlainly m.world.heap id key)
    (table : m.stack.table top = .ok id) (free : m.stack.size < m.stack.config.capacity) :
    pushField site top key m =
      .ok () { m with stack := m.stack.extend [m.world.heap.field id key] } := by
  rw [pushField, bind_of_ok (view_of_ok (f := (·.table top)) table),
    bind_of_ok (script_readField h), push_apply, if_pos free]

theorem ends_readField {returns : Value → Machine β σ → Prop}
    (hreturns : ∀ v w, (site.ReadsPlainly m.world.heap id key →
      v = m.world.heap.field id key ∧ w = m.world) → returns v { m with world := w })
    (hfails : ¬ site.ReadsPlainly m.world.heap id key →
      ∀ e w, fails (.engine e) { m with world := w })
    (hstops : ¬ site.ReadsPlainly m.world.heap id key → ∀ stop, stops stop) :
    (script site (site.readField id (.text key))).Ends m returns fails stops := by
  refine ends_script (fun v w h => hreturns v w fun hplain => ?_)
    (fun e w h => hfails (fun hplain => ?_) e w) (fun stop h => hstops (fun hplain => ?_) stop)
  · rw [attemptScript_readField hplain] at h
    obtain ⟨hv, hm⟩ := EStateM.Result.ok.inj h
    exact ⟨(Except.ok.inj hv).symm, (congrArg Machine.world hm).symm⟩
  · rw [attemptScript_readField hplain] at h
    cases h
  · cases h with
    | panic run => rw [attemptScript_readField hplain] at run; cases run
    | exhausted run => rw [attemptScript_readField hplain] at run; cases run

/-- A value was read and pushed. -/
structure Pushed (site : Script.Site β σ) (id : ObjectId) (key : String) (m : Machine β σ)
    (s : Stack) (v : Value) (m' : Machine β σ) : Prop where
  room : s.size < s.config.capacity
  stack : m'.stack = s.extend [v]
  plain : site.ReadsPlainly m.world.heap id key →
    v = m.world.heap.field id key ∧ m'.world = m.world

/-- A value was not pushed, for want of room if the read was plain. -/
structure Unpushed (site : Script.Site β σ) (id : ObjectId) (key : String) (m : Machine β σ)
    (s : Stack) (e : StackError) (m' : Machine β σ) : Prop where
  stack : m'.stack = s
  plain : site.ReadsPlainly m.world.heap id key →
    e = s.overflow ∧ s.config.capacity ≤ s.size ∧ m'.world = m.world

theorem ends_readField_push (hstack : m.stack = s) :
    (script site (site.readField id (.text key)) >>= push).Ends m
      (fun _ m' => ∃ v, Pushed site id key m s v m') (Unpushed site id key m s)
      (fun _ => ¬ site.ReadsPlainly m.world.heap id key) := by
  refine ends_bind (ends_readField (fun v w h => ?_) (fun hnot e w => ?_) fun hnot _ => hnot)
  · subst hstack
    refine ends_push (fun hroom => ?_) (fun hfull => ?_)
    · exact ⟨v, hroom, rfl, fun hplain => h hplain⟩
    · exact ⟨rfl, fun hplain => ⟨rfl, hfull, (h hplain).2⟩⟩
  · exact ⟨hstack, fun hplain => absurd hplain hnot⟩

theorem ends_pushGlobal (site : Script.Site β σ) (name : String) (m : Machine β σ) :
    (pushGlobal site name).Ends m
      (fun _ m' => ∃ v, Pushed site Heap.globals name m m.stack v m')
      (Unpushed site Heap.globals name m m.stack)
      (fun _ => ¬ site.ReadsPlainly m.world.heap Heap.globals name) :=
  ends_readField_push rfl

end StackM

end ScriptBridge
