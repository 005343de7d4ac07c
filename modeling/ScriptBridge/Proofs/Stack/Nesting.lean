import ScriptBridge.Proofs.Diagnostic
import ScriptBridge.Proofs.Stack.Callbacks

/-!
# Failures of callbacks within callbacks

A callback that lets another one be called and hands its error on puts one more prefix in front of
the diagnostic, and nothing else happens to it: the text that a call reports holds no traceback, so
the next call finds nothing to cut off. `invoke_nested` says what is reported of a callback that
fails through any number of others. The engine takes part with a single fact, `HandsOn`: the error
of a callback that is called reaches the caller as the cause of an error of a callback.
-/

namespace ScriptBridge

open HostM StackM

variable {β σ : Type}

/-! ## Errors on their way to the caller -/

/-- The function of a callback that is called at one site runs its body at another one, and an error
of the callback reaches the caller as the cause of an error of a callback. -/
def Script.Site.HandsOn (site inner : Script.Site β σ) (run : BodyRunner β σ) (count : Nat) :
    Prop :=
  ∀ (m : Machine β σ) (id : ObjectId) (callback : Callback β) (config : Config)
    (args : List Value) (e : StackError) (frame : Machine β σ),
    args.length = count →
    m.world.heap.functions[id]? = some (.host callback config) →
    callback.answer (run inner) ⟨.frame (args.map Value.detached) config, m.world.attaching args⟩ =
      .error (.error e) frame →
    ∃ traceback w, attemptScript (ε := StackError) site (callFunction site id args) m =
      .ok (.error (.callback traceback e.toLua)) { m with world := w }

/-- The engine hands errors on. -/
theorem handsOn_of_canCall {site : Script.Site β σ} {run : BodyRunner β σ} {depth count : Nat}
    (ready : site.CanCall run depth count) :
    site.HandsOn (site.ofBody run depth) run count := by
  intro m id callback config args e frame hcount found answer
  rw [← hcount] at ready
  refine ⟨"", frame.world.throwing, ?_⟩
  rw [attemptScript_callFunction_host ready found, answer]
  rfl

/-- The frame of a callback that is called with the topmost values of a stack. -/
def Machine.entered (m : Machine β σ) (below args : List Value) (outputs : Nat) (config : Config) :
    Machine β σ :=
  ⟨.frame (args.map Value.detached) config,
    (m.calling below args.length outputs).world.attaching args⟩

section Call

variable {run : BodyRunner β σ} {site inner : Script.Site β σ} {outputs : Nat}
  {m frame : Machine β σ} {below args : List Value} {id : ObjectId} {callback : Callback β}
  {config : Config} {e : StackError}

/-- A call of a callback that fails reports the diagnostic of its error. -/
theorem invoke_of_handsOn (handsOn : site.HandsOn inner run args.length)
    (slots : m.stack.slots = below ++ .function id :: args)
    (found : m.world.heap.functions[id]? = some (.host callback config))
    (fits : m.stack.size ≤ m.stack.config.capacity)
    (room : below.length + outputs ≤ m.stack.config.capacity)
    (answer : callback.answer (run inner) (m.entered below args outputs config) =
      .error (.error e) frame) :
    ∃ m', invoke site args.length outputs 0 m =
        .error (.error (.script ⟨.runtime, e.toLua.diagnostic⟩)) m' ∧
      m'.stack = { m.stack with slots := below ++ [.text e.toLua.diagnostic] } := by
  obtain ⟨traceback, w, raised⟩ :=
    handsOn (m.calling below args.length outputs) id callback config args e frame rfl found answer
  have hinvoke := invoke_of_raised slots fits room raised
  rw [LuaError.diagnostic_callback] at hinvoke
  exact ⟨_, hinvoke, rfl⟩

end Call

/-! ## Callbacks that call callbacks -/

/-- A callback fails on its frame, with enough arguments, through so many callbacks. The last one
has an error of its own. Every other one comes to push the next with arguments, has it called with
room for that, and hands the error on as it is. -/
inductive FailsNested (run : BodyRunner β σ) (e : StackError) :
    Nat → Script.Site β σ → Callback β → Machine β σ → Prop
  | raises {site : Script.Site β σ} {callback : Callback β} {frame frame' : Machine β σ}
    (enough : callback.minArgs ≤ frame.stack.size)
    (raised : run site callback.body frame = .error (.error e) frame') :
    FailsNested run e 1 site callback frame
  | relays {n : Nat} {site deeper : Script.Site β σ} {callback next : Callback β}
    {frame m : Machine β σ} {args : List Value} {outputs : Nat}
    (enough : callback.minArgs ≤ frame.stack.size)
    (unchanged : ∀ e' m', callPushed site next args outputs m = .error (.error e') m' →
      ∃ frame', run site callback.body frame = .error (.error e') frame')
    (free : m.stack.size + 1 + args.length ≤ m.stack.config.capacity)
    (room : m.stack.size + outputs ≤ m.stack.config.capacity)
    (handsOn : site.HandsOn deeper run args.length)
    (nested : FailsNested run e n deeper next
      ((m.holding next args).entered m.stack.slots args outputs m.stack.config)) :
    FailsNested run e (n + 1) site callback frame

namespace FailsNested

variable {run : BodyRunner β σ} {e : StackError} {n : Nat} {site : Script.Site β σ}
  {callback : Callback β} {frame : Machine β σ}

theorem pos (h : FailsNested run e n site callback frame) : 0 < n := by
  cases h <;> exact Nat.succ_pos _

/-- What a callback answers that fails through so many: each but the last put a prefix in front of
the diagnostic. -/
theorem answer (h : FailsNested run e n site callback frame) :
    ∃ e' frame', callback.answer (run site) frame = .error (.error e') frame' ∧
      e'.toLua.diagnostic =
        String.join (List.replicate (n - 1) "runtime error: ") ++ e.toLua.diagnostic := by
  induction h with
  | @raises site callback frame frame' enough raised =>
    refine ⟨e, frame', ?_, by simp⟩
    rw [Callback.answer_of_le enough, raised]
  | @relays n site deeper callback next frame m args outputs enough unchanged free room handsOn
      nested ih =>
    obtain ⟨e₁, frame₁, hanswer, htext⟩ := ih
    have hslots : (m.holding next args).stack.slots =
        m.stack.slots ++ .function m.world.heap.functions.size :: args := rfl
    obtain ⟨m', hinvoke, -⟩ := invoke_of_handsOn handsOn hslots (m.found_holding next args)
      (m.holding_fits next free) room hanswer
    rw [← callPushed_of_room free] at hinvoke
    obtain ⟨frame', hrun⟩ := unchanged _ m' hinvoke
    refine ⟨.script ⟨.runtime, e₁.toLua.diagnostic⟩, frame', ?_, ?_⟩
    · rw [Callback.answer_of_le enough, hrun]
    · have hn : n + 1 - 1 = n - 1 + 1 := by
        have := nested.pos
        omega
      rw [LuaError.diagnostic_script, htext, hn, List.replicate_succ, String.join_cons,
        String.append_assoc]

end FailsNested

section Invoke

variable {run : BodyRunner β σ} {site inner : Script.Site β σ} {n outputs : Nat}
  {m : Machine β σ} {below args : List Value} {id : ObjectId} {callback : Callback β}
  {config : Config} {e : StackError}

/-- A callback is called that fails through so many callbacks, where the engine hands errors on.
What is reported is the diagnostic of the innermost error behind one prefix for each callback that
handed an error on, and this one text is where the function and its arguments were. -/
theorem invoke_nested (handsOn : site.HandsOn inner run args.length)
    (slots : m.stack.slots = below ++ .function id :: args)
    (found : m.world.heap.functions[id]? = some (.host callback config))
    (fits : m.stack.size ≤ m.stack.config.capacity)
    (room : below.length + outputs ≤ m.stack.config.capacity)
    (nested : FailsNested run e n inner callback (m.entered below args outputs config)) :
    let text := String.join (List.replicate (n - 1) "runtime error: ") ++ e.toLua.diagnostic
    ∃ m', invoke site args.length outputs 0 m = .error (.error (.script ⟨.runtime, text⟩)) m' ∧
      m'.stack = { m.stack with slots := below ++ [.text text] } := by
  intro text
  obtain ⟨e', frame', hanswer, htext⟩ := nested.answer
  have hinvoke := invoke_of_handsOn handsOn slots found fits room hanswer
  rwa [htext] at hinvoke

/-- A callback hands on what another one does that hands on an error of its own: one traceback is
cut off, and two prefixes are put in front. -/
theorem invoke_nested_thrice :
    let raised : StackError := .engine (.runtime "boom\nstack traceback:\n\t[C]: in ?")
    let run : BodyRunner Nat Unit := fun site rest =>
      match rest with
      | 0 => fail raised
      | rest + 1 => do
        callPushed site ⟨"relay", 0, rest⟩ [] 1
        return 0
    let config := Config.standard.withCapacity 2
    let heap : Heap Nat := { (Heap.initial : Heap Nat) with
      functions := #[.host ⟨"relay", 1, 2⟩ config] }
    let s : Stack := ⟨[.function 0, .boolean true], config, false, []⟩
    ∃ m', invoke (hostSite run) 1 0 0 ⟨s, ⟨heap, [], ()⟩⟩ =
        .error (.error (.script ⟨.runtime, "runtime error: runtime error: boom"⟩)) m' ∧
      m'.stack = { s with slots := [.text "runtime error: runtime error: boom"] } := by
  intro raised run config heap s
  let m : Machine Nat Unit := ⟨s, ⟨heap, [], ()⟩⟩
  let first := (hostSite run).ofBody run 199
  let second := first.ofBody run 198
  have relayed {n rest minArgs : Nat} {site deeper : Script.Site Nat Unit}
      {frame : Machine Nat Unit}
      (enough : minArgs ≤ frame.stack.size) (free : frame.stack.size < frame.stack.config.capacity)
      (handsOn : site.HandsOn deeper run 0)
      (nested : FailsNested run raised n deeper ⟨"relay", 0, rest⟩
        ((frame.holding ⟨"relay", 0, rest⟩ []).entered frame.stack.slots [] 1 frame.stack.config)) :
      FailsNested run raised (n + 1) site ⟨"relay", minArgs, rest + 1⟩ frame :=
    .relays enough (fun e' m' h => ⟨m', bind_of_error h⟩) free free handsOn nested
  have hfirst : (hostSite run).HandsOn first run 1 :=
    handsOn_of_canCall (hostSite_canCall (show 2 + 1 + 1 + 20 ≤ 1000000 by decide))
  have hsecond : first.HandsOn second run 0 :=
    handsOn_of_canCall ⟨rfl, show 1 + 2 < 200 by decide, show 5 + 1 + 0 + 20 ≤ 1000000 by decide⟩
  have hthird : second.HandsOn (second.ofBody run 197) run 0 :=
    handsOn_of_canCall ⟨rfl, show 2 + 2 < 200 by decide, show 8 + 1 + 0 + 20 ≤ 1000000 by decide⟩
  have nested : FailsNested run raised 3 first ⟨"relay", 1, 2⟩
      (m.entered [] [.boolean true] 0 config) :=
    relayed (by decide) (by decide) hsecond
      (relayed (by decide) (by decide) hthird (.raises (by decide) rfl))
  have htext : String.join (List.replicate (3 - 1) "runtime error: ") ++ raised.toLua.diagnostic =
      "runtime error: runtime error: boom" := by decide +kernel
  have hinvoke := invoke_nested hfirst rfl rfl (by decide) (by decide) nested
  simp only [htext] at hinvoke
  exact hinvoke

end Invoke

end ScriptBridge
