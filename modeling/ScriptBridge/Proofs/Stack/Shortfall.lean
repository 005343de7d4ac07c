import ScriptBridge.Proofs.Stack.Answers

/-!
# Calls with too few arguments

A callback that is called with fewer arguments than its body reads answers with a single nil, and
its body is not run. The nil is pushed onto the frame of the call, which holds the arguments, all of
them, whatever the capacity is. Arguments that fill the frame leave no room for the nil, so such a
call fails in place of answering: `undersupplied_call`.
-/

namespace ScriptBridge

open HostM StackM

variable {β σ : Type} {run : BodyRunner β σ} {deeper enter : Script.Engine β σ}
  {callback : Callback β} {config : Config} {id : ObjectId} {args : List Value}
  {s : Script.Surroundings} {w : World β σ}

/-- The world after the warning about a call with too few arguments. -/
def World.warnedOf (w : World β σ) (callback : Callback β) (supplied : Nat) : World β σ :=
  { w with journal := w.journal ++ [callback.shortfall supplied] }

/-- Raising a value fails, if not with that value then because it cannot be prepared for the
host. -/
theorem Script.Surroundings.raise_fails {α : Type} (s : Script.Surroundings) (v : Value)
    (w : World β σ) :
    ∃ thrown, (s.raise v : ScriptM β σ α) w = .error (.error thrown) w ∧
      (s.level + 1 < Script.nestingLimit → thrown = v) := by
  by_cases hlevel : s.level + 1 < Script.nestingLimit
  · exact ⟨v, raise_of_lt hlevel v w, fun _ => rfl⟩
  · by_cases hdeep : s.isReported && s.level + 1 = Script.nestingLimit
    · refine ⟨.string (s.place ++ Bytes.ofString "C stack overflow"), ?_, fun h => absurd h hlevel⟩
      simp only [raise, if_pos hdeep]
      rfl
    · refine ⟨v, ?_, fun _ => rfl⟩
      simp only [raise, if_neg hdeep]
      rfl

/-- On a frame without room for the nil the body is not reached either. -/
theorem Callback.answer_of_crowded {body : β → StackM β σ Nat} {m : Machine β σ}
    (hfew : m.stack.size < callback.minArgs) (hfull : m.stack.config.capacity ≤ m.stack.size) :
    callback.answer body m =
      .error (.error m.stack.overflow) ⟨m.stack, m.world.warnedOf callback m.stack.size⟩ := by
  let warned : Machine β σ := ⟨m.stack, m.world.warnedOf callback m.stack.size⟩
  have hlog : (log .warn (callback.shortfall m.stack.size).text : StackM β σ Unit) m =
      .ok () warned := rfl
  have hpush : (push .nil : StackM β σ Unit) warned = .error (.error m.stack.overflow) warned := by
    rw [push_apply, if_neg (Nat.not_lt_of_le hfull)]
  simp only [answer, stack_bind, if_pos hfew]
  exact (bind_of_ok hlog).trans (bind_of_error hpush)

/-- There are two ways into a callback: the engine, for calls by the host and by libraries, and the
call of a script, which takes the functions of the host past it. -/
theorem enter_host (way : enter = callNative run deeper ∨ enter = callObject run deeper)
    (found : w.heap.functions[id]? = some (.host callback config))
    (slots : s.slot + 1 + args.length + nativeRoom ≤ Script.slotLimit) :
    enter s id args w =
      callback.dispatch (.ofNative deeper s bodySlots) (run (.ofNative deeper s bodySlots)) config
        args w := by
  rcases way with rfl | rfl
  · exact callNative_host found slots
  · exact (callObject_host found).trans (callNative_host found slots)

/-- A call with too few arguments that the runtime has slots for. Whatever the body is, it is not
run: nothing but the warning happens, and the answer is one nil, as long as the arguments leave room
for it on the frame. If they do not, the call fails with an overflow of the frame. -/
theorem undersupplied_call (way : enter = callNative run deeper ∨ enter = callObject run deeper)
    (found : w.heap.functions[id]? = some (.host callback config))
    (slots : s.slot + 1 + args.length + nativeRoom ≤ Script.slotLimit)
    (few : args.length < callback.minArgs) :
    let warned := w.warnedOf callback args.length
    (args.length < config.capacity → enter s id args w = .ok [.nil] warned) ∧
    (config.capacity ≤ args.length →
      ∃ thrown, enter s id args w = .error (.error thrown) warned.throwing ∧
        (s.level + 1 < Script.nestingLimit →
          thrown = .failure (.callback "" (StackError.overflow config.capacity).toLua)
            w.heap.objectCount)) := by
  intro warned
  have hentered := enter_host way found slots
  let frame : Stack := .frame (args.map Value.detached) config
  have hsize : frame.size = args.length := List.length_map _
  constructor
  · intro free
    have hanswer : callback.answer (run (.ofNative deeper s bodySlots)) ⟨frame, w⟩ =
        .ok [.nil] ⟨frame.extend [.nil], w.warnedOf callback frame.size⟩ :=
      Callback.answer_of_lt (hsize ▸ few) (hsize ▸ free)
    rw [hsize] at hanswer
    have hone := hasRoomFor_of_slots deeper slots (Nat.le_add_left 1 _)
    exact hentered.trans (Callback.dispatch_of_ok hone hanswer)
  · intro crowded
    have hanswer : callback.answer (run (.ofNative deeper s bodySlots)) ⟨frame, w⟩ =
        .error (.error frame.overflow) ⟨frame, w.warnedOf callback frame.size⟩ :=
      Callback.answer_of_crowded (hsize ▸ few) (hsize ▸ crowded)
    rw [hsize] at hanswer
    rw [hentered, Callback.dispatch_of_error hanswer]
    exact Script.Surroundings.raise_fails _ _ _

/-- A callback that reads two arguments answers a script that gives it one. -/
theorem undersupplied_call_answered :
    let run : BodyRunner Unit Unit := fun _ _ => throw (.panic "run")
    let config := Config.standard.withCapacity 2
    let heap : Heap Unit := { (Heap.initial : Heap Unit) with
      functions := #[.host ⟨"pair", 2, ()⟩ config] }
    callNative run (engine run 0) (hostSite run).calling 0 [.integer 1] ⟨heap, [], ()⟩ =
      .ok [.nil] ⟨heap, [⟨.warn, "pair: not enough arguments (expected 2, got 1)"⟩], ()⟩ := by
  intro run config heap
  have found : heap.functions[0]? = some (.host ⟨"pair", 2, ()⟩ config) := rfl
  have slots : (hostSite run).calling.slot + 1 + 1 + nativeRoom ≤ Script.slotLimit := by decide
  have few : [Value.integer 1].length < 2 := by decide
  exact (undersupplied_call (w := ⟨heap, [], ()⟩) (.inl rfl) found slots few).1 (by decide)

/-- A capacity of one: the argument takes the room of the nil, and the call fails. -/
theorem undersupplied_call_crowded :
    let run : BodyRunner Unit Unit := fun _ _ => return 0
    let config := Config.standard.withCapacity 1
    let heap : Heap Unit := { (Heap.initial : Heap Unit) with
      functions := #[.host ⟨"pair", 2, ()⟩ config] }
    let w : World Unit Unit := ⟨heap, [], ()⟩
    let s := (hostSite run).calling
    (∃ w', callNative run (engine run 0) s 0 [.integer 1] w = .error (.error (.failure
      (.callback "" (StackError.overflow 1).toLua) heap.objectCount)) w') ∧
    (∀ w', callNative run (engine run 0) s 0 [.integer 1] w ≠ .ok [.nil] w') ∧
    ∀ w', engine run 1 s 0 [.integer 1] w ≠ .ok [.nil] w' :=
  ⟨⟨_, rfl⟩, nofun, nofun⟩

end ScriptBridge
