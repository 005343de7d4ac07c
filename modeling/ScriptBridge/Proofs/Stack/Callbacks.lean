import ScriptBridge.Proofs.Stack.Answers

/-!
# Callbacks called by the host

A callback that the host calls runs its body once, on a frame that holds exactly the arguments, and
what the body promised of its frame comes back to the caller's stack: `invoke_callback`. A stack may
hold more than the engine has slots for, and `invoke_callback_crowded` are calls that fail for that.
-/

namespace ScriptBridge

open HostM StackM

variable {β σ : Type}

/-! ## Functions and their arguments on a stack -/

section Called

variable {site : Script.Site β σ} {outputs : Nat} {m : Machine β σ} {below args : List Value}
  {id : ObjectId}

theorem Stack.callParts_of_function {s : Stack} (slots : s.slots = below ++ .function id :: args)
    (fits : s.size ≤ s.config.capacity) (room : below.length + outputs ≤ s.config.capacity) :
    s.callParts args.length outputs 0 = .ok ⟨below, .function id, args, none⟩ :=
  callParts_of_accepts (Nat.le_trans fits s.config.capacity_le) ⟨slots, rfl, room, .inl rfl⟩

/-- The text of a failure takes the slot of the function. -/
theorem free_of_function (outputs : Nat) (slots : m.stack.slots = below ++ .function id :: args)
    (fits : m.stack.size ≤ m.stack.config.capacity) :
    (m.calling below args.length outputs).stack.size <
      (m.calling below args.length outputs).stack.config.capacity := by
  simp only [Stack.size, slots, List.length_append, List.length_cons] at fits
  change below.length < m.stack.config.capacity
  omega

/-- A function that fails leaves the diagnostic of its error in the place of itself and of its
arguments. -/
theorem invoke_of_raised {e : LuaError} {w : World β σ}
    (slots : m.stack.slots = below ++ .function id :: args)
    (fits : m.stack.size ≤ m.stack.config.capacity)
    (room : below.length + outputs ≤ m.stack.config.capacity)
    (raised : attemptScript (ε := StackError) site (callFunction site id args)
      (m.calling below args.length outputs) =
        .ok (.error e) { m.calling below args.length outputs with world := w }) :
    invoke site args.length outputs 0 m =
      .error (.error (.script ⟨.runtime, e.diagnostic⟩))
        (Machine.faulted ⟨{ m.stack with slots := below }, w⟩ e.diagnostic) := by
  rw [invoke_of_faulted (Stack.callParts_of_function slots fits room) (.raised raised) .unhandled]
  exact reportFault_apply _ (free_of_function outputs slots fits)

end Called

/-- Pushes a callback with arguments and calls it. -/
def callPushed (site : Script.Site β σ) (callback : Callback β) (args : List Value)
    (outputs : Nat) : StackM β σ Unit := do
  pushCallback callback
  pushAll args
  invoke site args.length outputs 0

/-- The machine after a callback and arguments for it were pushed. -/
def Machine.holding (m : Machine β σ) (callback : Callback β) (args : List Value) : Machine β σ :=
  ⟨m.stack.extend (.function m.world.heap.functions.size :: args),
    { m.world with heap := (m.world.heap.allocFunction (.host callback m.stack.config)).2 }⟩

theorem callPushed_of_room {site : Script.Site β σ} {callback : Callback β} {args : List Value}
    {outputs : Nat} {m : Machine β σ}
    (free : m.stack.size + 1 + args.length ≤ m.stack.config.capacity) :
    callPushed site callback args outputs m =
      invoke site args.length outputs 0 (m.holding callback args) := by
  let id := m.world.heap.functions.size
  let w : World β σ :=
    { m.world with heap := (m.world.heap.allocFunction (.host callback m.stack.config)).2 }
  have hcallback : (pushCallback callback : StackM β σ Unit) m =
      .ok () ⟨m.stack.extend [.function id], w⟩ := by
    rw [pushCallback_eq, if_pos (by omega)]
  have hargs : (pushAll args : StackM β σ Unit) ⟨m.stack.extend [.function id], w⟩ =
      .ok () (m.holding callback args) := by
    rw [pushAll_of_le, Stack.extend_extend]
    · rfl
    · simp only [Stack.size_extend, Stack.config_extend, List.length_singleton]
      omega
  rw [callPushed, bind_of_ok hcallback, bind_of_ok hargs]

theorem Machine.found_holding (m : Machine β σ) (callback : Callback β) (args : List Value) :
    (m.holding callback args).world.heap.functions[m.world.heap.functions.size]? =
      some (.host callback m.stack.config) :=
  Array.getElem?_push_size

theorem Machine.metamethod_holding (m : Machine β σ) (callback : Callback β) (args : List Value)
    (v : Value) (event : String) :
    (m.holding callback args).world.heap.metamethod v event = m.world.heap.metamethod v event :=
  rfl

theorem Machine.holding_fits (m : Machine β σ) (callback : Callback β) {args : List Value}
    (free : m.stack.size + 1 + args.length ≤ m.stack.config.capacity) :
    (m.holding callback args).stack.size ≤ (m.holding callback args).stack.config.capacity := by
  simp only [holding, Stack.size_extend, Stack.config_extend, List.length_cons]
  omega

/-! ## Callbacks and their arguments on a stack -/

theorem fitResults_nil (count : Nat) : fitResults count [.nil] = List.replicate count .nil := by
  cases count with
  | zero => rfl
  | succ count => simp [fitResults, List.replicate_succ]

section Host

variable (run : BodyRunner β σ) (outputs : Nat) {m : Machine β σ} {below args : List Value}
  {id : ObjectId} {callback : Callback β}

/-- What the call of a callback comes to on the stack, from what the callback answers. -/
theorem invoke_of_answer (slots : m.stack.slots = below ++ .function id :: args)
    (found : m.world.heap.functions[id]? = some (.host callback m.stack.config))
    (fits : m.stack.size ≤ m.stack.config.capacity)
    (room : below.length + outputs ≤ m.stack.config.capacity)
    (free : (hostSite run).HasSlots args.length) :
    let called := m.calling below args.length outputs
    let inner := (hostSite run).ofBody run (Script.nestingLimit - 1)
    invoke (hostSite run) args.length outputs 0 m =
      match inner.around.taking (callback.answer (run inner)
        ⟨.frame (args.map Value.detached) m.stack.config, called.world.attaching args⟩) with
      | .ok values w =>
        .ok () ⟨called.stack.extend (fitResults outputs (values.map Value.detached)),
          w.attaching values⟩
      | .error (.error e) w =>
        .error (.error (.script ⟨.runtime, e.diagnostic⟩))
          (Machine.faulted ⟨called.stack, w.throwing⟩ e.diagnostic)
      | .error (.panic text) w => .error (.panic text) ⟨called.stack, w⟩
      | .error .exhausted w => .error .exhausted ⟨called.stack, w⟩ := by
  intro called inner
  have hfree := free_of_function outputs slots fits
  have hfound : called.world.heap.functions[id]? = some (.host callback m.stack.config) := found
  have houtcome := callOutcome_host (hostSite_canCall free) hfound
  rw [invoke_of_parts (Stack.callParts_of_function slots fits room)]
  change (callOutcome (hostSite run) (.function id) args >>=
    settleCall (hostSite run) outputs none) called = _
  cases htaken : inner.around.taking (callback.answer (run inner)
      ⟨.frame (args.map Value.detached) m.stack.config, called.world.attaching args⟩) with
  | ok values w =>
    rw [htaken] at houtcome
    refine (bind_of_ok houtcome).trans (settleCall_results ?_)
    change outputs ≤ m.stack.config.capacity - below.length
    omega
  | error failure w =>
    rw [htaken] at houtcome
    cases failure with
    | error e => exact (bind_of_ok houtcome).trans (reportFault_apply _ hfree)
    | panic text => exact bind_of_error houtcome
    | exhausted => exact bind_of_error houtcome

/-- Results that the engine has no slots for fail the call. -/
theorem invoke_of_no_room (slots : m.stack.slots = below ++ .function id :: args)
    (found : m.world.heap.functions[id]? = some (.host callback m.stack.config))
    (fits : m.stack.size ≤ m.stack.config.capacity)
    (room : below.length + outputs ≤ m.stack.config.capacity)
    (free : (hostSite run).HasSlots args.length) {values : List Value} {frame : Machine β σ} :
    let called := m.calling below args.length outputs
    let inner := (hostSite run).ofBody run (Script.nestingLimit - 1)
    callback.answer (run inner)
        ⟨.frame (args.map Value.detached) m.stack.config, called.world.attaching args⟩ =
      .ok values frame →
    ¬ inner.around.hasRoomFor values.length = true →
    invoke (hostSite run) args.length outputs 0 m =
      .error (.error (.script ⟨.runtime, LuaError.stack.diagnostic⟩))
        (Machine.faulted ⟨called.stack, frame.world.throwing⟩ LuaError.stack.diagnostic) := by
  intro called inner answered full
  rw [invoke_of_answer run outputs slots found fits room free, answered,
    Script.Surroundings.taking_of_no_room full]

/-- A callback that the engine has no slots for is not run, and the call reports that. -/
theorem invoke_of_crowded (slots : m.stack.slots = below ++ .function id :: args)
    (found : m.world.heap.functions[id]? = some (.host callback m.stack.config))
    (fits : m.stack.size ≤ m.stack.config.capacity)
    (room : below.length + outputs ≤ m.stack.config.capacity)
    (crowded : ¬ (hostSite run).HasSlots args.length)
    (plain : m.world.heap.metamethod (.text "stack overflow") "__tostring" = .nil) :
    let called := m.calling below args.length outputs
    invoke (hostSite run) args.length outputs 0 m =
      .error (.error (.script ⟨.runtime, "stack overflow"⟩))
        (Machine.faulted ⟨called.stack, called.world.attaching args⟩ "stack overflow") := by
  intro called
  have hdiagnostic : (LuaError.runtime "stack overflow").diagnostic = "stack overflow" := by decide
  have hinvoke := invoke_of_raised slots fits room
    (attemptScript_callFunction_crowded (m := called) found crowded plain)
  rwa [hdiagnostic] at hinvoke

/-- A callback that the host calls, where the engine has slots for the arguments. With too few of
them its body is not run, and nil is in every place of a result. With enough its body runs once, on
a frame of the arguments and nothing else: what it promised of the top of the frame comes back, cut
off or filled up with nil. A promise of more than the frame holds, results that the engine has no
slots for and an error of the body fail the call, with the diagnostic of that error. -/
theorem invoke_callback (slots : m.stack.slots = below ++ .function id :: args)
    (found : m.world.heap.functions[id]? = some (.host callback m.stack.config))
    (fits : m.stack.size ≤ m.stack.config.capacity)
    (room : below.length + outputs ≤ m.stack.config.capacity)
    (free : (hostSite run).HasSlots args.length) :
    let called := m.calling below args.length outputs
    let entered := called.world.attaching args
    let inner := (hostSite run).ofBody run (Script.nestingLimit - 1)
    let faulted (e : LuaError) (w : World β σ) :
        EStateM.Result (Failure StackError) (Machine β σ) Unit :=
      .error (.error (.script ⟨.runtime, e.diagnostic⟩))
        (Machine.faulted ⟨called.stack, w.throwing⟩ e.diagnostic)
    (args.length < callback.minArgs →
      invoke (hostSite run) args.length outputs 0 m =
        .ok () ⟨called.stack.extend (List.replicate outputs .nil),
          { entered with journal := entered.journal ++ [callback.shortfall args.length] }⟩) ∧
    (callback.minArgs ≤ args.length →
      invoke (hostSite run) args.length outputs 0 m =
        match run inner callback.body
          ⟨.frame (args.map Value.detached) m.stack.config, entered⟩ with
        | .ok promised frame =>
          if promised ≤ frame.stack.size then
            if inner.around.hasRoomFor promised then
              let values := frame.stack.slots.drop (frame.stack.size - promised)
              .ok () ⟨called.stack.extend (fitResults outputs (values.map Value.detached)),
                frame.world.attaching values⟩
            else faulted .stack frame.world
          else faulted (callback.overpromise promised).toLua frame.world
        | .error (.error e) frame => faulted e.toLua frame.world
        | .error (.panic text) frame => .error (.panic text) ⟨called.stack, frame.world⟩
        | .error .exhausted frame => .error .exhausted ⟨called.stack, frame.world⟩) := by
  intro called entered inner faulted
  have hinvoke := invoke_of_answer run outputs slots found fits room free
  have hsize : (Stack.frame (args.map Value.detached) m.stack.config).size = args.length :=
    List.length_map _
  constructor
  · intro hfew
    -- the function had a slot of its own, so the frame has one left for the nil
    have hfree : args.length < m.stack.config.capacity := by
      simp only [Stack.size, slots, List.length_append, List.length_cons] at fits
      omega
    have hone : inner.around.hasRoomFor [Value.nil].length = true :=
      hasRoomFor_of_slots _ free (Nat.le_add_left 1 _)
    rw [hinvoke, Callback.answer_of_lt (by rwa [hsize]) (by rwa [hsize]), hsize,
      Script.Surroundings.taking_of_room hone]
    simp only [List.map_cons, List.map_nil, Value.detached, fitResults_nil]
    rfl
  · intro henough
    rw [hinvoke, Callback.answer_of_le (by rwa [hsize])]
    cases run inner callback.body ⟨.frame (args.map Value.detached) m.stack.config, entered⟩ with
    | ok promised frame =>
      by_cases hle : promised ≤ frame.stack.size
      · have hlength := Stack.length_topmost hle
        simp only [if_pos hle]
        by_cases hroom : inner.around.hasRoomFor promised = true
        · rw [Script.Surroundings.taking_of_room (by rwa [hlength]), if_pos hroom]
        · rw [Script.Surroundings.taking_of_no_room (by rwa [hlength]), if_neg hroom]
      · simp only [if_neg hle]
        rfl
    | error failure frame => cases failure <;> rfl

end Host

/-- A callback that promises all of its frame gives two values back, and a third result is nil. -/
theorem invoke_callback_echo :
    let run : BodyRunner Unit Unit := fun _ _ => return (← stack).size
    let config := Config.standard.withCapacity 5
    let heap : Heap Unit := { (Heap.initial : Heap Unit) with
      functions := #[.host ⟨"echo", 1, ()⟩ config] }
    let s : Stack := ⟨[.nil, .function 0, .boolean true, .integer 5], config, false, []⟩
    ∃ w, invoke (hostSite run) 2 3 0 ⟨s, ⟨heap, [], ()⟩⟩ =
      .ok () ⟨{ s with slots := [.nil, .boolean true, .integer 5, .nil] }, w⟩ := by
  intro run config heap s
  let m : Machine Unit Unit := ⟨s, ⟨heap, [], ()⟩⟩
  have slots : m.stack.slots = [.nil] ++ .function 0 :: [.boolean true, .integer 5] := rfl
  have found : m.world.heap.functions[0]? = some (.host ⟨"echo", 1, ()⟩ m.stack.config) := rfl
  have free : (hostSite run).HasSlots 2 := show 2 + 1 + 2 + 20 ≤ 1000000 by decide
  have hinvoke := (invoke_callback run 3 slots found (by decide) (by decide) free).2 (by decide)
  exact ⟨_, hinvoke⟩

/-- A stack with all the slots that it gets by itself holds more values than the engine has slots
for. A callback that is called with so many is not run, though it asks for none, and the call of one
that gives so many back fails, though nothing is made of them. -/
theorem invoke_callback_crowded :
    let run : BodyRunner Nat Nat := fun _ count => do
      modifyMemory (· + 1)
      pushAll (List.replicate count .nil)
      return count
    let fresh : Machine Nat Nat := ⟨.ofConfig .standard, ⟨Script.libraryHeap true, [], 0⟩⟩
    (∃ m', callPushed (hostSite run) ⟨"f", 0, 0⟩ (List.replicate 999987 .nil) 0 fresh =
        .error (.error (.script ⟨.runtime, "stack overflow"⟩)) m' ∧
      m'.stack.slots = [.text "stack overflow"] ∧ m'.world.memory = 0) ∧
    ∃ m', callPushed (hostSite run) ⟨"f", 0, 999999⟩ [] 0 fresh =
        .error (.error (.script ⟨.runtime, LuaError.stack.message⟩)) m' ∧
      m'.stack.slots = [.text LuaError.stack.message] ∧ m'.world.memory = 1 := by
  intro run fresh
  constructor
  · obtain ⟨args, hargs⟩ : ∃ args : List Value, args = List.replicate 999987 .nil := ⟨_, rfl⟩
    have hlength : args.length = 999987 := by rw [hargs, List.length_replicate]
    have free : fresh.stack.size + 1 + args.length ≤ fresh.stack.config.capacity := by
      rw [hlength]
      exact show 0 + 1 + 999987 ≤ 1000000 by decide
    have crowded : ¬ (hostSite run).HasSlots args.length := by
      rw [hlength]
      exact show ¬ 2 + 1 + 999987 + 20 ≤ 1000000 by decide
    have plain : fresh.world.heap.metamethod (.text "stack overflow") "__tostring" = .nil := by
      decide +kernel
    rw [← hargs, callPushed_of_room free]
    rw [← fresh.metamethod_holding ⟨"f", 0, 0⟩ args] at plain
    exact ⟨_, invoke_of_crowded run 0 rfl (fresh.found_holding _ args)
      (fresh.holding_fits _ free) (Nat.zero_le _) crowded plain, rfl, rfl⟩
  · obtain ⟨count, hcount⟩ : ∃ count, count = 999999 := ⟨_, rfl⟩
    let callback : Callback Nat := ⟨"f", 0, count⟩
    let inner := (hostSite run).ofBody run (Script.nestingLimit - 1)
    let frame : Stack := .frame [] fresh.stack.config
    let values : List Value := List.replicate count .nil
    have hlength : values.length = count := List.length_replicate
    have hpushed (w : World Nat Nat) :
        (pushAll values : StackM Nat Nat Unit) ⟨frame, w⟩ = .ok () ⟨frame.extend values, w⟩ := by
      refine pushAll_of_le (m := ⟨frame, w⟩) ?_
      rw [hlength, hcount]
      exact show 999999 ≤ 1000000 - 0 by decide
    have hrun (w : World Nat Nat) : run inner callback.body ⟨frame, w⟩ =
        .ok values.length ⟨frame.extend values, { w with memory := w.memory + 1 }⟩ := by
      rw [hlength]
      exact (bind_of_ok rfl).trans (bind_of_ok (hpushed _))
    have full : ¬ inner.around.hasRoomFor values.length = true := by
      rw [hlength, hcount, Script.Surroundings.hasRoomFor_iff]
      exact show ¬ 2 + 1 + 2 + 999999 ≤ 1000000 by decide
    have free : fresh.stack.size + 1 + ([] : List Value).length ≤ fresh.stack.config.capacity := by
      decide
    have slots : (hostSite run).HasSlots 0 := show 2 + 1 + 0 + 20 ≤ 1000000 by decide
    have hdiagnostic : LuaError.stack.diagnostic = LuaError.stack.message := by decide +kernel
    have hanswer (w : World Nat Nat) : callback.answer (run inner) ⟨frame, w⟩ =
        .ok values ⟨frame.extend values, { w with memory := w.memory + 1 }⟩ :=
      Callback.answer_of_pushed (m := ⟨frame, w⟩) (Nat.zero_le _) (hrun w)
    have hslots : (fresh.holding callback []).stack.slots =
        [] ++ .function fresh.world.heap.functions.size :: [] := rfl
    have hinvoke := invoke_of_no_room run 0 hslots (fresh.found_holding callback [])
      (fresh.holding_fits callback free) (Nat.zero_le _) slots (hanswer _) full
    rw [← hcount, callPushed_of_room free, ← hdiagnostic]
    exact ⟨_, hinvoke, rfl, rfl⟩

end ScriptBridge
