import ScriptBridge.Engine
import ScriptBridge.Proofs.Script.PlainRead
import ScriptBridge.Proofs.Stack.Invoke
import ScriptBridge.Proofs.Text.Utf8

/-!
# Answers of callbacks

A callback that is called runs its body on a frame of the arguments and answers with what the body
promised of the top of the frame. The arguments and the answer go through the engine, which gives
the errors among them marks and takes the marks off again, and an error of the body comes out of the
engine as it went in: `callOutcome_host`. The engine has slots of its own, though. A call with more
arguments than it has slots for does not reach the callback, and an answer of more values than it
has slots for is an error.
-/

namespace ScriptBridge

open HostM StackM

variable {β σ : Type}

/-! ## Values on their way through the engine -/

/-- The world after values were handed to the engine: the errors among them got marks. -/
def World.attaching (w : World β σ) (vs : List Value) : World β σ :=
  { w with heap := (w.heap.attachAll vs).2 }

/-- The world after an error of the host was thrown in the engine: it got a mark. -/
def World.throwing (w : World β σ) : World β σ := { w with heap := w.heap.allocObject.2 }

namespace Heap

theorem detached_attach (h : Heap β) (v : Value) : (h.attach v).1.detached = v.detached := by
  cases v <;> rfl

theorem functions_attach (h : Heap β) (v : Value) : (h.attach v).2.functions = h.functions := by
  cases v <;> rfl

theorem attachAll_cons (h : Heap β) (v : Value) (vs : List Value) :
    h.attachAll (v :: vs) =
      ((h.attach v).1 :: ((h.attach v).2.attachAll vs).1, ((h.attach v).2.attachAll vs).2) := rfl

/-- The host takes the marks off again. -/
theorem detached_attachAll (h : Heap β) (vs : List Value) :
    (h.attachAll vs).1.map Value.detached = vs.map Value.detached := by
  induction vs generalizing h with
  | nil => rfl
  | cons v vs ih => rw [attachAll_cons, List.map_cons, List.map_cons, detached_attach, ih]

theorem length_attachAll (h : Heap β) (vs : List Value) :
    (h.attachAll vs).1.length = vs.length := by
  have hlength := congrArg List.length (h.detached_attachAll vs)
  rwa [List.length_map, List.length_map] at hlength

theorem functions_attachAll (h : Heap β) (vs : List Value) :
    (h.attachAll vs).2.functions = h.functions := by
  induction vs generalizing h with
  | nil => rfl
  | cons v vs ih => rw [attachAll_cons, ih, functions_attach]

theorem metamethod_attachAll (h : Heap β) (vs : List Value) (u : Value) (event : String) :
    (h.attachAll vs).2.metamethod u event = h.metamethod u event := by
  induction vs generalizing h with
  | nil => rfl
  | cons v vs ih => rw [attachAll_cons, ih, metamethod_attach]

end Heap

/-! ## What a callback answers -/

theorem Stack.results_of_le {s : Stack} {count : Nat} (h : count ≤ s.size) :
    s.results count = some (s.slots.drop (s.size - count)) :=
  if_neg (Nat.not_lt_of_le h)

theorem Stack.results_of_lt {s : Stack} {count : Nat} (h : s.size < count) :
    s.results count = none :=
  if_pos h

theorem Stack.length_topmost {s : Stack} {count : Nat} (h : count ≤ s.size) :
    (s.slots.drop (s.size - count)).length = count := by
  rw [List.length_drop]
  exact Nat.sub_sub_self h

namespace Callback

variable {callback : Callback β} {run : β → StackM β σ Nat} {m : Machine β σ}

/-- The warning about a call with too few arguments. -/
def shortfall (callback : Callback β) (supplied : Nat) : LogRecord :=
  ⟨.warn, callback.name ++ ": " ++ notEnoughArgs ++ " (expected " ++ toString callback.minArgs
    ++ ", got " ++ toString supplied ++ ")"⟩

/-- The error of a body that promised more results than its frame holds. -/
def overpromise (callback : Callback β) (promised : Nat) : StackError :=
  .callback callback.name (tooManyResults ++ " (" ++ toString promised ++ ")")

/-- With too few arguments the body is not reached, and the answer is nil. -/
theorem answer_of_lt (hfew : m.stack.size < callback.minArgs)
    (hfree : m.stack.size < m.stack.config.capacity) :
    callback.answer run m = .ok [.nil] ⟨m.stack.extend [.nil],
      { m.world with journal := m.world.journal ++ [callback.shortfall m.stack.size] }⟩ := by
  let warned : Machine β σ := ⟨m.stack, { m.world with
    journal := m.world.journal ++ [callback.shortfall m.stack.size] }⟩
  have hpush : (push .nil : StackM β σ Unit) warned =
      .ok () { warned with stack := m.stack.extend [.nil] } := by
    rw [push_apply, if_pos hfree]
  have hresults : (m.stack.extend [.nil]).results 1 = some [.nil] := by
    rw [Stack.results_of_le (by simp)]
    simp [Stack.size]
  simp only [answer, stack_bind, if_pos hfew]
  have hlog : (log .warn (callback.shortfall m.stack.size).text : StackM β σ Unit) m =
      .ok () warned := rfl
  refine (bind_of_ok hlog).trans ((bind_of_ok hpush).trans ((bind_of_ok (c := 1) rfl).trans ?_))
  simp only [stack_bind, hresults]
  rfl

/-- With enough arguments the body runs, and the answer is what it promised of its frame. -/
theorem answer_of_le (henough : callback.minArgs ≤ m.stack.size) :
    callback.answer run m =
      match run callback.body m with
      | .ok promised frame =>
        if promised ≤ frame.stack.size then
          .ok (frame.stack.slots.drop (frame.stack.size - promised)) frame
        else .error (.error (callback.overpromise promised)) frame
      | .error failure frame => .error failure frame := by
  simp only [answer, stack_bind, if_neg (Nat.not_lt_of_le henough)]
  cases hbody : run callback.body m with
  | ok promised frame =>
    rw [bind_of_ok hbody]
    by_cases hle : promised ≤ frame.stack.size
    · simp only [stack_bind, Stack.results_of_le hle, if_pos hle]
      rfl
    · simp only [stack_bind, Stack.results_of_lt (Nat.lt_of_not_le hle), if_neg hle]
      rfl
  | error failure frame => rw [bind_of_error hbody]

/-- A body that promises what it pushed gives that back. -/
theorem answer_of_pushed {values : List Value} {w : World β σ}
    (henough : callback.minArgs ≤ m.stack.size)
    (pushed : run callback.body m = .ok values.length ⟨m.stack.extend values, w⟩) :
    callback.answer run m = .ok values ⟨m.stack.extend values, w⟩ := by
  have hle : values.length ≤ (m.stack.extend values).size := by
    rw [Stack.size_extend]
    exact Nat.le_add_left _ _
  have htop : (m.stack.extend values).slots.drop ((m.stack.extend values).size - values.length) =
      values := by
    rw [Stack.size_extend, Nat.add_sub_cancel, Stack.slots_extend]
    exact List.drop_left
  simp only [answer_of_le henough, pushed, if_pos hle, htop]

end Callback

/-! ## Calls of callbacks in the engine -/

section Engine

variable {run : BodyRunner β σ} {depth : Nat} {callback : Callback β} {config : Config}
  {id : ObjectId} {args : List Value}

/-- What a call is made within that the host makes at a site. -/
def Script.Site.calling (site : Script.Site β σ) : Script.Surroundings :=
  { site.reporting.around with level := site.around.level + 1 }

/-- The engine has slots for a callback that the host calls at a site with so many arguments. -/
def Script.Site.HasSlots (site : Script.Site β σ) (count : Nat) : Prop :=
  site.around.slot + 1 + count + nativeRoom ≤ Script.slotLimit

/-- At a site the host can call a callback with so many arguments: its engine says what `run` says
of bodies, and the calls within each other and the slots leave room for the callback. -/
structure Script.Site.CanCall (site : Script.Site β σ) (run : BodyRunner β σ)
    (depth count : Nat) : Prop where
  engine : site.engine = ScriptBridge.engine run (depth + 1)
  level : site.around.level + 2 < Script.nestingLimit
  slots : site.HasSlots count

theorem hostSite_canCall {count : Nat} (free : (hostSite run).HasSlots count) :
    (hostSite run).CanCall run (Script.nestingLimit - 1) count :=
  ⟨rfl, show 0 + 2 < Script.nestingLimit by decide, free⟩

/-- The site at which the body of a callback runs that the host calls at a site. -/
def Script.Site.ofBody (site : Script.Site β σ) (run : BodyRunner β σ) (depth : Nat) :
    Script.Site β σ :=
  .ofNative (ScriptBridge.engine run depth) site.calling bodySlots

/-- What a callback answers, as the engine takes it at a site: results that there are slots for, or
an error. -/
def Script.Surroundings.taking (s : Script.Surroundings)
    (r : EStateM.Result (Failure StackError) (Machine β σ) (List Value)) :
    EStateM.Result (Failure LuaError) (World β σ) (List Value) :=
  match r with
  | .ok values frame =>
    if s.hasRoomFor values.length then .ok values frame.world
    else .error (.error .stack) frame.world
  | .error (.error e) frame => .error (.error e.toLua) frame.world
  | .error (.panic text) frame => .error (.panic text) frame.world
  | .error .exhausted frame => .error .exhausted frame.world

theorem Script.Surroundings.hasRoomFor_iff {s : Script.Surroundings} {count : Nat} :
    s.hasRoomFor count = true ↔ s.slot + count ≤ Script.slotLimit :=
  decide_eq_true_iff

/-- What a callback has slots for when it is called, it can give back, and one value more. -/
theorem hasRoomFor_of_slots {s : Script.Surroundings} {argCount count : Nat}
    (deeper : Script.Engine β σ)
    (slots : s.slot + 1 + argCount + nativeRoom ≤ Script.slotLimit) (h : count ≤ argCount + 1) :
    (Script.Site.ofNative deeper s bodySlots).around.hasRoomFor count = true := by
  have htwenty : nativeRoom = 20 := rfl
  refine Script.Surroundings.hasRoomFor_iff.mpr ?_
  change s.slot + 1 + 2 + count ≤ Script.slotLimit
  omega

theorem Script.Surroundings.taking_of_room {s : Script.Surroundings} {values : List Value}
    {frame : Machine β σ} (room : s.hasRoomFor values.length = true) :
    s.taking (.ok values frame) = .ok values frame.world :=
  if_pos room

theorem Script.Surroundings.taking_of_no_room {s : Script.Surroundings} {values : List Value}
    {frame : Machine β σ} (full : ¬ s.hasRoomFor values.length = true) :
    s.taking (.ok values frame) = .error (.error .stack) frame.world :=
  if_neg full

/-- What the engine took of a callback, as it hands it on: values have marks, errors are wrapped. -/
def handedOn (r : EStateM.Result (Failure LuaError) (World β σ) (List Value)) :
    EStateM.Result (Failure Value) (World β σ) (List Value) :=
  match r with
  | .ok values w => .ok (w.heap.attachAll values).1 (w.attaching values)
  | .error (.error e) w =>
    .error (.error (.failure (.callback "" e) w.heap.objectCount)) w.throwing
  | .error (.panic text) w => .error (.panic text) w
  | .error .exhausted w => .error .exhausted w

namespace Callback

variable {site : Script.Site β σ} {body : β → StackM β σ Nat} {w : World β σ}
  {values : List Value} {frame : Machine β σ}

/-- What a callback answers goes to the script with marks, if there are slots for it. -/
theorem dispatch_of_ok (room : site.around.hasRoomFor values.length = true)
    (answered : callback.answer body ⟨.frame (args.map Value.detached) config, w⟩ =
      .ok values frame) :
    callback.dispatch site body config args w =
      .ok (frame.world.heap.attachAll values).1 (frame.world.attaching values) := by
  have htaken : taken site.around (.ok values) = .ok values := if_pos room
  simp only [dispatch, bind, EStateM.bind, outcome, answered, htaken]
  rfl

/-- An answer that there are no slots for is an error, raised at the site of the call. -/
theorem dispatch_of_no_room (full : ¬ site.around.hasRoomFor values.length = true)
    (answered : callback.answer body ⟨.frame (args.map Value.detached) config, w⟩ =
      .ok values frame) :
    callback.dispatch site body config args w =
      site.around.raise (.failure (.callback "" .stack) frame.world.heap.objectCount)
        frame.world.throwing := by
  have htaken : taken site.around (.ok values) = .error .stack := if_neg full
  simp only [dispatch, bind, EStateM.bind, outcome, answered, htaken]
  rfl

/-- The error of a callback is raised at the site of the call, wrapped and with a mark. -/
theorem dispatch_of_error {e : StackError}
    (failed : callback.answer body ⟨.frame (args.map Value.detached) config, w⟩ =
      .error (.error e) frame) :
    callback.dispatch site body config args w =
      site.around.raise (.failure (.callback "" e.toLua) frame.world.heap.objectCount)
        frame.world.throwing := by
  simp only [dispatch, bind, EStateM.bind, outcome, failed]
  rfl

end Callback

theorem Script.Surroundings.raise_of_lt {α : Type} {s : Script.Surroundings}
    (hlevel : s.level + 1 < Script.nestingLimit) (v : Value) (w : World β σ) :
    (s.raise v : ScriptM β σ α) w = .error (.error v) w := by
  have hne : ¬ (s.isReported && s.level + 1 = Script.nestingLimit) := by
    simp
    omega
  simp only [raise, if_neg hne]
  rfl

theorem Callback.dispatch_apply {site : Script.Site β σ} {body : β → StackM β σ Nat}
    {w : World β σ} (hlevel : site.around.level + 1 < Script.nestingLimit) :
    callback.dispatch site body config args w =
      handedOn (site.around.taking
        (callback.answer body ⟨.frame (args.map Value.detached) config, w⟩)) := by
  cases hanswer : callback.answer body ⟨.frame (args.map Value.detached) config, w⟩ with
  | ok values frame =>
    by_cases room : site.around.hasRoomFor values.length = true
    · rw [dispatch_of_ok room hanswer, Script.Surroundings.taking_of_room room]
      rfl
    · rw [dispatch_of_no_room room hanswer, Script.Surroundings.taking_of_no_room room]
      exact Script.Surroundings.raise_of_lt hlevel _ _
  | error failure frame =>
    cases failure with
    | error e =>
      exact (dispatch_of_error hanswer).trans (Script.Surroundings.raise_of_lt hlevel _ _)
    | panic text =>
      simp only [dispatch, bind, EStateM.bind, outcome, hanswer]
      rfl
    | exhausted =>
      simp only [dispatch, bind, EStateM.bind, outcome, hanswer]
      rfl

/-- A callback that the runtime has slots for is called at a site of its own. -/
theorem callNative_host {deeper : Script.Engine β σ} {s : Script.Surroundings} {w : World β σ}
    (found : w.heap.functions[id]? = some (.host callback config))
    (hslots : s.slot + 1 + args.length + nativeRoom ≤ Script.slotLimit) :
    callNative run deeper s id args w =
      callback.dispatch (.ofNative deeper s bodySlots) (run (.ofNative deeper s bodySlots)) config
        args w := by
  have hheap : (ScriptM.heap : ScriptM β σ (Heap β)) w = .ok w.heap w := rfl
  have hcheck : (s.checkSlots args.length nativeRoom : ScriptM β σ Unit) w = .ok () w := by
    simp only [Script.Surroundings.checkSlots, if_neg (Nat.not_lt_of_le hslots)]
    rfl
  simp only [callNative]
  rw [bind_of_ok hcheck, bind_of_ok hheap]
  simp only [found]

/-- A function of the host is not reached when there are no slots for it. -/
theorem callNative_of_crowded {deeper : Script.Engine β σ} {s : Script.Surroundings}
    {w : World β σ} {failure : Failure Value}
    (hslots : Script.slotLimit < s.slot + 1 + args.length + nativeRoom)
    (raised : (s.failText "stack overflow" : ScriptM β σ Unit) w = .error failure w) :
    callNative run deeper s id args w = .error failure w := by
  have hcheck : (s.checkSlots args.length nativeRoom : ScriptM β σ Unit) w = .error failure w := by
    simp only [Script.Surroundings.checkSlots, if_pos hslots]
    exact raised
  simp only [callNative]
  exact bind_of_error hcheck

theorem callObject_host {deeper : Script.Engine β σ} {s : Script.Surroundings} {w : World β σ}
    (found : w.heap.functions[id]? = some (.host callback config)) :
    callObject run deeper s id args w = callNative run deeper s id args w := by
  have hheap : (ScriptM.heap : ScriptM β σ (Heap β)) w = .ok w.heap w := rfl
  simp only [callObject]
  rw [bind_of_ok hheap]
  simp only [found]

theorem engine_host {s : Script.Surroundings} {w : World β σ}
    (found : w.heap.functions[id]? = some (.host callback config))
    (hslots : s.slot + 1 + args.length + nativeRoom ≤ Script.slotLimit) :
    engine run (depth + 1) s id args w =
      callback.dispatch (.ofNative (engine run depth) s bodySlots)
        (run (.ofNative (engine run depth) s bodySlots)) config args w := by
  rw [engine, callObject_host found, callNative_host found hslots]

/-- A call of a callback that the host makes: what the engine takes of it, with its values as the
host holds them, or its error, which travels as a value and comes out of the engine again. -/
theorem attemptScript_callFunction_host {ε : Type} {site : Script.Site β σ} {m : Machine β σ}
    (ready : site.CanCall run depth args.length)
    (found : m.world.heap.functions[id]? = some (.host callback config)) :
    (attemptScript site (callFunction site id args) : HostM ε β σ _) m =
      match (site.ofBody run depth).around.taking (callback.answer (run (site.ofBody run depth))
        ⟨.frame (args.map Value.detached) config, m.world.attaching args⟩) with
      | .ok values w => .ok (.ok (values.map Value.detached)) { m with world := w.attaching values }
      | .error (.error e) w => .ok (.error (.callback "" e)) { m with world := w.throwing }
      | .error (.panic text) w => .error (.panic text) { m with world := w }
      | .error .exhausted w => .error .exhausted { m with world := w } := by
  have hattached : (ScriptM.attached args : ScriptM β σ (List Value)) m.world =
      .ok (m.world.heap.attachAll args).1 (m.world.attaching args) := rfl
  have hdeepened : (site.reporting.around.deepened : ScriptM β σ Script.Surroundings)
      (m.world.attaching args) = .ok site.calling (m.world.attaching args) :=
    Script.Surroundings.deepened_of_lt (s := site.reporting.around)
      (Nat.lt_of_succ_lt ready.level) _
  have hfound : (m.world.attaching args).heap.functions[id]? = some (.host callback config) := by
    rw [← found]
    exact congrArg (·[id]?) (m.world.heap.functions_attachAll args)
  have hroom : site.calling.slot + 1 + (m.world.heap.attachAll args).1.length + nativeRoom ≤
      Script.slotLimit := by
    rw [Heap.length_attachAll]
    exact ready.slots
  have hcalled : site.reporting.call id (m.world.heap.attachAll args).1 (m.world.attaching args) =
      handedOn ((site.ofBody run depth).around.taking (callback.answer (run (site.ofBody run depth))
        ⟨.frame (args.map Value.detached) config, m.world.attaching args⟩)) := by
    simp only [Script.Site.call]
    rw [bind_of_ok hdeepened]
    change site.engine site.calling id _ _ = _
    rw [ready.engine, engine_host hfound hroom, Callback.dispatch_apply ready.level,
      Heap.detached_attachAll]
    rfl
  simp only [callFunction]
  cases htaken : (site.ofBody run depth).around.taking (callback.answer
      (run (site.ofBody run depth))
      ⟨.frame (args.map Value.detached) config, m.world.attaching args⟩) with
  | ok values w =>
    rw [htaken] at hcalled
    refine attemptScript_of_ok ?_
    rw [bind_of_ok hattached, bind_of_ok hcalled, Heap.detached_attachAll]
    rfl
  | error failure w =>
    rw [htaken] at hcalled
    cases failure with
    | error e =>
      refine attemptScript_of_thrown (k := w.heap.objectCount) ?_
      rw [bind_of_ok hattached, bind_of_error hcalled]
    | panic text =>
      refine attemptScript_of_panic ?_
      rw [bind_of_ok hattached, bind_of_error hcalled]
    | exhausted =>
      refine attemptScript_of_exhausted ?_
      rw [bind_of_ok hattached, bind_of_error hcalled]

/-- What the call of a callback comes to: its results, or the text of its failure. -/
theorem callOutcome_host {site : Script.Site β σ} {m : Machine β σ}
    (ready : site.CanCall run depth args.length)
    (found : m.world.heap.functions[id]? = some (.host callback config)) :
    callOutcome site (.function id) args m =
      match (site.ofBody run depth).around.taking (callback.answer (run (site.ofBody run depth))
        ⟨.frame (args.map Value.detached) config, m.world.attaching args⟩) with
      | .ok values w => .ok (.ok (values.map Value.detached)) { m with world := w.attaching values }
      | .error (.error e) w => .ok (.error e.diagnostic) { m with world := w.throwing }
      | .error (.panic text) w => .error (.panic text) { m with world := w }
      | .error .exhausted w => .error .exhausted { m with world := w } := by
  rw [callOutcome_function, attemptScript_callFunction_host ready found]
  cases (site.ofBody run depth).around.taking (callback.answer (run (site.ofBody run depth))
      ⟨.frame (args.map Value.detached) config, m.world.attaching args⟩) with
  | ok values w => rfl
  | error failure w => cases failure <;> rfl

/-- The engine has no slots for the arguments: the callback is not reached, which is the error. -/
theorem attemptScript_callFunction_crowded {ε : Type} {m : Machine β σ}
    (found : m.world.heap.functions[id]? = some (.host callback config))
    (crowded : ¬ (hostSite run).HasSlots args.length)
    (plain : m.world.heap.metamethod (.text "stack overflow") "__tostring" = .nil) :
    (attemptScript (hostSite run) (callFunction (hostSite run) id args) : HostM ε β σ _) m =
      .ok (.error (.runtime "stack overflow")) { m with world := m.world.attaching args } := by
  let site := hostSite run
  let entered := m.world.attaching args
  have hattached : (ScriptM.attached args : ScriptM β σ (List Value)) m.world =
      .ok (m.world.heap.attachAll args).1 entered := rfl
  have hdeepened : (site.reporting.around.deepened : ScriptM β σ Script.Surroundings) entered =
      .ok site.calling entered :=
    Script.Surroundings.deepened_of_lt (s := site.reporting.around)
      (show 0 + 1 < Script.nestingLimit by decide) _
  have hfound : entered.heap.functions[id]? = some (.host callback config) := by
    rw [← found]
    exact congrArg (·[id]?) (m.world.heap.functions_attachAll args)
  have hslots : Script.slotLimit <
      site.calling.slot + 1 + (m.world.heap.attachAll args).1.length + nativeRoom := by
    rw [Heap.length_attachAll]
    exact Nat.lt_of_not_le crowded
  have hraised : (site.calling.failText "stack overflow" : ScriptM β σ Unit) entered =
      .error (.error (.text "stack overflow")) entered :=
    Script.Surroundings.raise_of_lt (s := site.calling)
      (show 1 + 1 < Script.nestingLimit by decide) _ _
  have hcalled : site.reporting.call id (m.world.heap.attachAll args).1 entered =
      .error (.error (.text "stack overflow")) entered := by
    simp only [Script.Site.call]
    rw [bind_of_ok hdeepened]
    change engine run (Script.nestingLimit - 1 + 1) site.calling id _ _ = _
    rw [engine, callObject_host hfound, callNative_of_crowded hslots hraised]
  have hplain : entered.heap.metamethod (.text "stack overflow") "__tostring" = .nil := by
    rw [← plain]
    exact m.world.heap.metamethod_attachAll args _ _
  have hwhole : (Bytes.ofString "stack overflow").untilZero = Bytes.ofString "stack overflow" := rfl
  have hcaught : callFunction (hostSite run) id args m.world =
      .error (.error (.text "stack overflow")) entered := by
    simp only [callFunction]
    rw [bind_of_ok hattached, bind_of_error hcalled]
  rw [attemptScript_of_text hcaught hplain, hwhole, Bytes.toStringLossy_ofString]

end Engine

end ScriptBridge
