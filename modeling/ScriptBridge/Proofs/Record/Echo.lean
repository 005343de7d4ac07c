import ScriptBridge.Proofs.Record.Call
import ScriptBridge.Proofs.Stack.Args
import ScriptBridge.Proofs.Stack.Answers

/-!
# Calls that give their arguments back

A script function that is bound to a callback which gives back all of its frame fills its outputs
with its inputs, in their order, when the types agree: `call_of_echoes`. The call goes up the stack
and down again, through the engine and over the frame of the callback, and no step on the way may
turn the order around.
-/

namespace ScriptBridge

open HostM StackM

variable {β σ : Type}

namespace Callback

variable {callback : Callback β} {run : β → StackM β σ Nat} {m : Machine β σ}

/-- On a frame of so many values the callback gives all of them back. -/
def Echoes (callback : Callback β) (run : β → StackM β σ Nat) (count : Nat) : Prop :=
  callback.minArgs ≤ count ∧ ∀ m : Machine β σ, m.stack.size = count →
    ∃ promised m', run callback.body m = .ok promised m' ∧
      m'.stack.results promised = some m.stack.slots

theorem answer_of_echoes (echoes : callback.Echoes run m.stack.size) :
    ∃ m', callback.answer run m = .ok m.stack.slots m' := by
  obtain ⟨henough, hbody⟩ := echoes
  obtain ⟨promised, m', hrun, hresults⟩ := hbody m rfl
  refine ⟨m', ?_⟩
  rw [answer_of_le henough, hrun]
  by_cases hle : promised ≤ m'.stack.size
  · rw [Stack.results_of_le hle] at hresults
    simp only [if_pos hle, Option.some.inj hresults]
  · rw [Stack.results_of_lt (Nat.lt_of_not_le hle)] at hresults
    cases hresults

end Callback

theorem fitResults_length (results : List Value) :
    fitResults results.length results = results := by
  simp [fitResults]

section Invoke

variable {run : BodyRunner β σ} {depth : Nat} {site : Script.Site β σ} {m : Machine β σ}
  {s : Stack} {id : ObjectId} {callback : Callback β} {config : Config}

/-- A callback that gives its arguments back leaves them in their place; only the function below
them is gone. -/
theorem invoke_of_echoes {args : List Value} {handler : Int}
    (hstack : m.stack = s.extend (.function id :: args))
    (held : args.map Value.detached = args)
    (fits : m.stack.size ≤ m.stack.config.capacity)
    (handlerBelow : m.stack.HandlerBelow s.size handler)
    (found : m.world.heap.functions[id]? = some (.host callback config))
    (ready : site.CanCall run depth args.length)
    (echoes : callback.Echoes (run (site.ofBody run depth)) args.length) :
    ∃ w, invoke site args.length args.length handler m = .ok () ⟨s.extend args, w⟩ := by
  have hroom : s.slots.length + args.length ≤ m.stack.config.capacity := by
    have hsize : m.stack.size = s.slots.length + (args.length + 1) := by
      rw [hstack, Stack.size_extend]
      rfl
    omega
  have accepts : m.stack.Accepts args.length args.length handler s.slots (.function id) args :=
    ⟨by rw [hstack]; rfl, rfl, hroom, handlerBelow⟩
  have countable : m.stack.size ≤ maxCount := Nat.le_trans fits m.stack.config.capacity_le
  let called := m.calling s.slots args.length args.length
  have hcalled : called.stack = s := by
    change { m.stack with slots := s.slots } = s
    rw [hstack]
    rfl
  have houtcome := callOutcome_host (m := called) ready found
  rw [held] at houtcome
  obtain ⟨frame, hanswer⟩ := Callback.answer_of_echoes
    (m := ⟨.frame args config, called.world.attaching args⟩) echoes
  have htaken : (site.ofBody run depth).around.taking (.ok args frame) = .ok args frame.world :=
    Script.Surroundings.taking_of_room
      (hasRoomFor_of_slots _ (s := site.calling) ready.slots (Nat.le_succ _))
  change callback.answer _ _ = .ok args frame at hanswer
  rw [hanswer, htaken] at houtcome
  refine ⟨frame.world.attaching args, ?_⟩
  have hsettled : settleCall site args.length (m.stack.handlerAt handler)
      (.ok (args.map Value.detached)) { called with world := frame.world.attaching args } =
      .ok () { called with
        stack := called.stack.extend (fitResults args.length (args.map Value.detached))
        world := frame.world.attaching args } := by
    refine settleCall_results ?_
    change args.length ≤ m.stack.config.capacity - s.slots.length
    omega
  rw [invoke_of_parts (Stack.callParts_of_accepts countable accepts)]
  refine (bind_of_ok houtcome).trans (hsettled.trans ?_)
  rw [held, fitResults_length, hcalled]

end Invoke

namespace ScriptFunction

variable {run : BodyRunner β σ} {depth : Nat} {site : Script.Site β σ} {m : Machine β σ}
  {f : ScriptFunction}

/-- The value that a binding names is pushed, where the look-up runs no metamethod and has the two
slots that it may take. -/
theorem pushBound_of_plain {binding : FunctionBinding}
    (plain : site.ReadsPlainly m.world.heap binding.home binding.name)
    (room : m.stack.size + 2 ≤ m.stack.config.capacity) :
    pushBound site binding m = .ok () { m with
      stack := m.stack.extend [m.world.heap.field binding.home binding.name] } := by
  have hfree : m.stack.size < m.stack.config.capacity := by omega
  obtain ⟨name, table⟩ := binding
  cases table with
  | none => exact pushGlobal_of_plain plain hfree
  | some entry =>
    obtain ⟨tableName, id⟩ := entry
    let tabled : Machine β σ := { m with stack := m.stack.extend [.table id] }
    have hpush : (push (.table id) : StackM β σ Unit) m = .ok () tabled := by
      rw [push_apply, if_pos hfree]
    have hsecond : tabled.stack.size < tabled.stack.config.capacity := by
      change (m.stack.extend [.table id]).size < m.stack.config.capacity
      rw [Stack.size_extend, List.length_singleton]
      omega
    have hfield : pushField site top name tabled =
        .ok () { m with stack := m.stack.extend [.table id, m.world.heap.field id name] } := by
      rw [pushField_of_plain (m := tabled) plain (m.stack.table_top_extend id) hsecond,
        Stack.extend_extend]
      rfl
    have hremove := take_of_ok (f := (·.remove (-2)))
      (m := { m with stack := m.stack.extend [.table id, m.world.heap.field id name] })
      (m.stack.remove_second_extend (.table id) (m.world.heap.field id name))
    exact (bind_of_ok hpush).trans ((bind_of_ok hfield).trans (discard_of_ok hremove))

/-- Called with so many inputs, the function reaches a callback that gives them all back, and the
stack has room for the function and for the inputs. -/
structure Echoes (f : ScriptFunction) (run : BodyRunner β σ) (depth : Nat)
    (site : Script.Site β σ) (m : Machine β σ) (count : Nat) : Prop where
  inputs : f.inputs = count
  outputs : f.outputs = count
  handler : f.handler = 0 ∨ ∃ position, m.stack.absolute f.handler = some position
  callee : ∃ binding id callback config, f.binding = some binding ∧
    site.ReadsPlainly m.world.heap binding.home binding.name ∧
    m.world.heap.field binding.home binding.name = .function id ∧
    m.world.heap.functions[id]? = some (.host callback config) ∧
    callback.Echoes (run (site.ofBody run depth)) count
  room : m.stack.size + 1 + max 1 count ≤ m.stack.config.capacity

theorem Echoes.prepare {count : Nat} (h : f.Echoes run depth site m count) :
    ∃ binding handler, f.prepare m.stack count count = .ok (binding, handler) := by
  obtain ⟨binding, -, -, -, hbound, -⟩ := h.callee
  refine ⟨binding, ?_⟩
  have hinputs : ¬ f.inputs ≠ count := not_not_intro h.inputs
  have houtputs : ¬ f.outputs ≠ count := not_not_intro h.outputs
  simp only [ScriptFunction.prepare, if_neg hinputs, if_neg houtputs, hbound]
  by_cases hzero : f.handler = 0
  · exact ⟨0, if_pos hzero⟩
  · obtain ⟨position, hposition⟩ := h.handler.resolve_left hzero
    simp only [if_neg hzero, hposition]
    exact ⟨position, rfl⟩

/-- A handler is below what was pushed after its position was found. -/
theorem handlerBelow_extend {s : Stack} {index handler : Int} (vs : List Value)
    (hhandler : handler = 0 ∨ s.absolute index = some handler) :
    (s.extend vs).HandlerBelow s.size handler := by
  rcases hhandler with hzero | habsolute
  · exact .inl hzero
  · obtain ⟨hpos, k, hk, -⟩ := Stack.offset?_of_absolute habsolute
    exact .inr ⟨k, Stack.offset?_lt hk, Stack.offset?_extend_of_pos vs hpos hk⟩

theorem invokePushed_of_ok (scope : BalanceScope) (name : String) {handler : Int}
    {m' : Machine β σ} (h : invoke site f.inputs f.outputs handler m = .ok () m') :
    f.invokePushed site scope name handler m = .ok (.ok ()) m' := by
  have hattempt : attempt (RecordM.lift (invoke site f.inputs f.outputs handler)) m =
      .ok (.ok ()) m' :=
    attempt_ok_iff.mpr (mapError_of_ok h)
  rw [invokePushed, bind_of_ok hattempt]
  rfl

/-- The inputs lie where the results are sought. -/
theorem pushResults_of_echoes (scope : BalanceScope) {binding : FunctionBinding} {handler : Int}
    {inputs : List Arg} (echoes : f.Echoes run depth site m inputs.length)
    (ready : site.CanCall run depth inputs.length) (bound : f.binding = some binding)
    (hhandler : handler = 0 ∨ m.stack.absolute f.handler = some handler) :
    ∃ w, f.pushResults site scope binding handler inputs m =
      .ok (.ok ()) ⟨m.stack.extend (inputs.map Arg.toValue), w⟩ := by
  obtain ⟨binding', id, callback, config, hbound, hplain, hfield, hfound, hcallback⟩ :=
    echoes.callee
  cases Option.some.inj (bound.symm.trans hbound)
  have hroom := echoes.room
  have hpush := pushBound_of_plain hplain (by omega)
  rw [hfield] at hpush
  let called : Machine β σ := { m with
    stack := m.stack.extend (.function id :: inputs.map Arg.toValue) }
  have hargs : (pushArgs inputs : StackM β σ Unit)
      { m with stack := m.stack.extend [.function id] } = .ok () called := by
    rw [pushArgs_apply, Stack.extend_extend]
    · rfl
    · rw [Stack.size_extend, Stack.config_extend, List.length_singleton]
      omega
  have hinvoke : ∃ w, invoke site f.inputs f.outputs handler called =
      .ok () ⟨m.stack.extend (inputs.map Arg.toValue), w⟩ := by
    have hcount : (inputs.map Arg.toValue).length = inputs.length := List.length_map _
    have hfits : called.stack.size ≤ called.stack.config.capacity := by
      change (m.stack.extend _).size ≤ m.stack.config.capacity
      rw [Stack.size_extend, List.length_cons, hcount]
      omega
    rw [echoes.inputs, echoes.outputs, ← hcount]
    rw [← hcount] at ready hcallback
    exact invoke_of_echoes (m := called) rfl (Arg.map_detached_toValue inputs) hfits
      (handlerBelow_extend _ hhandler) hfound ready hcallback
  obtain ⟨w, hinvoke⟩ := hinvoke
  refine ⟨w, ?_⟩
  have hkind : (m.stack.extend [.function id]).kind top = .function := Stack.kind_top_extend _ _
  refine (bind_of_ok (mapError_of_ok hpush)).trans ?_
  simp only [stack_bind, hkind]
  exact (bind_of_ok (mapError_of_ok hargs)).trans (invokePushed_of_ok scope binding.name hinvoke)

/-- The call of a function that gives its arguments back fills outputs of the same types with the
inputs, in their order, and leaves the stack. -/
theorem call_of_echoes {inputs outputs : List Arg}
    (echoes : f.Echoes run depth site m inputs.length)
    (ready : site.CanCall run depth inputs.length)
    (same : outputs.map Arg.type = inputs.map Arg.type) :
    ∃ w, f.call site inputs outputs m = .ok (inputs, .ok ()) { m with world := w } := by
  obtain ⟨binding, handler, hprepare⟩ := echoes.prepare
  obtain ⟨-, houtputs, hbound, hhandler⟩ := prepare_ok hprepare
  have hlength : outputs.length = inputs.length := by
    have h := congrArg List.length same
    simpa using h
  have hcountable : outputs.length ≤ maxIndex := hlength.trans houtputs.symm ▸ f.outputs_le
  obtain ⟨w, hpush⟩ := pushResults_of_echoes ⟨callLabel, 0, m.stack.size⟩ echoes ready
    hbound hhandler
  refine ⟨w, ?_⟩
  have hfilled := fillOutputs_pushed m.stack hcountable same
  have hattempt :
      attempt (f.pushResults site ⟨callLabel, 0, m.stack.size⟩ binding handler inputs) m =
        .ok (.ok (.ok ())) ⟨m.stack.extend (inputs.map Arg.toValue), w⟩ :=
    attempt_ok_iff.mpr hpush
  have hpop : (pop f.outputs : StackM β σ Unit) ⟨m.stack.extend (inputs.map Arg.toValue), w⟩ =
      .ok () { m with world := w } := by
    refine change_of_ok (f := (·.pop f.outputs)) ?_
    have h := m.stack.pop_extend [] (inputs.map Arg.toValue)
    rwa [List.nil_append, Stack.extend_nil, List.length_map, ← echoes.outputs] at h
  have hfinish : (BalanceScope.finish ⟨callLabel, 0, m.stack.size⟩ : RecordM β σ Unit)
      { m with world := w } = .ok () { m with world := w } :=
    BalanceScope.finish_of_balanced _ (Int.add_zero _).symm
  simp only [call, stack_bind, hlength, hprepare]
  refine (bind_of_ok (rfl : BalanceScope.enter callLabel 0 m = .ok _ m)).trans
    ((bind_of_ok hattempt).trans ?_)
  simp only [stack_bind, hfilled]
  refine (bind_of_ok (mapError_of_ok hpop)).trans ((bind_of_ok hfinish).trans ?_)
  rfl

end ScriptFunction

end ScriptBridge
