import ScriptBridge.Proofs.Record.Echo

/-!
# The course of a call

A call of a script function that has what it needs looks its function up, pushes it with the inputs,
runs it once and sees to what the run came to. `ScriptFunction.Reaches` says when a call gets as far
as the run, and `ScriptFunction.call_of_reaches` that the call is then this run followed by
`ScriptFunction.settle`. What ends a call earlier is described by how far it got.
-/

namespace ScriptBridge

open HostM StackM

variable {β σ : Type}

/-- How many more slots a stack may have. -/
def Stack.free (s : Stack) : Nat := s.config.capacity - s.size

theorem Stack.size_lt_of_free {s : Stack} {n : Nat} (h : n + 1 ≤ s.free) :
    s.size + n < s.config.capacity := by
  unfold free at h
  omega

/-! ## Looking the function up -/

namespace FunctionBinding

/-- The slots that looking a function up takes: a table lies below the value first. -/
def slots (binding : FunctionBinding) : Nat := if binding.table.isNone then 1 else 2

/-- The name gives a value, and reading it leaves a world. -/
def Finds (binding : FunctionBinding) (site : Script.Site β σ) (w : World β σ) (v : Value)
    (w' : World β σ) : Prop :=
  site.readField binding.home (.text binding.name) w = .ok v w'

/-- A name that is read without metamethods gives what the table holds, and nothing happens. -/
theorem finds_of_plain {binding : FunctionBinding} {site : Script.Site β σ} {w : World β σ}
    (plain : site.ReadsPlainly w.heap binding.home binding.name) :
    binding.Finds site w (w.heap.field binding.home binding.name) w :=
  Script.Site.readField_of_plain plain

end FunctionBinding

namespace ScriptFunction

section Lookup

variable {binding : FunctionBinding} {site : Script.Site β σ} {m m' : Machine β σ} {v : Value}
  {w : World β σ}

theorem script_of_finds (found : binding.Finds site m.world v w) :
    script site (site.readField binding.home (.text binding.name)) m =
      .ok v { m with world := w } :=
  bind_of_ok (attemptScript_of_ok found)

/-- The value that a name gives is pushed, when there is room for the look-up. -/
theorem pushBound_of_finds (found : binding.Finds site m.world v w)
    (room : binding.slots ≤ m.stack.free) :
    pushBound site binding m = .ok () ⟨m.stack.extend [v], w⟩ := by
  obtain ⟨name, table⟩ := binding
  cases table with
  | none =>
    have hfree : m.stack.size < m.stack.config.capacity := Stack.size_lt_of_free (n := 0) room
    refine (bind_of_ok (script_of_finds found)).trans ?_
    rw [push_apply, if_pos hfree]
  | some entry =>
    obtain ⟨tableName, id⟩ := entry
    have hfree : m.stack.size + 1 < m.stack.config.capacity := Stack.size_lt_of_free room
    let tabled : Machine β σ := { m with stack := m.stack.extend [.table id] }
    have hpush : (push (.table id) : StackM β σ Unit) m = .ok () tabled := by
      rw [push_apply, if_pos (Nat.lt_of_succ_lt hfree)]
    have hfield : pushField site top name tabled =
        .ok () ⟨m.stack.extend [.table id, v], w⟩ := by
      have hview := view_of_ok (f := (·.table top)) (m := tabled) (m.stack.table_top_extend id)
      have hread := script_of_finds (m := tabled) found
      refine (bind_of_ok hview).trans ((bind_of_ok hread).trans ?_)
      rw [push_apply, if_pos]
      · rw [Stack.extend_extend]
        rfl
      · change (m.stack.extend [.table id]).size < m.stack.config.capacity
        rwa [Stack.size_extend]
    have hremove := take_of_ok (f := (·.remove (-2)))
      (m := (⟨m.stack.extend [.table id, v], w⟩ : Machine β σ))
      (m.stack.remove_second_extend (.table id) v)
    exact (bind_of_ok hpush).trans ((bind_of_ok hfield).trans (discard_of_ok hremove))

/-- Without room for the look-up nothing is pushed but a table. The name was read, or not even
that. -/
theorem pushBound_of_crowded (found : binding.Finds site m.world v w)
    (crowded : m.stack.free < binding.slots) :
    ∃ vs w', (w' = m.world ∨ w' = w) ∧
      pushBound site binding m = .error (.error m.stack.overflow) ⟨m.stack.extend vs, w'⟩ := by
  obtain ⟨name, table⟩ := binding
  cases table with
  | none =>
    have hfull : ¬ m.stack.size < m.stack.config.capacity := by
      change m.stack.config.capacity - m.stack.size < 1 at crowded
      omega
    refine ⟨[], w, .inr rfl, (bind_of_ok (script_of_finds found)).trans ?_⟩
    rw [push_apply, if_neg hfull, Stack.extend_nil]
  | some entry =>
    obtain ⟨tableName, id⟩ := entry
    by_cases hfree : m.stack.size < m.stack.config.capacity
    · -- there is room for the table and none for the value
      have hfull : ¬ (m.stack.extend [.table id]).size < m.stack.config.capacity := by
        change m.stack.config.capacity - m.stack.size < 2 at crowded
        rw [Stack.size_extend, List.length_singleton]
        omega
      let tabled : Machine β σ := { m with stack := m.stack.extend [.table id] }
      have hpush : (push (.table id) : StackM β σ Unit) m = .ok () tabled := by
        rw [push_apply, if_pos hfree]
      have hfield : pushField site top name tabled =
          .error (.error m.stack.overflow) ⟨m.stack.extend [.table id], w⟩ := by
        have hview := view_of_ok (f := (·.table top)) (m := tabled) (m.stack.table_top_extend id)
        have hread := script_of_finds (m := tabled) found
        refine (bind_of_ok hview).trans ((bind_of_ok hread).trans ?_)
        rw [push_apply]
        exact if_neg hfull
      exact ⟨[.table id], w, .inr rfl, (bind_of_ok hpush).trans (bind_of_error hfield)⟩
    · refine ⟨[], m.world, .inl rfl, bind_of_error ?_⟩
      rw [push_apply, if_neg hfree, Stack.extend_nil]

theorem run_of_script {action : ScriptM β σ Value} (h : script site action m = .ok v m') :
    action m.world = .ok v m'.world := by
  obtain ⟨r, m₁, hattempt, hr⟩ := bind_ok_iff.mp h
  cases r with
  | ok u =>
    cases hr
    exact run_of_attemptScript hattempt
  | error e => cases hr

/-- What was pushed is what the name gave. -/
theorem finds_of_pushBound (run : pushBound site binding m = .ok () m') :
    ∃ v w, binding.Finds site m.world v w := by
  obtain ⟨name, table⟩ := binding
  cases table with
  | none =>
    obtain ⟨v, m₁, hread, -⟩ := bind_ok_iff.mp run
    exact ⟨v, m₁.world, run_of_script hread⟩
  | some entry =>
    obtain ⟨tableName, id⟩ := entry
    obtain ⟨_, m₁, hpush, hrest⟩ := bind_ok_iff.mp run
    obtain ⟨_, m₂, hfield, -⟩ := bind_ok_iff.mp hrest
    have hm₁ : m₁ = { m with stack := m.stack.extend [.table id] } := by
      rw [push_apply] at hpush
      split at hpush <;> cases hpush
      rfl
    subst hm₁
    let tabled : Machine β σ := { m with stack := m.stack.extend [.table id] }
    have hview := view_of_ok (f := (·.table top)) (m := tabled) (m.stack.table_top_extend id)
    rw [pushField, bind_of_ok hview] at hfield
    obtain ⟨v, m₃, hread, -⟩ := bind_ok_iff.mp hfield
    exact ⟨v, m₃.world, run_of_script (m := tabled) hread⟩

theorem pushBound_ok (run : pushBound site binding m = .ok () m') :
    ∃ v w, binding.Finds site m.world v w ∧ binding.slots ≤ m.stack.free ∧
      m' = ⟨m.stack.extend [v], w⟩ := by
  obtain ⟨v, w, found⟩ := finds_of_pushBound run
  by_cases room : binding.slots ≤ m.stack.free
  · rw [pushBound_of_finds found room] at run
    cases run
    exact ⟨v, w, found, room, rfl⟩
  · obtain ⟨vs, w', -, hrun⟩ := pushBound_of_crowded found (Nat.lt_of_not_le room)
    rw [hrun] at run
    cases run

/-- The reasons for which a value is not pushed. -/
def Unfound (e : StackError) : Prop :=
  (∃ capacity, e = .overflow capacity) ∨ ∃ raised, e = .engine raised

theorem ends_script_unfound {action : ScriptM β σ Value} :
    (script site action >>= push).Ends m (fun _ _ => True) (fun e _ => Unfound e)
      (fun _ => True) := by
  refine ends_bind (ends_script (fun v w _ => ?_) (fun e w _ => ?_) (fun _ _ => trivial))
  · exact ends_push (fun _ => trivial) (fun _ => .inl ⟨_, rfl⟩)
  · exact .inr ⟨e, rfl⟩

theorem pushBound_error {e : StackError} (run : pushBound site binding m = .error (.error e) m') :
    Unfound e ∧ ∃ vs, m'.stack = m.stack.extend vs := by
  have hstack := (ends_pushBound site binding m).meets
  have hunfound : (pushBound site binding).Ends m (fun _ _ => True) (fun e _ => Unfound e)
      (fun _ => True) := by
    obtain ⟨name, table⟩ := binding
    cases table with
    | none => exact ends_script_unfound
    | some entry =>
      obtain ⟨tableName, id⟩ := entry
      refine ends_bind (ends_push (fun _ => ?_) (fun _ => .inl ⟨_, rfl⟩))
      refine ends_bind (ends_bind (ends_view_table (m.stack.table_top_extend id) ?_))
      refine ends_bind (ends_script (fun v w _ => ?_) (fun e w _ => .inr ⟨e, rfl⟩)
        (fun _ _ => trivial))
      refine ends_push (fun _ => ?_) (fun _ => .inl ⟨_, rfl⟩)
      refine ends_discard (ends_remove_second (m.stack.extend_extend [.table id] [v]) trivial)
  have hmeets := hunfound.meets
  rw [run] at hstack hmeets
  exact ⟨hmeets, hstack⟩

end Lookup

end ScriptFunction

/-! ## Stops pass -/

namespace HostM

variable {ε ε' α : Type} {m m' : Machine β σ}

/-- A stop as a failure beside the errors of an action. -/
def stopped (stop : Stop) : Failure ε := stop.map Empty.elim

theorem attempt_of_stopped {action : HostM ε β σ α} {stop : Stop}
    (h : action m = .error (stopped stop) m') : attempt action m = .error (stopped stop) m' := by
  cases stop with
  | error e => exact e.elim
  | panic text => simp only [attempt, h, stopped, Failure.map]
  | exhausted => simp only [attempt, h, stopped, Failure.map]

theorem mapError_of_stopped {f : ε' → ε} {action : HostM ε' β σ α} {stop : Stop}
    (h : action m = .error (stopped stop) m') :
    mapError f action m = .error (stopped stop) m' := by
  cases stop with
  | error e => exact e.elim
  | panic text => simp only [mapError, EStateM.adaptExcept, h, stopped, Failure.map]
  | exhausted => simp only [mapError, EStateM.adaptExcept, h, stopped, Failure.map]

theorem ok_of_mapError {f : ε' → ε} {action : HostM ε' β σ α} {a : α}
    (h : mapError f action m = .ok a m') : action m = .ok a m' := by
  cases hrun : action m with
  | ok b m₁ =>
    rw [mapError_of_ok hrun] at h
    cases h
    rfl
  | error failure m₁ =>
    simp only [mapError, EStateM.adaptExcept, hrun] at h
    cases h

/-- A failure is an error or a stop. -/
theorem error_or_stopped (failure : Failure ε) :
    (∃ e, failure = .error e) ∨ ∃ stop, failure = stopped stop := by
  cases failure with
  | error e => exact .inl ⟨e, rfl⟩
  | panic text => exact .inr ⟨.panic text, rfl⟩
  | exhausted => exact .inr ⟨.exhausted, rfl⟩

end HostM

namespace ScriptFunction

variable {f : ScriptFunction} {site : Script.Site β σ} {m m₁ : Machine β σ}
  {binding : FunctionBinding} {handler : Int} {inputs outputs : List Arg} {e : RecordError}

/-! ## From the results to the outcome -/

theorem call_of_unprepared
    (unprepared : f.prepare m.stack inputs.length outputs.length = .error e) :
    f.call site inputs outputs m = .ok (outputs, .error e) m := by
  simp only [call, stack_bind, unprepared]
  rfl

section Prepared

variable (prepared : f.prepare m.stack inputs.length outputs.length = .ok (binding, handler))
include prepared

/-- An error that is given back has finished the scope. -/
theorem call_of_given_back
    (run : f.pushResults site ⟨callLabel, 0, m.stack.size⟩ binding handler inputs m =
      .ok (.error e) m₁) :
    f.call site inputs outputs m = .ok (outputs, .error e) m₁ := by
  simp only [call, stack_bind, prepared]
  refine (bind_of_ok (rfl : BalanceScope.enter callLabel 0 m = .ok _ m)).trans ?_
  exact bind_of_ok (attempt_ok_iff.mpr run)

/-- An error that is raised abandons the scope. -/
theorem call_of_raised
    (run : f.pushResults site ⟨callLabel, 0, m.stack.size⟩ binding handler inputs m =
      .error (.error e) m₁) :
    f.call site inputs outputs m =
      (BalanceScope.abandon ⟨callLabel, 0, m.stack.size⟩ >>= fun _ =>
        pure (outputs, .error e)) m₁ := by
  simp only [call, stack_bind, prepared]
  refine (bind_of_ok (rfl : BalanceScope.enter callLabel 0 m = .ok _ m)).trans ?_
  exact bind_of_ok (attempt_error_iff.mpr run)

/-- What lies above the stack when an error is raised is discarded. -/
theorem call_of_raised_above {vs : List Value} (above : m₁.stack = m.stack.extend vs)
    (run : f.pushResults site ⟨callLabel, 0, m.stack.size⟩ binding handler inputs m =
      .error (.error e) m₁) :
    ∃ journal, f.call site inputs outputs m =
      .ok (outputs, .error e) ⟨m.stack, { m₁.world with journal := journal }⟩ := by
  have habandon : (BalanceScope.abandon ⟨callLabel, 0, m.stack.size⟩ : RecordM β σ Unit).Ends m₁
      (fun _ m' => ∃ journal, m' = ⟨m.stack, { m₁.world with journal := journal }⟩)
      (fun _ _ => False) (fun _ => False) :=
    BalanceScope.ends_abandon vs above rfl fun journal => ⟨journal, rfl⟩
  obtain ⟨_, _, habandon, journal, rfl⟩ := habandon.exists_ok
  exact ⟨journal, (call_of_raised prepared run).trans (bind_of_ok habandon)⟩

theorem call_of_stopped {stop : Stop}
    (run : f.pushResults site ⟨callLabel, 0, m.stack.size⟩ binding handler inputs m =
      .error (stopped stop) m₁) :
    f.call site inputs outputs m = .error (stopped stop) m₁ := by
  simp only [call, stack_bind, prepared]
  refine (bind_of_ok (rfl : BalanceScope.enter callLabel 0 m = .ok _ m)).trans ?_
  exact bind_of_error (attempt_of_stopped run)

/-- Results that lie above the stack are offered to the outputs and dropped. -/
theorem call_of_returned {vs : List Value} (above : m₁.stack = m.stack.extend vs)
    (count : vs.length = f.outputs)
    (run : f.pushResults site ⟨callLabel, 0, m.stack.size⟩ binding handler inputs m =
      .ok (.ok ()) m₁) :
    f.call site inputs outputs m =
      match fillOutputs m₁.stack outputs with
      | (filled, .ok ()) => .ok (filled, .ok ()) { m₁ with stack := m.stack }
      | (filled, .error e) => .ok (filled, .error (.stack e)) ⟨m.stack, { m₁.world with
          journal := m₁.world.journal ++ [⟨.trace, callLabel ++ ": discarding "
            ++ toString f.outputs ++ " values"⟩] }⟩ := by
  obtain ⟨-, houtputs, -⟩ := prepare_ok prepared
  simp only [call, stack_bind, prepared]
  refine (bind_of_ok (rfl : BalanceScope.enter callLabel 0 m = .ok _ m)).trans ?_
  refine (bind_of_ok (attempt_ok_iff.mpr run)).trans ?_
  simp only [stack_bind]
  cases hfilled : fillOutputs m₁.stack outputs with
  | mk filled outcome =>
    cases outcome with
    | ok =>
      have hpop : (pop f.outputs : StackM β σ Unit) m₁ = .ok () { m₁ with stack := m.stack } := by
        refine change_of_ok (f := (·.pop f.outputs)) ?_
        have h := m.stack.pop_extend [] vs
        rwa [List.nil_append, Stack.extend_nil, count, ← above] at h
      have hfinish : (BalanceScope.finish ⟨callLabel, 0, m.stack.size⟩ : RecordM β σ Unit)
          { m₁ with stack := m.stack } = .ok () { m₁ with stack := m.stack } :=
        BalanceScope.finish_of_balanced _ (Int.add_zero _).symm
      refine (bind_of_ok (mapError_of_ok hpop)).trans ((bind_of_ok hfinish).trans ?_)
      rfl
    | error e =>
      -- only an output refuses a value, so there is one to discard
      have hsome : 0 < f.outputs := by
        rw [houtputs]
        cases outputs with
        | nil => cases hfilled
        | cons a rest => exact Nat.succ_pos _
      have hsize : m₁.stack.size = m.stack.size + f.outputs := by
        rw [above, Stack.size_extend, count]
      have habandon : (BalanceScope.abandon ⟨callLabel, 0, m.stack.size⟩ : RecordM β σ Unit) m₁ =
          .ok () ⟨m.stack, { m₁.world with
            journal := m₁.world.journal ++ [⟨.trace, callLabel ++ ": discarding "
              ++ toString f.outputs ++ " values"⟩] }⟩ := by
        rw [BalanceScope.abandon_apply, if_pos (by rw [hsize]; exact Nat.lt_add_of_pos_right hsome)]
        simp only [hsize, Nat.add_sub_cancel_left]
        rw [above, Stack.truncate_extend]
      exact bind_of_ok habandon

end Prepared

/-! ## From the function to the results -/

section Pushed

variable {id : ObjectId} {v : Value} {w : World β σ} {scope : BalanceScope}

/-- The machine once the function and the inputs are pushed. -/
def pushedWith (s : Stack) (id : ObjectId) (inputs : List Arg) (w : World β σ) : Machine β σ :=
  ⟨s.extend (.function id :: inputs.map Arg.toValue), w⟩

theorem pushResults_of_other (found : binding.Finds site m.world v w)
    (room : binding.slots ≤ m.stack.free) (other : v.kind ≠ .function)
    (hscope : scope.expected = m.stack.size) :
    f.pushResults site scope binding handler inputs m =
      .ok (.error (.notCallable binding.name v.kind)) ⟨m.stack, w⟩ := by
  have hkind : (m.stack.extend [v]).kind top = v.kind := m.stack.kind_top_extend v
  have hpop : (pop 1 : StackM β σ Unit) ⟨m.stack.extend [v], w⟩ = .ok () ⟨m.stack, w⟩ := by
    refine change_of_ok (f := (·.pop 1)) ?_
    have h := m.stack.pop_extend [] [v]
    rwa [List.nil_append, Stack.extend_nil, List.length_singleton] at h
  have hfinish : (scope.finish : RecordM β σ Unit) ⟨m.stack, w⟩ = .ok () ⟨m.stack, w⟩ :=
    BalanceScope.finish_of_balanced scope hscope.symm
  refine (bind_of_ok (mapError_of_ok (pushBound_of_finds found room))).trans ?_
  simp only [stack_bind, hkind, if_pos other]
  exact (bind_of_ok (mapError_of_ok hpop)).trans (bind_of_ok hfinish)

/-- A function that was pushed is called once its inputs are pushed, if these have room. -/
theorem pushResults_of_function (found : binding.Finds site m.world (.function id) w)
    (room : binding.slots ≤ m.stack.free) :
    f.pushResults site scope binding handler inputs m =
      (RecordM.lift (pushArgs inputs) >>= fun _ =>
        f.invokePushed site scope binding.name handler) ⟨m.stack.extend [.function id], w⟩ := by
  have hkind : (m.stack.extend [.function id]).kind top = .function :=
    m.stack.kind_top_extend (.function id)
  refine (bind_of_ok (mapError_of_ok (pushBound_of_finds found room))).trans ?_
  simp only [stack_bind, hkind]
  rfl

/-- Inputs for which there is no room are pushed as far as there is. -/
theorem pushResults_of_crowded (found : binding.Finds site m.world (.function id) w)
    (room : binding.slots ≤ m.stack.free) (crowded : m.stack.free < 1 + inputs.length) :
    f.pushResults site scope binding handler inputs m =
      .error (.error (.stack m.stack.overflow))
        ⟨m.stack.extend (.function id :: (inputs.map Arg.toValue).take (m.stack.free - 1)), w⟩ := by
  let pushed : Machine β σ := ⟨m.stack.extend [.function id], w⟩
  have hroom : pushed.stack.config.capacity - pushed.stack.size = m.stack.free - 1 := by
    change m.stack.config.capacity - (m.stack.extend [.function id]).size = _
    rw [Stack.size_extend, List.length_singleton, Stack.free]
    omega
  have hlt : m.stack.free - 1 < (inputs.map Arg.toValue).length := by
    have hone : 1 ≤ binding.slots := by
      unfold FunctionBinding.slots
      split <;> decide
    rw [List.length_map]
    omega
  have hpush : (pushArgs inputs : StackM β σ Unit) pushed = .error (.error m.stack.overflow)
      ⟨m.stack.extend (.function id :: (inputs.map Arg.toValue).take (m.stack.free - 1)), w⟩ := by
    rw [pushArgs, pushAll_apply]
    simp only [hroom, if_pos hlt, pushed, Stack.extend_extend]
    rfl
  rw [pushResults_of_function found room]
  exact bind_of_error (mapError_of_error hpush)

theorem pushResults_of_inputs (found : binding.Finds site m.world (.function id) w)
    (room : binding.slots ≤ m.stack.free) (fits : 1 + inputs.length ≤ m.stack.free) :
    f.pushResults site scope binding handler inputs m =
      f.invokePushed site scope binding.name handler (pushedWith m.stack id inputs w) := by
  let pushed : Machine β σ := ⟨m.stack.extend [.function id], w⟩
  have hargs : (pushArgs inputs : StackM β σ Unit) pushed =
      .ok () (pushedWith m.stack id inputs w) := by
    rw [pushArgs_apply]
    · simp only [pushed, Stack.extend_extend]
      rfl
    · change inputs.length ≤ m.stack.config.capacity - (m.stack.extend [.function id]).size
      rw [Stack.size_extend, List.length_singleton]
      unfold Stack.free at fits
      omega
  rw [pushResults_of_function found room]
  exact bind_of_ok (mapError_of_ok hargs)

end Pushed

section Invoked

variable {id : ObjectId} {w : World β σ} {scope : BalanceScope} {name : String}

theorem handlerAt_of_prepare {s : Stack} {count counted : Nat}
    (prepared : f.prepare s count counted = .ok (binding, handler)) (vs : List Value) :
    (s.extend vs).handlerAt handler = s.handlerAt f.handler := by
  simp only [prepare] at prepared
  split at prepared
  · cases prepared
  split at prepared
  · cases prepared
  split at prepared
  · cases prepared
  split at prepared
  next hzero =>
    cases prepared
    simp only [Stack.handlerAt, hzero, if_true]
  next hne =>
    split at prepared <;> cases prepared
    next habsolute =>
      obtain ⟨hpos, -⟩ := Stack.offset?_of_absolute habsolute
      have hne' : handler ≠ 0 := by omega
      rw [Stack.handlerAt, if_neg hne', Stack.handlerAt, if_neg hne,
        Stack.peek_extend_of_absolute vs habsolute]

/-- The handler that was found before anything was pushed is never refused. -/
theorem callParts_of_prepared
    (prepared : f.prepare m.stack inputs.length outputs.length = .ok (binding, handler))
    (fits : 1 + f.inputs ≤ m.stack.free) (room : f.outputs ≤ m.stack.free) (v : Value) :
    (m.stack.extend (v :: inputs.map Arg.toValue)).callParts f.inputs f.outputs handler =
      .ok ⟨m.stack.slots, v, inputs.map Arg.toValue, m.stack.handlerAt f.handler⟩ := by
  obtain ⟨hinputs, -, -, hhandler⟩ := prepare_ok prepared
  have hcapacity := m.stack.config.capacity_le
  unfold Stack.free at fits room
  have hcount : (inputs.map Arg.toValue).length = f.inputs := by rw [List.length_map, hinputs]
  have hcountable : (m.stack.extend (v :: inputs.map Arg.toValue)).size ≤ maxCount := by
    rw [Stack.size_extend, List.length_cons, hcount]
    omega
  have hroom : m.stack.slots.length + f.outputs ≤ m.stack.config.capacity := by
    change m.stack.size + f.outputs ≤ m.stack.config.capacity
    omega
  rw [Stack.callParts_of_accepts hcountable
    ⟨rfl, hcount, hroom, handlerBelow_extend _ hhandler⟩, handlerAt_of_prepare prepared]

theorem callParts_of_crowded (count : inputs.length = f.inputs)
    (fits : 1 + f.inputs ≤ m.stack.free) (crowded : m.stack.free < f.outputs) (v : Value)
    (handler : Int) :
    (m.stack.extend (v :: inputs.map Arg.toValue)).callParts f.inputs f.outputs handler =
      .error m.stack.overflow := by
  have hcapacity := m.stack.config.capacity_le
  unfold Stack.free at fits crowded
  have hsize : (m.stack.extend (v :: inputs.map Arg.toValue)).size =
      m.stack.size + (f.inputs + 1) := by
    rw [Stack.size_extend, List.length_cons, List.length_map, count]
  have hrequested : min (f.inputs + 1) maxCount = f.inputs + 1 := by omega
  have henough : ¬ m.stack.size + (f.inputs + 1) < f.inputs + 1 := by omega
  simp only [Stack.callParts, hsize, hrequested, if_neg henough, Nat.add_sub_cancel,
    Stack.config_extend, if_pos crowded]
  rfl

theorem invokePushed_of_refused {e : StackError} {m : Machine β σ}
    (other : ∀ failure, e ≠ .script failure)
    (run : invoke site f.inputs f.outputs handler m = .error (.error e) m₁) :
    f.invokePushed site scope name handler m = .error (.error (.stack e)) m₁ := by
  have hattempt : attempt (RecordM.lift (invoke site f.inputs f.outputs handler)) m =
      .ok (.error (.stack e)) m₁ :=
    attempt_error_iff.mpr (mapError_of_error run)
  rw [invokePushed, bind_of_ok hattempt]
  cases e with
  | script failure => exact absurd rfl (other failure)
  | _ => rfl

/-- Without room for the outputs the call is refused, with the inputs on the stack. -/
theorem pushResults_of_refused (found : binding.Finds site m.world (.function id) w)
    (room : binding.slots ≤ m.stack.free) (count : inputs.length = f.inputs)
    (fits : 1 + f.inputs ≤ m.stack.free) (crowded : m.stack.free < f.outputs) :
    f.pushResults site scope binding handler inputs m =
      .error (.error (.stack m.stack.overflow)) (pushedWith m.stack id inputs w) := by
  have hparts := callParts_of_crowded count fits crowded (.function id) handler
  have hrefused : invoke site f.inputs f.outputs handler (pushedWith m.stack id inputs w) =
      .error (.error m.stack.overflow) (pushedWith m.stack id inputs w) :=
    invoke_of_refused hparts
  rw [pushResults_of_inputs found room (count ▸ fits)]
  exact invokePushed_of_refused (Stack.callParts_ne_script hparts) hrefused

/-- The text of a failure is dropped and passed on. -/
theorem invokePushed_of_faulted {text : String} {s : Stack} {m : Machine β σ}
    (hscope : scope.expected = s.size) (left : m₁.stack = s.extend [.text text])
    (run : invoke site f.inputs f.outputs handler m =
      .error (.error (.script ⟨.runtime, text⟩)) m₁) :
    f.invokePushed site scope name handler m =
      .ok (.error (.call name ⟨.runtime, text⟩)) { m₁ with stack := s } := by
  have hattempt : attempt (RecordM.lift (invoke site f.inputs f.outputs handler)) m =
      .ok (.error (.stack (.script ⟨.runtime, text⟩))) m₁ :=
    attempt_error_iff.mpr (mapError_of_error run)
  have hpop : (pop 1 : StackM β σ Unit) m₁ = .ok () { m₁ with stack := s } := by
    refine change_of_ok (f := (·.pop 1)) ?_
    have h := s.pop_extend [] [.text text]
    rwa [List.nil_append, Stack.extend_nil, List.length_singleton, ← left] at h
  have hfinish : (scope.finish : RecordM β σ Unit) { m₁ with stack := s } =
      .ok () { m₁ with stack := s } :=
    BalanceScope.finish_of_balanced scope hscope.symm
  rw [invokePushed, bind_of_ok hattempt]
  refine (bind_of_ok (mapError_of_ok hpop)).trans ((bind_of_ok hfinish).trans ?_)
  rfl

theorem invokePushed_of_stopped {stop : Stop} {m : Machine β σ}
    (run : invoke site f.inputs f.outputs handler m = .error (stopped stop) m₁) :
    f.invokePushed site scope name handler m = .error (stopped stop) m₁ :=
  bind_of_error (attempt_of_stopped (mapError_of_stopped run))

end Invoked

/-! ## The run of the function -/

/-- A call gets as far as the run of a function: it has what it needs, the name gives the function,
and there is room for looking it up, for it with the inputs, and for the outputs. The look-up leaves
a world. -/
structure Reaches (f : ScriptFunction) (site : Script.Site β σ) (inputs : List Arg)
    (outputs : Nat) (m : Machine β σ) (binding : FunctionBinding) (id : ObjectId)
    (w : World β σ) : Prop where
  prepared : ∃ handler, f.prepare m.stack inputs.length outputs = .ok (binding, handler)
  found : binding.Finds site m.world (.function id) w
  lookup : binding.slots ≤ m.stack.free
  fits : 1 + f.inputs ≤ m.stack.free
  room : f.outputs ≤ m.stack.free

/-- The machine on which a call runs its function. -/
def running (f : ScriptFunction) (m : Machine β σ) (w : World β σ) : Machine β σ :=
  (⟨m.stack, w⟩ : Machine β σ).calling m.stack.slots f.inputs f.outputs

/-- The run of a function with inputs. -/
def runWith (site : Script.Site β σ) (id : ObjectId) (inputs : List Arg) :
    RecordM β σ (Except LuaError (List Value)) :=
  RecordM.lift (attemptScript site (callFunction site id (inputs.map Arg.toValue)))

/-- What a call makes of the run of its function. Results are offered to the outputs, and a failure
is reported with the text that the handler makes of it. -/
def settle (f : ScriptFunction) (site : Script.Site β σ) (name : String) (handler : Option Value)
    (outputs : List Arg) :
    Except LuaError (List Value) → RecordM β σ (List Arg × Except RecordError Unit)
  | .ok results => do
    match fillOutputs ((← stack).extend (fitResults f.outputs results)) outputs with
    | (filled, .ok ()) => return (filled, .ok ())
    | (filled, .error e) =>
      log .trace (callLabel ++ ": discarding " ++ toString f.outputs ++ " values")
      return (filled, .error (.stack e))
  | .error e => do
    let text ← RecordM.lift (faultText site handler e.diagnostic)
    log .warn text
    return (outputs, .error (.call name ⟨.runtime, text⟩))

section Reached

variable {id : ObjectId} {w : World β σ}
  (reaches : f.Reaches site inputs outputs.length m binding id w)
include reaches

theorem Reaches.prepare_invoke :
    ∃ handler, f.prepare m.stack inputs.length outputs.length = .ok (binding, handler) ∧
      f.pushResults site ⟨callLabel, 0, m.stack.size⟩ binding handler inputs m =
        f.invokePushed site ⟨callLabel, 0, m.stack.size⟩ binding.name handler
          (pushedWith m.stack id inputs w) ∧
      invoke site f.inputs f.outputs handler (pushedWith m.stack id inputs w) =
        (callOutcome site (.function id) (inputs.map Arg.toValue) >>=
          settleCall site f.outputs (m.stack.handlerAt f.handler)) (f.running m w) := by
  obtain ⟨handler, prepared⟩ := reaches.prepared
  obtain ⟨hinputs, -⟩ := prepare_ok prepared
  have hfits : 1 + inputs.length ≤ m.stack.free := hinputs ▸ reaches.fits
  refine ⟨handler, prepared, pushResults_of_inputs reaches.found reaches.lookup hfits, ?_⟩
  have hparts := callParts_of_prepared prepared reaches.fits reaches.room (.function id)
  exact invoke_of_parts (m := pushedWith m.stack id inputs w) hparts

theorem call_of_results {results : List Value} {m₂ : Machine β σ}
    (run : attemptScript (ε := StackError) site (callFunction site id (inputs.map Arg.toValue))
      (f.running m w) = .ok (.ok results) m₂) :
    f.call site inputs outputs m =
      f.settle site binding.name (m.stack.handlerAt f.handler) outputs (.ok results) m₂ := by
  obtain ⟨handler, prepared, hpush, hinvoke⟩ := reaches.prepare_invoke
  have hstack : m₂.stack = m.stack := by
    rw [attemptScript_ok run]
    rfl
  have hroom : f.outputs ≤ m₂.stack.config.capacity - m₂.stack.size := by
    rw [hstack]
    exact reaches.room
  let returned : Machine β σ :=
    { m₂ with stack := m₂.stack.extend (fitResults f.outputs results) }
  have hreturned : invoke site f.inputs f.outputs handler (pushedWith m.stack id inputs w) =
      .ok () returned := by
    rw [hinvoke, bind_of_ok (callOutcome_ok_iff.mpr ⟨id, rfl, run⟩)]
    exact settleCall_results hroom
  have habove : returned.stack = m.stack.extend (fitResults f.outputs results) := by rw [← hstack]
  rw [call_of_returned prepared habove (length_fitResults f.outputs results)
    (hpush.trans (invokePushed_of_ok _ _ hreturned))]
  simp only [settle, stack_bind, returned]
  rcases fillOutputs (m₂.stack.extend (fitResults f.outputs results)) outputs with
    ⟨filled, e | _⟩
  · rw [← hstack]
    rfl
  · rw [← hstack]
    rfl

theorem call_of_failure {e : LuaError} {m₂ : Machine β σ}
    (run : attemptScript (ε := StackError) site (callFunction site id (inputs.map Arg.toValue))
      (f.running m w) = .ok (.error e) m₂) :
    f.call site inputs outputs m =
      f.settle site binding.name (m.stack.handlerAt f.handler) outputs (.error e) m₂ := by
  obtain ⟨handler, prepared, hpush, hinvoke⟩ := reaches.prepare_invoke
  have hfaults : callOutcome site (.function id) (inputs.map Arg.toValue) (f.running m w) =
      .ok (.error e.diagnostic) m₂ := callOutcome_error_iff.mpr (.raised run)
  rw [bind_of_ok hfaults] at hinvoke
  have hstack : m₂.stack = m.stack := by
    rw [attemptScript_ok run]
    rfl
  cases htext : faultText site (m.stack.handlerAt f.handler) e.diagnostic m₂ with
  | ok text m₃ =>
    have hstack₃ : m₃.stack = m.stack := (faultText_ok_iff.mp htext).stack_eq.trans hstack
    have hfree : m₃.stack.size < m₃.stack.config.capacity := by
      have hfits := reaches.fits
      rw [hstack₃]
      unfold Stack.free at hfits
      omega
    have hfaulted : invoke site f.inputs f.outputs handler (pushedWith m.stack id inputs w) =
        .error (.error (.script ⟨.runtime, text⟩)) (m₃.faulted text) := by
      rw [hinvoke, settleCall, bind_of_ok htext, reportFault_apply text hfree]
    have hleft : (m₃.faulted text).stack = m.stack.extend [.text text] := by
      rw [← hstack₃]
      rfl
    have hscope : (⟨callLabel, 0, m.stack.size⟩ : BalanceScope).expected = m.stack.size :=
      Int.add_zero _
    rw [call_of_given_back prepared
      (hpush.trans (invokePushed_of_faulted hscope hleft hfaulted))]
    refine Eq.symm ((bind_of_ok (mapError_of_ok htext)).trans ?_)
    rw [← hstack₃]
    rfl
  | error failure m₃ =>
    obtain ⟨e', rfl⟩ | ⟨stop, rfl⟩ := error_or_stopped failure
    · exact absurd htext faultText_ne_error
    · have hstopped : invoke site f.inputs f.outputs handler (pushedWith m.stack id inputs w) =
          .error (stopped stop) m₃ := by
        rw [hinvoke, settleCall, bind_of_error htext]
      rw [call_of_stopped prepared (hpush.trans (invokePushed_of_stopped hstopped))]
      exact (bind_of_error (mapError_of_stopped htext)).symm

/-- A call that gets as far as its function is one run of this function with the inputs, on the
stack as it was, and what follows from what the run came to. The handler is the value that was at
its index before the call. -/
theorem call_of_reaches :
    f.call site inputs outputs m =
      (runWith site id inputs >>=
        f.settle site binding.name (m.stack.handlerAt f.handler) outputs) (f.running m w) := by
  cases hrun : attemptScript (ε := StackError) site
      (callFunction site id (inputs.map Arg.toValue)) (f.running m w) with
  | ok r m₂ =>
    have hrunWith : runWith site id inputs (f.running m w) = .ok r m₂ := mapError_of_ok hrun
    rw [bind_of_ok hrunWith]
    cases r with
    | ok results => exact call_of_results reaches hrun
    | error e => exact call_of_failure reaches hrun
  | error failure m₂ =>
    obtain ⟨e, rfl⟩ | ⟨stop, rfl⟩ := error_or_stopped failure
    · exact absurd hrun attemptScript_ne_error
    · obtain ⟨handler, prepared, hpush, hinvoke⟩ := reaches.prepare_invoke
      have houtcome : callOutcome site (.function id) (inputs.map Arg.toValue) (f.running m w) =
          .error (stopped stop) m₂ := by
        rw [callOutcome_function]
        simp only [hrun]
      have hstopped : invoke site f.inputs f.outputs handler (pushedWith m.stack id inputs w) =
          .error (stopped stop) m₂ := by
        rw [hinvoke, bind_of_error houtcome]
      rw [call_of_stopped prepared (hpush.trans (invokePushed_of_stopped hstopped))]
      exact (bind_of_error (mapError_of_stopped hrun)).symm

end Reached

end ScriptFunction

end ScriptBridge
