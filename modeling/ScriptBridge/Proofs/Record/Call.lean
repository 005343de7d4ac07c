import ScriptBridge.Proofs.Stack.Calling
import ScriptBridge.Proofs.Stack.Reads
import ScriptBridge.Record.Call

/-!
# Calls of script functions leave the stack

Whatever a call of a script function comes to, the stack ends as it was: `call_leaves_stack`. On the
way the function, its inputs and its results lie above the stack, and every exit knows what is there
when it discards it.
-/

namespace ScriptBridge

open HostM StackM

variable {β σ : Type}

/-- The table in which a function is looked up. -/
def FunctionBinding.home (binding : FunctionBinding) : ObjectId :=
  binding.table.elim Heap.globals Prod.snd

namespace ScriptFunction

variable {site : Script.Site β σ} {m : Machine β σ}

/-- Looking the function up runs no metamethod. -/
def LooksUpPlainly (f : ScriptFunction) (site : Script.Site β σ) (h : Heap β) : Prop :=
  ∀ binding, f.binding = some binding → site.ReadsPlainly h binding.home binding.name

/-- The functions of the heap that a call runs: the one that is looked up, and the handler. -/
inductive Runs (f : ScriptFunction) (m : Machine β σ) : ObjectId → Prop
  | callee {binding : FunctionBinding} {id : ObjectId} (bound : f.binding = some binding)
    (found : m.world.heap.field binding.home binding.name = .function id) : Runs f m id
  | handler {id : ObjectId} (found : m.stack.peek f.handler = some (.function id)) : Runs f m id

/-! ## What a call needs -/

theorem prepare_ok {f : ScriptFunction} {s : Stack} {inputs outputs : Nat}
    {binding : FunctionBinding} {handler : Int}
    (h : f.prepare s inputs outputs = .ok (binding, handler)) :
    f.inputs = inputs ∧ f.outputs = outputs ∧ f.binding = some binding ∧
      (handler = 0 ∨ s.absolute f.handler = some handler) := by
  simp only [prepare] at h
  split at h
  · cases h
  split at h
  · cases h
  next hinputs houtputs =>
    refine ⟨Decidable.not_not.mp hinputs, Decidable.not_not.mp houtputs, ?_⟩
    split at h
    · cases h
    next bound =>
      split at h
      · cases h
        exact ⟨bound, .inl rfl⟩
      · split at h <;> cases h
        next habsolute => exact ⟨bound, .inr habsolute⟩

/-- The handler of a call is the value that was at its index before anything was pushed. -/
theorem peek_of_handlerAt_extend {s : Stack} {index handler : Int} {vs : List Value} {v : Value}
    (hhandler : handler = 0 ∨ s.absolute index = some handler)
    (h : (s.extend vs).handlerAt handler = some v) : s.peek index = some v := by
  obtain rfl | habsolute := hhandler
  · cases h
  · obtain ⟨hpos, -⟩ := Stack.offset?_of_absolute habsolute
    have hne : handler ≠ 0 := by omega
    rwa [Stack.handlerAt, if_neg hne, Stack.peek_extend_of_absolute vs habsolute] at h

theorem fillOutputs_withBalance (s : Stack) (policy : BalancePolicy) (outputs : List Arg) :
    fillOutputs (s.withBalance policy) outputs = fillOutputs s outputs := by
  induction outputs with
  | nil => rfl
  | cons a rest ih =>
    simp only [fillOutputs, ih]
    rfl

/-! ## The parts of a call -/

/-- The value that a binding names is pushed, or not and then at most the table is left. -/
theorem ends_pushBound (site : Script.Site β σ) (binding : FunctionBinding) (m : Machine β σ) :
    (pushBound site binding).Ends m
      (fun _ m' => ∃ v, Pushed site binding.home binding.name m m.stack v m')
      (fun _ m' => ∃ vs, m'.stack = m.stack.extend vs)
      (fun _ => ¬ site.ReadsPlainly m.world.heap binding.home binding.name) := by
  obtain ⟨name, table⟩ := binding
  cases table with
  | none =>
    refine (ends_pushGlobal site name m).mono (fun _ _ h => h) (fun e m' h => ⟨[], ?_⟩)
      (fun _ h => h)
    rw [h.stack, Stack.extend_nil]
  | some entry =>
    obtain ⟨tableName, id⟩ := entry
    refine ends_bind (ends_push (fun hroom => ?_) (fun _ => ⟨[], by rw [Stack.extend_nil]⟩))
    refine ends_bind (ends_bind (ends_view_table (m.stack.table_top_extend id) ?_))
    refine (ends_readField_push rfl).mono ?_ (fun e m' h => ⟨[.table id], h.stack⟩) (fun _ h => h)
    rintro _ m' ⟨v, h⟩
    refine ends_discard (ends_remove_second (h.stack.trans (m.stack.extend_extend _ _)) ?_)
    exact ⟨v, hroom, rfl, h.plain⟩

/-- What a call leaves above a stack: the results if it returned, nothing if it failed and finished
its scope. -/
def Left (f : ScriptFunction) (s : Stack) : Except RecordError Unit → Stack → Prop
  | .ok (), s' => ∃ results, results.length = f.outputs ∧ s' = s.extend results
  | .error _, s' => s' = s

section Scoped

variable {f : ScriptFunction} {scope : BalanceScope} {s : Stack} {e : RecordError}
  {stops : Stop → Prop}

/-- A failure that is given back: its text or the function was dropped, so the scope is
balanced. -/
theorem ends_finish_error (hscope : scope.expected = s.size) (hstack : m.stack = s) :
    (scope.finish >>= fun _ => pure (.error e) : RecordM β σ (Except RecordError Unit)).Ends m
      (fun r m' => f.Left s r m'.stack) (fun _ m' => ∃ vs, m'.stack = s.extend vs) stops :=
  ends_bind (BalanceScope.ends_finish (by rw [hstack, hscope]) (ends_pure hstack))

/-- The call of a function that was pushed with its inputs. -/
theorem ends_invokePushed {callee : Value} {args : List Value} {name : String} {handler : Int}
    (hstack : m.stack = s.extend (callee :: args)) (hcount : args.length = f.inputs)
    (hfits : m.stack.size ≤ m.stack.config.capacity) (hscope : scope.expected = s.size) :
    (f.invokePushed site scope name handler).Ends m (fun r m' => f.Left s r m'.stack)
      (fun _ m' => ∃ vs, m'.stack = s.extend vs)
      (fun stop => ∃ id, (callee = .function id ∨
        m.stack.handlerAt handler = some (.function id)) ∧ CallStops site id stop) := by
  have hinvoke := ends_invoke site f.outputs handler hstack hfits
  rw [hcount] at hinvoke
  refine ends_bind (ends_attempt (ends_mapError (hinvoke.mono ?_ ?_ (fun _ h => h))))
  · rintro _ m' h
    exact ends_pure h
  · intro e m' h
    generalize hs : m'.stack = left at h
    cases h with
    | refused other =>
      -- only the failure of a script drops a text, and a refusal is none
      cases e with
      | script failure => exact absurd rfl (other failure)
      | _ => exact ends_fail ⟨_, hs⟩
    | faulted text =>
      exact ends_bind (ends_mapError (ends_pop [.text text] hs (ends_finish_error hscope rfl)))

theorem ends_pushResults {binding : FunctionBinding} {handler : Int} {inputs : List Arg}
    (hscope : scope.expected = m.stack.size) (hbound : f.binding = some binding)
    (hinputs : f.inputs = inputs.length)
    (hhandler : handler = 0 ∨ m.stack.absolute f.handler = some handler) :
    (f.pushResults site scope binding handler inputs).Ends m
      (fun r m' => f.Left m.stack r m'.stack) (fun _ m' => ∃ vs, m'.stack = m.stack.extend vs)
      (fun stop => f.LooksUpPlainly site m.world.heap →
        ∃ id, f.Runs m id ∧ CallStops site id stop) := by
  refine ends_bind (ends_mapError ((ends_pushBound site binding m).mono ?_ (fun _ _ h => h)
    (fun _ hnot hplain => absurd (hplain binding hbound) hnot)))
  rintro _ m₁ ⟨v, hpushed⟩
  have hkind : m₁.stack.kind top = v.kind := by rw [hpushed.stack, Stack.kind_top_extend]
  refine ends_stack (fun _ => rfl) ?_
  simp only [hkind]
  by_cases hfunction : v.kind = .function
  · rw [if_neg (fun h => h hfunction)]
    refine ends_bind (ends_mapError (ends_pushAll (fun hroom => ?_) (fun us _ => ?_)))
    · have hstack : m₁.stack.extend (inputs.map Arg.toValue) =
          m.stack.extend (v :: inputs.map Arg.toValue) := by
        rw [hpushed.stack, Stack.extend_extend]
        rfl
      have hcount : (inputs.map Arg.toValue).length = f.inputs := by
        rw [List.length_map, hinputs]
      -- without inputs there is still room for the function, since it was pushed
      have hfits : (m₁.stack.extend (inputs.map Arg.toValue)).size ≤ m₁.stack.config.capacity := by
        have hfree := hpushed.room
        rw [hpushed.stack] at hroom ⊢
        simp only [Stack.size_extend, Stack.config_extend, List.length_singleton] at hroom ⊢
        omega
      refine (ends_invokePushed hstack hcount hfits hscope).mono (fun _ _ h => h)
        (fun _ _ h => h) ?_
      rintro stop ⟨id, hid, hstop⟩ hplain
      refine ⟨id, ?_, hstop⟩
      obtain hcallee | hhandled := hid
      · have hvalue := (hpushed.plain (hplain binding hbound)).1
        exact .callee hbound (hvalue.symm.trans hcallee)
      · change (m₁.stack.extend _).handlerAt handler = _ at hhandled
        rw [hstack] at hhandled
        exact .handler (peek_of_handlerAt_extend hhandler hhandled)
    · exact ⟨v :: us, by rw [hpushed.stack, Stack.extend_extend]; rfl⟩
  · rw [if_pos hfunction]
    exact ends_bind (ends_mapError (ends_pop [v] hpushed.stack (ends_finish_error hscope rfl)))

end Scoped

/-- A call that has what it needs. -/
theorem ends_call_of_prepared {f : ScriptFunction} {inputs outputs : List Arg}
    {binding : FunctionBinding} {handler : Int}
    (hprepare : f.prepare m.stack inputs.length outputs.length = .ok (binding, handler)) :
    (f.call site inputs outputs).Ends m (fun _ m' => m'.stack = m.stack) (fun _ _ => False)
      (fun stop => f.LooksUpPlainly site m.world.heap →
        ∃ id, f.Runs m id ∧ CallStops site id stop) := by
  obtain ⟨hinputs, -, hbound, hhandler⟩ := prepare_ok hprepare
  refine ends_stack (fun _ => rfl) ?_
  simp only [hprepare]
  refine ends_bind (BalanceScope.ends_enter (ends_bind (ends_attempt ?_)))
  have hscope : (⟨callLabel, 0, m.stack.size⟩ : BalanceScope).expected = m.stack.size :=
    Int.add_zero _
  refine (ends_pushResults hscope hbound hinputs hhandler).mono ?_ ?_ (fun _ h => h)
  · intro r m₁ hleft
    cases r with
    | error e => exact ends_pure hleft
    | ok =>
      obtain ⟨results, hcount, hstack⟩ := hleft
      refine ends_stack (fun policy => by simp only [fillOutputs_withBalance]) ?_
      cases hfilled : fillOutputs m₁.stack outputs with
      | mk filled outcome =>
        cases outcome with
        | error e =>
          exact ends_bind (BalanceScope.ends_abandon results hstack rfl fun _ => ends_pure rfl)
        | ok =>
          rw [← hcount]
          refine ends_bind (ends_mapError (ends_pop results hstack ?_))
          exact ends_bind (BalanceScope.ends_finish hscope.symm (ends_pure rfl))
  · rintro e m₁ ⟨vs, hstack⟩
    exact ends_bind (BalanceScope.ends_abandon vs hstack rfl fun _ => ends_pure rfl)

/-- Whatever a call of a script function comes to, it returns or reports its error with the stack as
it was, slot by slot, and it does the same under every balance policy: no scope of the call ends at
an unexpected size. Unless the look-up runs a metamethod, only the function or the handler can stop
it. -/
theorem call_leaves_stack (f : ScriptFunction) (site : Script.Site β σ) (inputs outputs : List Arg)
    (m : Machine β σ) :
    (f.call site inputs outputs).Ends m (fun _ m' => m'.stack = m.stack) (fun _ _ => False)
      (fun stop => f.LooksUpPlainly site m.world.heap →
        ∃ id, f.Runs m id ∧ CallStops site id stop) := by
  cases hprepare : f.prepare m.stack inputs.length outputs.length with
  | error e =>
    refine ends_stack (fun _ => rfl) ?_
    simp only [hprepare]
    exact ends_pure rfl
  | ok needs => exact ends_call_of_prepared hprepare

end ScriptFunction

end ScriptBridge
