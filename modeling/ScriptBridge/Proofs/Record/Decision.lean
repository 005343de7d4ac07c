import ScriptBridge.Proofs.Record.Course

/-!
# When a call runs its function

`ScriptFunction.decision` says in which order a call is decided, and `call_decided` that a call runs
its function if the decision says so, and otherwise ends with the error of the decision and runs
nothing. How the function was bound shows in nothing but the room for looking it up and the name in
messages.
-/

namespace ScriptBridge

open HostM StackM

variable {β σ : Type}

namespace ScriptFunction

variable {f : ScriptFunction} {site : Script.Site β σ} {m m₁ : Machine β σ}
  {binding : FunctionBinding} {handler : Int} {inputs outputs : List Arg} {e : RecordError}

/-! ## What decides a call -/

/-- What decides a call that has what it needs, in this order: room for looking the function up,
that there is a function, and room for it with the inputs and for the outputs. -/
def decisionAt (f : ScriptFunction) (s : Stack) (binding : FunctionBinding) (v : Value) :
    Except RecordError ObjectId :=
  if s.free < binding.slots then .error (.stack s.overflow)
  else
    match v with
    | .function id =>
      if s.free < 1 + f.inputs ∨ s.free < f.outputs then .error (.stack s.overflow) else .ok id
    | other => .error (.notCallable binding.name other.kind)

/-- What decides a call when the name gives a value, in this order: the count of the inputs, that of
the outputs, the binding, the handler, and then what is decided about the value. -/
def decision (f : ScriptFunction) (s : Stack) (v : Value) (inputs outputs : Nat) :
    Except RecordError (FunctionBinding × ObjectId) :=
  if f.inputs ≠ inputs then .error (.arity f.label .inputs f.inputs inputs)
  else if f.outputs ≠ outputs then .error (.arity f.label .outputs f.outputs outputs)
  else
    match f.binding with
    | none => .error .unbound
    | some binding =>
      if f.handler ≠ 0 ∧ s.absolute f.handler = none then
        .error (.stack (.invalidIndex f.handler))
      else (f.decisionAt s binding v).map fun id => (binding, id)

theorem decision_of_unprepared {s : Stack} {count counted : Nat} {e : RecordError}
    (unprepared : f.prepare s count counted = .error e) (v : Value) :
    f.decision s v count counted = .error e := by
  unfold prepare at unprepared
  unfold decision
  split at unprepared
  next hinputs =>
    cases unprepared
    rw [if_pos hinputs]
  next hinputs =>
    rw [if_neg hinputs]
    split at unprepared
    next houtputs =>
      cases unprepared
      rw [if_pos houtputs]
    next houtputs =>
      rw [if_neg houtputs]
      cases hbound : f.binding with
      | none =>
        rw [hbound] at unprepared
        cases unprepared
        rfl
      | some binding =>
        simp only [hbound] at unprepared
        split at unprepared
        · cases unprepared
        next hne =>
          split at unprepared <;> cases unprepared
          next habsolute => exact if_pos ⟨hne, habsolute⟩

theorem decision_of_prepared {s : Stack} {count counted : Nat}
    (prepared : f.prepare s count counted = .ok (binding, handler)) (v : Value) :
    f.decision s v count counted = (f.decisionAt s binding v).map fun id => (binding, id) := by
  obtain ⟨hinputs, houtputs, hbound, -⟩ := prepare_ok prepared
  have hhandler : ¬ (f.handler ≠ 0 ∧ s.absolute f.handler = none) := by
    rintro ⟨hne, hnone⟩
    simp only [prepare, hinputs, houtputs, hbound, ne_eq, not_true, if_false, if_neg hne,
      hnone] at prepared
    cases prepared
  simp only [decision, hinputs, houtputs, hbound, ne_eq, not_true, if_false, if_neg hhandler]

section Decided

variable {v : Value} {w : World β σ} {id : ObjectId}

theorem reaches_of_decisionAt
    (prepared : f.prepare m.stack inputs.length outputs.length = .ok (binding, handler))
    (found : binding.Finds site m.world v w)
    (decided : f.decisionAt m.stack binding v = .ok id) :
    f.Reaches site inputs outputs.length m binding id w := by
  unfold decisionAt at decided
  split at decided
  · cases decided
  next hlookup =>
    split at decided
    · split at decided <;> cases decided
      next hfits =>
        rw [not_or] at hfits
        exact ⟨⟨handler, prepared⟩, found, Nat.le_of_not_lt hlookup, Nat.le_of_not_lt hfits.1,
          Nat.le_of_not_lt hfits.2⟩
    · cases decided

/-- A call that is decided against leaves the stack and the outputs, and no function was run: the
world is as it was, or as looking the function up left it. -/
theorem call_of_decisionAt
    (prepared : f.prepare m.stack inputs.length outputs.length = .ok (binding, handler))
    (found : binding.Finds site m.world v w)
    (decided : f.decisionAt m.stack binding v = .error e) :
    ∃ w' journal, (w' = m.world ∨ w' = w) ∧ f.call site inputs outputs m =
      .ok (outputs, .error e) ⟨m.stack, { w' with journal := journal }⟩ := by
  obtain ⟨hinputs, -⟩ := prepare_ok prepared
  have hscope : (⟨callLabel, 0, m.stack.size⟩ : BalanceScope).expected = m.stack.size :=
    Int.add_zero _
  unfold decisionAt at decided
  split at decided
  next hlookup =>
    cases decided
    obtain ⟨vs, w', hw', hpush⟩ := pushBound_of_crowded found hlookup
    obtain ⟨journal, hcall⟩ :=
      call_of_raised_above prepared rfl (bind_of_error (mapError_of_error hpush))
    exact ⟨w', journal, hw', hcall⟩
  next hlookup =>
    have room := Nat.le_of_not_lt hlookup
    split at decided
    next id =>
      split at decided <;> cases decided
      next hcrowded =>
        by_cases hfits : 1 + f.inputs ≤ m.stack.free
        · have hlt := hcrowded.resolve_left (Nat.not_lt_of_le hfits)
          obtain ⟨journal, hcall⟩ := call_of_raised_above prepared rfl
            (pushResults_of_refused found room hinputs.symm hfits hlt)
          exact ⟨w, journal, .inr rfl, hcall⟩
        · rw [hinputs] at hfits
          obtain ⟨journal, hcall⟩ := call_of_raised_above prepared rfl
            (pushResults_of_crowded found room (Nat.lt_of_not_le hfits))
          exact ⟨w, journal, .inr rfl, hcall⟩
    next hother =>
      cases decided
      have hkind : v.kind ≠ .function := fun h => by
        obtain ⟨id, rfl⟩ := eq_function_of_kind h
        exact hother id rfl
      exact ⟨w, w.journal, .inr rfl,
        call_of_given_back prepared (pushResults_of_other found room hkind hscope)⟩

end Decided

/-! ## Handles that are bound otherwise -/

/-- The handle bound to another name. -/
def boundTo (f : ScriptFunction) (binding : FunctionBinding) : ScriptFunction :=
  { f with binding := some binding }

end ScriptFunction

/-- The error of a call under another name of the function. -/
def RecordError.rename (name : String) : RecordError → RecordError
  | .arity _ side declared supplied => .arity name side declared supplied
  | .notCallable _ found => .notCallable name found
  | .call _ source => .call name source
  | e => e

namespace ScriptFunction

/-- What a call came to, under another name of the function. -/
def renamed (name : String) :
    Ending RecordError β σ (List Arg × Except RecordError Unit) →
      Ending RecordError β σ (List Arg × Except RecordError Unit)
  | .ok (outputs, outcome) m => .ok (outputs, outcome.mapError (RecordError.rename name)) m
  | .error failure m => .error failure m

section Rebound

variable {f : ScriptFunction} {site : Script.Site β σ} {m : Machine β σ}
  {b₁ b₂ : FunctionBinding} {handler : Int} {inputs outputs : List Arg} {v : Value}
  {w : World β σ}

theorem prepare_boundTo (binding : FunctionBinding) (s : Stack) (count counted : Nat) :
    (f.boundTo binding).prepare s count counted =
      if f.inputs ≠ count then .error (.arity binding.name .inputs f.inputs count)
      else if f.outputs ≠ counted then .error (.arity binding.name .outputs f.outputs counted)
      else if f.handler = 0 then .ok (binding, 0)
      else
        match s.absolute f.handler with
        | some position => .ok (binding, position)
        | none => .error (.stack (.invalidIndex f.handler)) := rfl

/-- The names make no difference to what a call needs. -/
theorem prepare_boundTo_cases (b₁ b₂ : FunctionBinding) (s : Stack) (count counted : Nat) :
    (∃ e, (f.boundTo b₁).prepare s count counted = .error e ∧
      (f.boundTo b₂).prepare s count counted = .error (e.rename b₂.name)) ∨
    ∃ handler, (f.boundTo b₁).prepare s count counted = .ok (b₁, handler) ∧
      (f.boundTo b₂).prepare s count counted = .ok (b₂, handler) := by
  rw [prepare_boundTo, prepare_boundTo]
  by_cases hinputs : f.inputs ≠ count
  · rw [if_pos hinputs, if_pos hinputs]
    exact .inl ⟨_, rfl, rfl⟩
  rw [if_neg hinputs, if_neg hinputs]
  by_cases houtputs : f.outputs ≠ counted
  · rw [if_pos houtputs, if_pos houtputs]
    exact .inl ⟨_, rfl, rfl⟩
  rw [if_neg houtputs, if_neg houtputs]
  by_cases hzero : f.handler = 0
  · rw [if_pos hzero, if_pos hzero]
    exact .inr ⟨0, rfl, rfl⟩
  rw [if_neg hzero, if_neg hzero]
  cases s.absolute f.handler with
  | none => exact .inl ⟨_, rfl, rfl⟩
  | some position => exact .inr ⟨position, rfl, rfl⟩

/-- An error of the stack names no function. -/
theorem renamed_stackError (name : String) {action : RecordM β σ Unit} {e : StackError} :
    renamed name ((action >>= fun _ => pure (outputs, .error (.stack e))) m) =
      (action >>= fun _ => pure (outputs, .error (.stack e))) m := by
  simp only [bind, EStateM.bind]
  cases action m <;> rfl

theorem settle_boundTo (name : String) (handler : Option Value)
    (r : Except LuaError (List Value)) (m : Machine β σ) :
    (f.boundTo b₂).settle site b₂.name handler outputs r m =
      renamed b₂.name ((f.boundTo b₁).settle site name handler outputs r m) := by
  cases r with
  | ok results =>
    simp only [settle, stack_bind, boundTo]
    rcases fillOutputs (m.stack.extend (fitResults f.outputs results)) outputs with
      ⟨filled, e | _⟩
    · rfl
    · rfl
  | error e =>
    simp only [settle, bind, EStateM.bind]
    cases RecordM.lift (faultText site handler e.diagnostic) m <;> rfl

/-- Two handles that differ in their names only, and whose names give the same value, do the same
where there is room for looking up both. -/
theorem call_boundTo (found₁ : b₁.Finds site m.world v w) (found₂ : b₂.Finds site m.world v w)
    (room₁ : b₁.slots ≤ m.stack.free) (room₂ : b₂.slots ≤ m.stack.free) :
    (f.boundTo b₂).call site inputs outputs m =
      renamed b₂.name ((f.boundTo b₁).call site inputs outputs m) := by
  have hscope : (⟨callLabel, 0, m.stack.size⟩ : BalanceScope).expected = m.stack.size :=
    Int.add_zero _
  rcases f.prepare_boundTo_cases b₁ b₂ m.stack inputs.length outputs.length with
    ⟨e, prepared₁, prepared₂⟩ | ⟨handler, prepared₁, prepared₂⟩
  · rw [call_of_unprepared prepared₁, call_of_unprepared prepared₂]
    rfl
  obtain ⟨hinputs, -⟩ := prepare_ok prepared₁
  change f.inputs = inputs.length at hinputs
  by_cases hkind : v.kind = .function
  · obtain ⟨id, rfl⟩ := eq_function_of_kind hkind
    by_cases hfits : 1 + inputs.length ≤ m.stack.free
    · have fits : 1 + f.inputs ≤ m.stack.free := by rwa [hinputs]
      by_cases hroom : f.outputs ≤ m.stack.free
      · have reaches₁ : (f.boundTo b₁).Reaches site inputs outputs.length m b₁ id w :=
          ⟨⟨handler, prepared₁⟩, found₁, room₁, fits, hroom⟩
        have reaches₂ : (f.boundTo b₂).Reaches site inputs outputs.length m b₂ id w :=
          ⟨⟨handler, prepared₂⟩, found₂, room₂, fits, hroom⟩
        rw [call_of_reaches reaches₁, call_of_reaches reaches₂]
        change (runWith site id inputs >>= _) ((f.boundTo b₁).running m w) = _
        simp only [bind, EStateM.bind]
        cases runWith site id inputs ((f.boundTo b₁).running m w) with
        | ok r m₂ => exact settle_boundTo b₁.name _ r m₂
        | error failure m₂ => rfl
      · -- the call is refused on the same stack, with the inputs on it
        have hcrowded := Nat.lt_of_not_le hroom
        rw [call_of_raised prepared₁
            (pushResults_of_refused found₁ room₁ hinputs.symm fits hcrowded),
          call_of_raised prepared₂
            (pushResults_of_refused found₂ room₂ hinputs.symm fits hcrowded)]
        exact (renamed_stackError b₂.name).symm
    · have hcrowded := Nat.lt_of_not_le hfits
      rw [call_of_raised prepared₁ (pushResults_of_crowded found₁ room₁ hcrowded),
        call_of_raised prepared₂ (pushResults_of_crowded found₂ room₂ hcrowded)]
      exact (renamed_stackError b₂.name).symm
  · rw [call_of_given_back prepared₁ (pushResults_of_other found₁ room₁ hkind hscope),
      call_of_given_back prepared₂ (pushResults_of_other found₂ room₂ hkind hscope)]
    rfl

theorem call_boundTo_same (same : b₁.name = b₂.name) (found₁ : b₁.Finds site m.world v w)
    (found₂ : b₂.Finds site m.world v w) (room₁ : b₁.slots ≤ m.stack.free)
    (room₂ : b₂.slots ≤ m.stack.free) :
    (f.boundTo b₂).call site inputs outputs m = (f.boundTo b₁).call site inputs outputs m := by
  have hself : (f.boundTo b₁).call site inputs outputs m =
      renamed b₁.name ((f.boundTo b₁).call site inputs outputs m) :=
    call_boundTo found₁ found₁ room₁ room₁
  rw [call_boundTo found₁ found₂ room₁ room₂, ← same, ← hself]

end Rebound

/-! ## When the function runs -/

/-- The value that is stored under the name of a handle. -/
def stored (f : ScriptFunction) (h : Heap β) : Value :=
  f.binding.elim .nil fun binding => h.field binding.home binding.name

/-- The name of a handle gives a value, if there is one, and reading it leaves a world. -/
def Finds (f : ScriptFunction) (site : Script.Site β σ) (w : World β σ) (v : Value)
    (w' : World β σ) : Prop :=
  ∀ binding, f.binding = some binding → binding.Finds site w v w'

theorem finds_of_plain {f : ScriptFunction} {site : Script.Site β σ} {w : World β σ}
    (plain : f.LooksUpPlainly site w.heap) : f.Finds site w (f.stored w.heap) w := by
  intro binding bound
  have hstored : f.stored w.heap = w.heap.field binding.home binding.name := by
    rw [stored, bound]
    rfl
  rw [hstored]
  exact FunctionBinding.finds_of_plain (plain binding bound)

end ScriptFunction

theorem Stack.absolute_eq_none_iff {s : Stack} (countable : s.size ≤ maxIndex) (index : Int) :
    s.absolute index = none ↔ s.peek index = none := by
  cases hoffset : s.offset? index with
  | none => simp only [absolute, peek, hoffset, Option.bind_none]
  | some k =>
    have hlt : k < s.slots.length := offset?_lt hoffset
    have hindex : k + 1 ≤ maxIndex := Nat.le_trans hlt countable
    simp only [absolute, peek, hoffset, Option.bind_some, if_pos hindex,
      List.getElem?_eq_getElem hlt, reduceCtorEq]

namespace ScriptFunction

section Decided

variable {f : ScriptFunction} {site : Script.Site β σ} {m : Machine β σ}
  {inputs outputs : List Arg} {v : Value} {w : World β σ}

theorem call_of_decision_error {e : RecordError} (found : f.Finds site m.world v w)
    (decided : f.decision m.stack v inputs.length outputs.length = .error e) :
    ∃ w' journal, (w' = m.world ∨ w' = w) ∧ f.call site inputs outputs m =
      .ok (outputs, .error e) ⟨m.stack, { w' with journal := journal }⟩ := by
  cases hprepared : f.prepare m.stack inputs.length outputs.length with
  | error e' =>
    rw [decision_of_unprepared hprepared] at decided
    cases decided
    exact ⟨m.world, m.world.journal, .inl rfl, call_of_unprepared hprepared⟩
  | ok needs =>
    obtain ⟨binding, handler⟩ := needs
    obtain ⟨-, -, hbound, -⟩ := prepare_ok hprepared
    rw [decision_of_prepared hprepared] at decided
    cases hat : f.decisionAt m.stack binding v with
    | error e' =>
      rw [hat] at decided
      cases decided
      exact call_of_decisionAt hprepared (found binding hbound) hat
    | ok id =>
      rw [hat] at decided
      cases decided

theorem reaches_of_decision {binding : FunctionBinding} {id : ObjectId}
    (found : f.Finds site m.world v w)
    (decided : f.decision m.stack v inputs.length outputs.length = .ok (binding, id)) :
    f.Reaches site inputs outputs.length m binding id w := by
  cases hprepared : f.prepare m.stack inputs.length outputs.length with
  | error e' =>
    rw [decision_of_unprepared hprepared] at decided
    cases decided
  | ok needs =>
    obtain ⟨bound, handler⟩ := needs
    obtain ⟨-, -, hbound, -⟩ := prepare_ok hprepared
    rw [decision_of_prepared hprepared] at decided
    cases hat : f.decisionAt m.stack bound v with
    | error e' =>
      rw [hat] at decided
      cases decided
    | ok id' =>
      rw [hat] at decided
      cases decided
      exact reaches_of_decisionAt hprepared (found _ hbound) hat

/-- The handler of a call that has what it needs addresses a slot. -/
theorem Reaches.handler {binding : FunctionBinding} {id : ObjectId}
    (reaches : f.Reaches site inputs outputs.length m binding id w) (handled : f.handler ≠ 0) :
    ∃ v, m.stack.handlerAt f.handler = some v ∧ m.stack.peek f.handler = some v := by
  obtain ⟨handler, prepared⟩ := reaches.prepared
  have hnone : ¬ m.stack.absolute f.handler = none := by
    intro habsolute
    have hunprepared : f.prepare m.stack inputs.length outputs.length =
        .error (.stack (.invalidIndex f.handler)) := by
      obtain ⟨hinputs, houtputs, hbound, -⟩ := prepare_ok prepared
      have hinputs' : ¬ f.inputs ≠ inputs.length := not_not_intro hinputs
      have houtputs' : ¬ f.outputs ≠ outputs.length := not_not_intro houtputs
      simp only [prepare, if_neg hinputs', if_neg houtputs', hbound, if_neg handled, habsolute]
    rw [hunprepared] at prepared
    cases prepared
  obtain ⟨position, habsolute⟩ := Option.ne_none_iff_exists'.mp hnone
  obtain ⟨-, k, -, hoffset⟩ := Stack.offset?_of_absolute habsolute
  have hlt : k < m.stack.slots.length := Stack.offset?_lt hoffset
  have hpeek : m.stack.peek f.handler = some m.stack.slots[k] := by
    rw [Stack.peek, hoffset, Option.bind_some, List.getElem?_eq_getElem hlt]
  exact ⟨_, by rw [Stack.handlerAt, if_neg handled, hpeek], hpeek⟩

end Decided

end ScriptFunction

open ScriptFunction

/-- The decision about a call decides it. A call that is decided against ends with the error of the
decision and runs nothing: the stack and the outputs are as they were, and the world is as it was or
as looking the function up left it. Any other call is one run of the function with the inputs in
their order, with the handler that was at its index before the call, and what follows from the run.
Without metamethods the value that decides is the one stored under the name. Two handles whose names
give the same value do the same under either name where there are two slots for looking it up. -/
theorem call_decided (f : ScriptFunction) (site : Script.Site β σ) (inputs outputs : List Arg)
    (m : Machine β σ) :
    (f.LooksUpPlainly site m.world.heap → f.Finds site m.world (f.stored m.world.heap) m.world) ∧
    (m.stack.size ≤ maxIndex →
      (m.stack.absolute f.handler = none ↔ m.stack.peek f.handler = none)) ∧
    ∀ v w, f.Finds site m.world v w →
      (∀ e, f.decision m.stack v inputs.length outputs.length = .error e →
        ∃ w' journal, (w' = m.world ∨ w' = w) ∧ f.call site inputs outputs m =
          .ok (outputs, .error e) ⟨m.stack, { w' with journal := journal }⟩) ∧
      (∀ binding id, f.decision m.stack v inputs.length outputs.length = .ok (binding, id) →
        v = .function id ∧
        (f.handler ≠ 0 → ∃ u, m.stack.handlerAt f.handler = some u ∧
          m.stack.peek f.handler = some u) ∧
        f.call site inputs outputs m =
          (runWith site id inputs >>=
            f.settle site binding.name (m.stack.handlerAt f.handler) outputs) (f.running m w)) ∧
      ∀ b₁ b₂ : FunctionBinding, 2 ≤ m.stack.free → b₁.Finds site m.world v w →
        b₂.Finds site m.world v w →
        (f.boundTo b₂).call site inputs outputs m =
          renamed b₂.name ((f.boundTo b₁).call site inputs outputs m) ∧
        (b₁.name = b₂.name →
          (f.boundTo b₂).call site inputs outputs m =
            (f.boundTo b₁).call site inputs outputs m) := by
  refine ⟨fun plain => finds_of_plain plain, fun countable => ?_, fun v w found => ⟨?_, ?_, ?_⟩⟩
  · exact Stack.absolute_eq_none_iff countable f.handler
  · intro e decided
    exact call_of_decision_error found decided
  · intro binding id decided
    have reaches := reaches_of_decision found decided
    have hvalue : v = .function id := by
      obtain ⟨handler, prepared⟩ := reaches.prepared
      obtain ⟨-, -, hbound, -⟩ := prepare_ok prepared
      have hsame := (found binding hbound).symm.trans reaches.found
      exact (EStateM.Result.ok.inj hsame).1
    exact ⟨hvalue, fun handled => reaches.handler handled, call_of_reaches reaches⟩
  · intro b₁ b₂ room found₁ found₂
    have hslots (binding : FunctionBinding) : binding.slots ≤ m.stack.free := by
      refine Nat.le_trans ?_ room
      unfold FunctionBinding.slots
      split <;> decide
    refine ⟨call_boundTo found₁ found₂ (hslots b₁) (hslots b₂), fun same => ?_⟩
    exact call_boundTo_same same found₁ found₂ (hslots b₁) (hslots b₂)

/-- A function of a table, whose global name is bound to nothing, with one input: one free slot is
not enough to look it up. With two, the callback behind it runs once, on a frame of the input and
nothing else, as its memory of its frames tells. -/
theorem call_decided_by_room :
    let run : BodyRunner Unit (List (List Value)) := fun _ _ => do
      let frame ← stack
      modifyMemory (· ++ [frame.slots])
      return frame.size
    let site : Script.Site Unit (List (List Value)) := hostSite run
    let config (capacity : Nat) := Config.standard.withCapacity capacity
    let heap : Heap Unit := { (Heap.initial : Heap Unit) with
      tables := #[.empty, Table.empty.set (.text "echo") (.function 0)]
      functions := #[.host ⟨"echo", 1, ()⟩ (config 2)] }
    let binding : FunctionBinding := ⟨"echo", some ("t", 1)⟩
    let f : ScriptFunction := .ofCounts 1 1 (some binding)
    let m (capacity : Nat) : Machine Unit (List (List Value)) :=
      ⟨.ofConfig (config capacity), ⟨heap, [], []⟩⟩
    heap.field Heap.globals "echo" = .nil ∧
    (∃ w' journal, (w' = (m 1).world ∨ w' = (m 1).world) ∧
      f.call site [.integer 5] [.integer 0] (m 1) =
        .ok ([.integer 0], .error (.stack (.overflow 1)))
          ⟨(m 1).stack, { w' with journal := journal }⟩) ∧
    ∃ m', f.call site [.integer 5] [.integer 0] (m 2) = .ok ([.integer 5], .ok ()) m' ∧
      m'.stack = (m 2).stack ∧ m'.world.memory = [[.integer 5]] := by
  intro run site config heap binding f m
  have plain (capacity : Nat) : f.LooksUpPlainly site (m capacity).world.heap := by
    intro b bound
    cases bound
    exact .inl rfl
  obtain ⟨hcrowded, -, hrefused⟩ := call_decided f site [.integer 5] [.integer 0] (m 1)
  obtain ⟨hroomy, -, hruns⟩ := call_decided f site [.integer 5] [.integer 0] (m 2)
  have hstored : f.stored (m 2).world.heap = .function 0 := by decide
  have hfound := hroomy (plain 2)
  rw [hstored] at hfound
  obtain ⟨-, -, hcall⟩ := (hruns _ _ hfound).2.1 binding 0 rfl
  refine ⟨rfl, (hrefused _ _ (hcrowded (plain 1))).1 _ rfl, ?_⟩
  rw [hcall]
  exact ⟨_, rfl, rfl, rfl⟩

end ScriptBridge
