import ScriptBridge.Proofs.Stack.Actions
import ScriptBridge.Stack.Invoke

/-!
# The protocol of calls

A call is refused before anything happens, or it is made, and then the function and its arguments
are replaced: by exactly as many results as were asked for, or by the text of the failure.
`Stack.Refused` says why a call is refused and `Stack.Accepts` when it is made; `CalleeFaults` and
`FaultText` say what a failure is called. `invoke_protocol` is the whole protocol of a stack that
holds no more than its capacity.
-/

namespace ScriptBridge

open HostM StackM

variable {β σ : Type}

/-! ## Which calls are made -/

namespace Stack

/-- The stack holds no more slots than its capacity, and fewer than the greatest count: there is no
memory for that many. -/
structure InBounds (s : Stack) : Prop where
  size_le : s.size ≤ s.config.capacity
  size_lt : s.size < maxCount

/-- The handler of a call: none, or a slot below the function, of which there are `base`. -/
def HandlerBelow (s : Stack) (base : Nat) (handler : Int) : Prop :=
  handler = 0 ∨ ∃ k < base, s.offset? handler = some k

/-- The value of a handler. -/
def handlerAt (s : Stack) (handler : Int) : Option Value :=
  if handler = 0 then none else s.peek handler

/-- Why a call is refused: too few values, then too little room for the results, then a handler
that is not below the function. -/
inductive Refused (s : Stack) (inputs outputs : Nat) (handler : Int) : StackError → Prop
  | underflow (few : s.size ≤ inputs) :
    Refused s inputs outputs handler (.underflow (min (inputs + 1) maxCount) s.size)
  | overflow (enough : inputs < s.size)
    (crowded : s.config.capacity < s.size - inputs - 1 + outputs) :
    Refused s inputs outputs handler (.overflow s.config.capacity)
  | invalidIndex (enough : inputs < s.size)
    (room : s.size - inputs - 1 + outputs ≤ s.config.capacity)
    (beyond : ¬ s.HandlerBelow (s.size - inputs - 1) handler) :
    Refused s inputs outputs handler (.invalidIndex handler)

/-- A call that is made, with the slots that stay, the function and its arguments. -/
structure Accepts (s : Stack) (inputs outputs : Nat) (handler : Int) (below : List Value)
    (callee : Value) (args : List Value) : Prop where
  slots : s.slots = below ++ callee :: args
  count : args.length = inputs
  room : below.length + outputs ≤ s.config.capacity
  handlerBelow : s.HandlerBelow below.length handler

theorem Accepts.size_eq {s : Stack} {inputs outputs : Nat} {handler : Int} {below : List Value}
    {callee : Value} {args : List Value} (h : s.Accepts inputs outputs handler below callee args) :
    s.size = below.length + inputs + 1 := by
  simp [size, h.slots, h.count]
  omega

theorem not_accepts_of_refused {s : Stack} {inputs outputs : Nat} {handler : Int} {e : StackError}
    {below args : List Value} {callee : Value} (refused : s.Refused inputs outputs handler e) :
    ¬ s.Accepts inputs outputs handler below callee args := by
  intro accepts
  have hsize := accepts.size_eq
  have hbase : s.size - inputs - 1 = below.length := by omega
  have hroom := accepts.room
  cases refused with
  | underflow few => omega
  | overflow enough crowded => omega
  | invalidIndex enough room beyond =>
    rw [hbase] at beyond
    exact beyond accepts.handlerBelow

theorem refused_or_accepts (s : Stack) (inputs outputs : Nat) (handler : Int) :
    (∃ e, s.Refused inputs outputs handler e) ∨
      ∃ below callee args, s.Accepts inputs outputs handler below callee args := by
  by_cases few : s.size ≤ inputs
  · exact .inl ⟨_, .underflow few⟩
  by_cases crowded : s.config.capacity < s.size - inputs - 1 + outputs
  · exact .inl ⟨_, .overflow (by omega) crowded⟩
  by_cases beyond : s.HandlerBelow (s.size - inputs - 1) handler
  · -- the slots fall apart at the size that stays
    obtain ⟨base, hbase⟩ : ∃ base, s.size - inputs - 1 = base := ⟨_, rfl⟩
    rw [hbase] at crowded beyond
    have hlt : base < s.slots.length := by
      simp only [size] at *
      omega
    have hlength : (s.slots.take base).length = base := by
      rw [List.length_take]
      omega
    refine .inr ⟨s.slots.take base, s.slots[base], s.slots.drop (base + 1), ?_, ?_, ?_, ?_⟩
    · rw [← List.drop_eq_getElem_cons hlt, List.take_append_drop]
    · rw [List.length_drop]
      simp only [size] at *
      omega
    · omega
    · rwa [hlength]
  · exact .inl ⟨_, .invalidIndex (by omega) (by omega) beyond⟩

/-- A call is either refused or made. -/
theorem refused_iff_not_accepts (s : Stack) (inputs outputs : Nat) (handler : Int) :
    (∃ e, s.Refused inputs outputs handler e) ↔
      ¬ ∃ below callee args, s.Accepts inputs outputs handler below callee args := by
  constructor
  · rintro ⟨e, refused⟩ ⟨below, callee, args, accepts⟩
    exact not_accepts_of_refused refused accepts
  · exact (s.refused_or_accepts inputs outputs handler).resolve_right

theorem callParts_of_refused {s : Stack} (bounds : s.InBounds) {inputs outputs : Nat}
    {handler : Int} {e : StackError} (refused : s.Refused inputs outputs handler e) :
    s.callParts inputs outputs handler = .error e := by
  have hle := bounds.size_le
  have hlt := bounds.size_lt
  cases refused with
  | underflow few =>
    have hfew : s.size < min (inputs + 1) maxCount := by omega
    simp [callParts, hfew]
  | overflow enough crowded =>
    have hmin : min (inputs + 1) maxCount = inputs + 1 := by omega
    have henough : ¬ s.size < inputs + 1 := by omega
    have hcrowded : s.config.capacity - (s.size - (inputs + 1)) < outputs := by omega
    simp [callParts, hmin, henough, hcrowded, Stack.overflow]
  | invalidIndex enough room beyond =>
    have hmin : min (inputs + 1) maxCount = inputs + 1 := by omega
    have henough : ¬ s.size < inputs + 1 := by omega
    have hroom : ¬ s.config.capacity - (s.size - (inputs + 1)) < outputs := by omega
    simp only [HandlerBelow, not_or, not_exists, not_and, Nat.sub_sub] at beyond
    obtain ⟨hzero, hbeyond⟩ := beyond
    simp only [callParts, hmin, henough, hroom, hzero, if_false]
    split
    next offset hoffset =>
      have hbelow : ¬ offset < s.size - (inputs + 1) := fun h => hbeyond offset h hoffset
      rw [if_neg hbelow]
    next => rfl

theorem callParts_of_accepts {s : Stack} (countable : s.size ≤ maxCount) {inputs outputs : Nat}
    {handler : Int} {below args : List Value} {callee : Value}
    (accepts : s.Accepts inputs outputs handler below callee args) :
    s.callParts inputs outputs handler = .ok ⟨below, callee, args, s.handlerAt handler⟩ := by
  have hsize := accepts.size_eq
  have hroom := accepts.room
  have hmin : min (inputs + 1) maxCount = inputs + 1 := by omega
  have henough : ¬ s.size < inputs + 1 := by omega
  have hbase : s.size - (inputs + 1) = below.length := by omega
  have hcrowded : ¬ s.config.capacity - below.length < outputs := by omega
  simp only [callParts, hmin, henough, hbase, hcrowded, if_false, accepts.slots, List.drop_left,
    List.take_left, List.headD_cons, List.drop_succ_cons, List.drop_zero, handlerAt, peek]
  rcases accepts.handlerBelow with hzero | ⟨k, hk, hoffset⟩
  · simp [hzero]
  · by_cases hzero : handler = 0
    · simp [hzero]
    · simp [hzero, hoffset, hk]

/-- The parts of a call make up the slots, and its handler is the one at the index. -/
theorem callParts_ok {s : Stack} {inputs outputs : Nat} {handler : Int} {parts : CallParts}
    (h : s.callParts inputs outputs handler = .ok parts) :
    s.slots = parts.below ++ parts.callee :: parts.args ∧
      parts.below.length + min (inputs + 1) maxCount = s.size ∧
      outputs ≤ s.config.capacity - parts.below.length ∧
      parts.handler = s.handlerAt handler := by
  simp only [callParts] at h
  split at h
  · cases h
  split at h
  · cases h
  next henough hcrowded =>
    have hpos : 0 < min (inputs + 1) maxCount := Nat.lt_min.mpr ⟨by omega, by decide⟩
    generalize min (inputs + 1) maxCount = requested at *
    generalize hbase : s.size - requested = base at *
    have hlt : base < s.slots.length := by
      simp only [size] at *
      omega
    have hlength : (s.slots.take base).length = base := by
      simp only [List.length_take]
      omega
    have hdrop : s.slots.drop base =
        (s.slots.drop base).headD .nil :: (s.slots.drop base).drop 1 := by
      rw [List.drop_eq_getElem_cons hlt]
      rfl
    have hparts : parts = ⟨s.slots.take base, (s.slots.drop base).headD .nil,
        (s.slots.drop base).drop 1, s.handlerAt handler⟩ := by
      split at h
      next hzero =>
        cases h
        simp only [handlerAt, if_pos hzero]
      next hzero =>
        split at h
        next offset hoffset =>
          split at h <;> cases h
          simp only [handlerAt, if_neg hzero, peek, hoffset, Option.bind_some]
        next => cases h
    rw [hparts]
    refine ⟨?_, ?_, ?_, rfl⟩
    · rw [← hdrop, List.take_append_drop]
    · rw [hlength]
      omega
    · rw [hlength]
      omega

/-- What refuses a call is not the failure of a script. -/
theorem callParts_ne_script {s : Stack} {inputs outputs : Nat} {handler : Int}
    {e : StackError} (h : s.callParts inputs outputs handler = .error e) (failure : ScriptError) :
    e ≠ .script failure := by
  rintro rfl
  simp only [callParts] at h
  split at h
  · cases h
  split at h
  · cases h
  split at h
  · cases h
  split at h
  · split at h <;> cases h
  · cases h

end Stack

/-! ## What the function and the handler of a call come to -/

/-- The function of a call has no results: it raised an error, or it is no function at all. The
text is that of the failure, before a handler sees it. -/
inductive CalleeFaults (site : Script.Site β σ) (args : List Value) (m : Machine β σ) :
    Value → String → Machine β σ → Prop
  | raised {id : ObjectId} {e : LuaError} {m' : Machine β σ}
    (run : attemptScript (ε := StackError) site (callFunction site id args) m =
      .ok (.error e) m') :
    CalleeFaults site args m (.function id) e.diagnostic m'
  | noFunction {v : Value} (other : v.kind ≠ .function) :
    CalleeFaults site args m v (callNonFunction ++ " " ++ v.kind.typeName ++ " value") m

/-- The text that is reported of a failure: as it is without a handler, else the text of the
handler's answer, the diagnostic of the handler's own failure, or that the handler is no
function. -/
inductive FaultText (site : Script.Site β σ) (fault : String) (m : Machine β σ) :
    Option Value → String → Machine β σ → Prop
  | unhandled : FaultText site fault m none fault m
  | noFunction {v : Value} (other : v.kind ≠ .function) :
    FaultText site fault m (some v) errorInHandler m
  | answered {id : ObjectId} {results : List Value} {m' : Machine β σ}
    (run : attemptScript (ε := StackError) site (callFunction site id [.text fault]) m =
      .ok (.ok results) m') :
    FaultText site fault m (some (.function id)) (answerText (results.headD .nil)) m'
  | raised {id : ObjectId} {e : LuaError} {m' : Machine β σ}
    (run : attemptScript (ε := StackError) site (callFunction site id [.text fault]) m =
      .ok (.error e) m') :
    FaultText site fault m (some (.function id)) e.diagnostic m'

theorem eq_function_of_kind {v : Value} (h : v.kind = .function) : ∃ id, v = .function id := by
  cases v <;> simp [Value.kind] at h
  exact ⟨_, rfl⟩

theorem callOutcome_of_kind_ne {site : Script.Site β σ} {v : Value} (args : List Value)
    (m : Machine β σ) (h : v.kind ≠ .function) :
    callOutcome site v args m =
      .ok (.error (callNonFunction ++ " " ++ v.kind.typeName ++ " value")) m := by
  cases v <;> first | rfl | exact absurd rfl h

theorem callOutcome_function (site : Script.Site β σ) (id : ObjectId) (args : List Value)
    (m : Machine β σ) :
    callOutcome site (.function id) args m =
      match attemptScript (ε := StackError) site (callFunction site id args) m with
      | .ok (.ok results) m' => .ok (.ok results) m'
      | .ok (.error e) m' => .ok (.error e.diagnostic) m'
      | .error failure m' => .error failure m' := by
  simp only [callOutcome, bind, EStateM.bind]
  cases attemptScript (ε := StackError) site (callFunction site id args) m with
  | ok r m' => cases r <;> rfl
  | error failure m' => rfl

theorem callOutcome_ok_iff {site : Script.Site β σ} {callee : Value} {args results : List Value}
    {m m' : Machine β σ} :
    callOutcome site callee args m = .ok (.ok results) m' ↔
      ∃ id, callee = .function id ∧
        attemptScript (ε := StackError) site (callFunction site id args) m =
          .ok (.ok results) m' := by
  by_cases hkind : callee.kind = .function
  · obtain ⟨id, rfl⟩ := eq_function_of_kind hkind
    rw [callOutcome_function]
    simp only [Value.function.injEq, exists_eq_left']
    cases attemptScript (ε := StackError) site (callFunction site id args) m with
    | ok r m' => cases r <;> simp
    | error failure m' => simp
  · rw [callOutcome_of_kind_ne args m hkind]
    constructor
    · intro h; cases h
    · rintro ⟨id, rfl, -⟩
      exact absurd rfl hkind

theorem callOutcome_error_iff {site : Script.Site β σ} {callee : Value} {args : List Value}
    {fault : String} {m m' : Machine β σ} :
    callOutcome site callee args m = .ok (.error fault) m' ↔
      CalleeFaults site args m callee fault m' := by
  by_cases hkind : callee.kind = .function
  · obtain ⟨id, rfl⟩ := eq_function_of_kind hkind
    rw [callOutcome_function]
    constructor
    · intro h
      split at h <;> cases h
      next e run => exact .raised run
    · intro h
      cases h with
      | raised run => simp only [run]
      | noFunction other => exact absurd hkind other
  · rw [callOutcome_of_kind_ne args m hkind]
    constructor
    · intro h; cases h
      exact .noFunction hkind
    · intro h
      cases h with
      | raised run => exact absurd rfl hkind
      | noFunction other => rfl

theorem handleFault_of_kind_ne {site : Script.Site β σ} {v : Value} (fault : String)
    (m : Machine β σ) (h : v.kind ≠ .function) :
    handleFault site v fault m = .ok errorInHandler m := by
  cases v <;> first | rfl | exact absurd rfl h

theorem handleFault_function (site : Script.Site β σ) (id : ObjectId) (fault : String)
    (m : Machine β σ) :
    handleFault site (.function id) fault m =
      match attemptScript (ε := StackError) site (callFunction site id [.text fault]) m with
      | .ok (.ok results) m' => .ok (answerText (results.headD .nil)) m'
      | .ok (.error e) m' => .ok e.diagnostic m'
      | .error failure m' => .error failure m' := by
  simp only [handleFault, bind, EStateM.bind]
  cases attemptScript (ε := StackError) site (callFunction site id [.text fault]) m with
  | ok r m' => cases r <;> rfl
  | error failure m' => rfl

theorem faultText_ok_iff {site : Script.Site β σ} {handler : Option Value} {fault text : String}
    {m m' : Machine β σ} :
    faultText site handler fault m = .ok text m' ↔ FaultText site fault m handler text m' := by
  cases handler with
  | none =>
    constructor
    · intro h; cases h; exact .unhandled
    · intro h; cases h; rfl
  | some v =>
    by_cases hkind : v.kind = .function
    · obtain ⟨id, rfl⟩ := eq_function_of_kind hkind
      simp only [faultText, handleFault_function]
      constructor
      · intro h
        split at h <;> cases h
        next results run => exact .answered run
        next e run => exact .raised run
      · intro h
        cases h with
        | noFunction other => exact absurd hkind other
        | answered run => simp only [run]
        | raised run => simp only [run]
    · simp only [faultText, handleFault_of_kind_ne fault m hkind]
      constructor
      · intro h; cases h; exact .noFunction hkind
      · intro h
        cases h with
        | noFunction other => rfl
        | answered run => exact absurd rfl hkind
        | raised run => exact absurd rfl hkind

theorem CalleeFaults.stack_eq {site : Script.Site β σ} {args : List Value} {m m' : Machine β σ}
    {callee : Value} {fault : String} (h : CalleeFaults site args m callee fault m') :
    m'.stack = m.stack := by
  cases h with
  | raised run => rw [attemptScript_ok run]
  | noFunction other => rfl

theorem FaultText.stack_eq {site : Script.Site β σ} {fault text : String} {m m' : Machine β σ}
    {handler : Option Value} (h : FaultText site fault m handler text m') :
    m'.stack = m.stack := by
  cases h with
  | unhandled => rfl
  | noFunction other => rfl
  | answered run => rw [attemptScript_ok run]
  | raised run => rw [attemptScript_ok run]

theorem callOutcome_ne_error {site : Script.Site β σ} {callee : Value} {args : List Value}
    {m m' : Machine β σ} {e : StackError} :
    callOutcome site callee args m ≠ .error (.error e) m' := by
  by_cases hkind : callee.kind = .function
  · obtain ⟨id, rfl⟩ := eq_function_of_kind hkind
    rw [callOutcome_function]
    intro h
    split at h <;> cases h
    next run => exact attemptScript_ne_error run
  · rw [callOutcome_of_kind_ne args m hkind]
    intro h; cases h

theorem faultText_ne_error {site : Script.Site β σ} {handler : Option Value} {fault : String}
    {m m' : Machine β σ} {e : StackError} :
    faultText site handler fault m ≠ .error (.error e) m' := by
  cases handler with
  | none => intro h; cases h
  | some v =>
    by_cases hkind : v.kind = .function
    · obtain ⟨id, rfl⟩ := eq_function_of_kind hkind
      simp only [faultText, handleFault_function]
      intro h
      split at h <;> cases h
      next run => exact attemptScript_ne_error run
    · simp only [faultText, handleFault_of_kind_ne fault m hkind]
      intro h; cases h

/-! ## Exactly so many results -/

theorem length_fitResults (count : Nat) (results : List Value) :
    (fitResults count results).length = count := by
  simp [fitResults]
  omega

/-- Exactly so many results, with nil for those that are missing. -/
theorem fitResults_eq (count : Nat) (results : List Value) :
    fitResults count results = (List.range count).map fun i => results.getD i .nil := by
  refine List.ext_getElem (by simp [length_fitResults]) fun i hi _ => ?_
  rw [length_fitResults] at hi
  by_cases hlt : i < results.length
  · have hmin : i < min count results.length := by omega
    simp [fitResults, hmin, hlt]
  · have hmin : ¬ i < min count results.length := by omega
    simp [fitResults, List.getElem_append, hmin, hlt]

/-! ## The protocol -/

/-- The machine at the moment of a call: the function and its arguments are off the stack. -/
def Machine.calling (m : Machine β σ) (below : List Value) (inputs outputs : Nat) :
    Machine β σ :=
  let s := { m.stack with slots := below }
  let called : LogRecord :=
    ⟨.trace, "invoke " ++ toString inputs ++ " -> " ++ toString outputs ++ " " ++ s.dump⟩
  ⟨s, { m.world with journal := m.world.journal ++ [called] }⟩

/-- The machine after a failed call: its text lies on the slots that stay. -/
def Machine.faulted (m : Machine β σ) (text : String) : Machine β σ :=
  ⟨m.stack.extend [.text text],
    { m.world with journal := m.world.journal ++ [⟨.warn, text⟩] }⟩

/-- The call was made and the function returned: its results, cut off or filled up with nil, are
where it and its arguments were. -/
def CallReturned (site : Script.Site β σ) (inputs outputs : Nat) (handler : Int)
    (m m' : Machine β σ) : Prop :=
  ∃ below id args results m₁,
    m.stack.Accepts inputs outputs handler below (.function id) args ∧
    attemptScript (ε := StackError) site (callFunction site id args)
      (m.calling below inputs outputs) = .ok (.ok results) m₁ ∧
    m'.world = m₁.world ∧
    m'.stack = { m.stack with
      slots := below ++ (List.range outputs).map fun i => results.getD i .nil }

/-- The call was made and failed with a text, which is where the function and its arguments
were. -/
def CallFaulted (site : Script.Site β σ) (inputs outputs : Nat) (handler : Int)
    (m : Machine β σ) (text : String) (m' : Machine β σ) : Prop :=
  ∃ below callee args fault m₁ m₂,
    m.stack.Accepts inputs outputs handler below callee args ∧
    CalleeFaults site args (m.calling below inputs outputs) callee fault m₁ ∧
    FaultText site fault m₁ (m.stack.handlerAt handler) text m₂ ∧
    m'.world = { m₂.world with journal := m₂.world.journal ++ [⟨.warn, text⟩] } ∧
    m'.stack = { m.stack with slots := below ++ [.text text] }

theorem invoke_of_refused {site : Script.Site β σ} {inputs outputs : Nat} {handler : Int}
    {m : Machine β σ} {e : StackError} (h : m.stack.callParts inputs outputs handler = .error e) :
    invoke site inputs outputs handler m = .error (.error e) m :=
  bind_of_error (view_of_error (f := (·.callParts inputs outputs handler)) h)

theorem invoke_of_parts {site : Script.Site β σ} {inputs outputs : Nat} {handler : Int}
    {m : Machine β σ} {parts : Stack.CallParts}
    (h : m.stack.callParts inputs outputs handler = .ok parts) :
    invoke site inputs outputs handler m =
      (callOutcome site parts.callee parts.args >>= settleCall site outputs parts.handler)
        (m.calling parts.below inputs outputs) :=
  bind_of_ok (view_of_ok (f := (·.callParts inputs outputs handler)) h)

theorem invoke_of_faulted {site : Script.Site β σ} {inputs outputs : Nat} {handler : Int}
    {m m₁ m₂ : Machine β σ} {parts : Stack.CallParts} {fault text : String}
    (made : m.stack.callParts inputs outputs handler = .ok parts)
    (faults : CalleeFaults site parts.args (m.calling parts.below inputs outputs) parts.callee
      fault m₁)
    (told : FaultText site fault m₁ parts.handler text m₂) :
    invoke site inputs outputs handler m = reportFault text m₂ := by
  rw [invoke_of_parts made, bind_of_ok (callOutcome_error_iff.mpr faults), settleCall,
    bind_of_ok (faultText_ok_iff.mpr told)]

theorem callOutcome_stack {site : Script.Site β σ} {callee : Value} {args : List Value}
    {r : Except String (List Value)} {m m' : Machine β σ}
    (run : callOutcome site callee args m = .ok r m') : m'.stack = m.stack := by
  cases r with
  | ok results =>
    obtain ⟨id, rfl, hrun⟩ := callOutcome_ok_iff.mp run
    rw [attemptScript_ok hrun]
  | error fault => exact (callOutcome_error_iff.mp run).stack_eq

section Settled

variable {site : Script.Site β σ} {outputs : Nat} {handler : Option Value}
  {m m' : Machine β σ} {r : Except String (List Value)}

theorem reportFault_apply (text : String) (free : m.stack.size < m.stack.config.capacity) :
    reportFault text m = .error (.error (.script ⟨.runtime, text⟩)) (m.faulted text) := by
  have hpush : (pushText text : StackM β σ Unit)
      { m with world := { m.world with journal := m.world.journal ++ [⟨.warn, text⟩] } } =
      .ok () (m.faulted text) := by
    rw [pushText, push_apply, if_pos free]
    rfl
  exact bind_of_ok hpush

theorem settleCall_results {results : List Value}
    (room : outputs ≤ m.stack.config.capacity - m.stack.size) :
    settleCall site outputs handler (.ok results) m =
      .ok () { m with stack := m.stack.extend (fitResults outputs results) } := by
  refine pushAll_of_le ?_
  rwa [length_fitResults]

theorem settleCall_ok_iff (room : outputs ≤ m.stack.config.capacity - m.stack.size)
    (free : m.stack.size < m.stack.config.capacity) :
    settleCall site outputs handler r m = .ok () m' ↔
      ∃ results, r = .ok results ∧
        m' = { m with stack := m.stack.extend (fitResults outputs results) } := by
  cases r with
  | ok results =>
    rw [settleCall_results room]
    simp [eq_comm]
  | error fault =>
    rw [settleCall, bind_ok_iff]
    constructor
    · rintro ⟨text, m₁, hfault, hsettle⟩
      have hstack := (faultText_ok_iff.mp hfault).stack_eq
      rw [reportFault_apply text (by rwa [hstack])] at hsettle
      cases hsettle
    · rintro ⟨results, hr, -⟩
      cases hr

theorem settleCall_error_iff (room : outputs ≤ m.stack.config.capacity - m.stack.size)
    (free : m.stack.size < m.stack.config.capacity) {e : StackError} :
    settleCall site outputs handler r m = .error (.error e) m' ↔
      ∃ fault text m₁, r = .error fault ∧ faultText site handler fault m = .ok text m₁ ∧
        e = .script ⟨.runtime, text⟩ ∧ m' = m₁.faulted text := by
  cases r with
  | ok results =>
    rw [settleCall_results room]
    simp
  | error fault =>
    rw [settleCall, bind_error_iff]
    constructor
    · rintro (hfault | ⟨text, m₁, hfault, hsettle⟩)
      · exact absurd hfault faultText_ne_error
      · have hstack := (faultText_ok_iff.mp hfault).stack_eq
        rw [reportFault_apply text (by rwa [hstack])] at hsettle
        cases hsettle
        exact ⟨fault, text, m₁, rfl, hfault, rfl, rfl⟩
    · rintro ⟨fault', text, m₁, hr, hfault, rfl, rfl⟩
      cases hr
      have hstack := (faultText_ok_iff.mp hfault).stack_eq
      exact .inr ⟨text, m₁, hfault, reportFault_apply text (by rwa [hstack])⟩

end Settled

section Accepted

variable {site : Script.Site β σ} {inputs outputs : Nat} {handler : Int} {m : Machine β σ}
  {below args : List Value} {callee : Value}

theorem invoke_of_accepts (bounds : m.stack.InBounds)
    (accepts : m.stack.Accepts inputs outputs handler below callee args) :
    invoke site inputs outputs handler m =
      (callOutcome site callee args >>= settleCall site outputs (m.stack.handlerAt handler))
        (m.calling below inputs outputs) :=
  invoke_of_parts (Stack.callParts_of_accepts (Nat.le_of_lt bounds.size_lt) accepts)

theorem room_of_accepts (accepts : m.stack.Accepts inputs outputs handler below callee args) :
    outputs ≤ (m.calling below inputs outputs).stack.config.capacity -
      (m.calling below inputs outputs).stack.size := by
  have hroom := accepts.room
  change outputs ≤ m.stack.config.capacity - below.length
  omega

/-- The text of a failure always has room: it takes the slot of the function. -/
theorem free_of_accepts (bounds : m.stack.InBounds)
    (accepts : m.stack.Accepts inputs outputs handler below callee args) :
    (m.calling below inputs outputs).stack.size <
      (m.calling below inputs outputs).stack.config.capacity := by
  have hsize := accepts.size_eq
  have hle := bounds.size_le
  change below.length < m.stack.config.capacity
  omega

theorem invoke_ok_iff (bounds : m.stack.InBounds)
    (accepts : m.stack.Accepts inputs outputs handler below callee args) {m' : Machine β σ} :
    invoke site inputs outputs handler m = .ok () m' ↔
      ∃ id results m₁, callee = .function id ∧
        attemptScript (ε := StackError) site (callFunction site id args)
          (m.calling below inputs outputs) = .ok (.ok results) m₁ ∧
        m' = { m₁ with
          stack := { m.stack with slots := below ++ fitResults outputs results } } := by
  have hroom := room_of_accepts accepts
  have hfree := free_of_accepts bounds accepts
  rw [invoke_of_accepts bounds accepts, bind_ok_iff]
  constructor
  · rintro ⟨r, m₁, run, hsettle⟩
    have hstack := callOutcome_stack run
    rw [settleCall_ok_iff (by rwa [hstack]) (by rwa [hstack]), hstack] at hsettle
    obtain ⟨results, rfl, hm'⟩ := hsettle
    obtain ⟨id, hcallee, hrun⟩ := callOutcome_ok_iff.mp run
    exact ⟨id, results, m₁, hcallee, hrun, hm'⟩
  · rintro ⟨id, results, m₁, hcallee, hrun, hm'⟩
    have run := callOutcome_ok_iff.mpr ⟨id, hcallee, hrun⟩
    have hstack := callOutcome_stack run
    refine ⟨.ok results, m₁, run, ?_⟩
    rw [settleCall_ok_iff (by rwa [hstack]) (by rwa [hstack]), hstack]
    exact ⟨results, rfl, hm'⟩

theorem invoke_error_iff (bounds : m.stack.InBounds)
    (accepts : m.stack.Accepts inputs outputs handler below callee args) {e : StackError}
    {m' : Machine β σ} :
    invoke site inputs outputs handler m = .error (.error e) m' ↔
      ∃ fault m₁ text m₂, CalleeFaults site args (m.calling below inputs outputs) callee fault m₁ ∧
        FaultText site fault m₁ (m.stack.handlerAt handler) text m₂ ∧
        e = .script ⟨.runtime, text⟩ ∧ m' = m₂.faulted text := by
  have hroom := room_of_accepts accepts
  have hfree := free_of_accepts bounds accepts
  rw [invoke_of_accepts bounds accepts, bind_error_iff]
  constructor
  · rintro (run | ⟨r, m₁, run, hsettle⟩)
    · exact absurd run callOutcome_ne_error
    · have hstack := callOutcome_stack run
      rw [settleCall_error_iff (by rwa [hstack]) (by rwa [hstack])] at hsettle
      obtain ⟨fault, text, m₂, rfl, htext, he, hm'⟩ := hsettle
      exact ⟨fault, m₁, text, m₂, callOutcome_error_iff.mp run, faultText_ok_iff.mp htext, he, hm'⟩
  · rintro ⟨fault, m₁, text, m₂, hfault, htext, he, hm'⟩
    have hstack := hfault.stack_eq
    refine .inr ⟨.error fault, m₁, callOutcome_error_iff.mpr hfault, ?_⟩
    rw [settleCall_error_iff (by rwa [hstack]) (by rwa [hstack])]
    exact ⟨fault, text, m₂, rfl, faultText_ok_iff.mpr htext, he, hm'⟩

end Accepted

/-- The protocol of a call on a stack in its bounds. It is either refused, and then nothing
happened, or made. When it is made, it returns exactly if its function does, with exactly so many
results in the place of the function and its arguments; and it fails exactly if its function does,
with exactly one text in their place, which is also that of the error. -/
theorem invoke_protocol (site : Script.Site β σ) (inputs outputs : Nat) (handler : Int)
    (m : Machine β σ) (bounds : m.stack.InBounds) :
    ((∃ e, m.stack.Refused inputs outputs handler e) ↔
      ¬ ∃ below callee args, m.stack.Accepts inputs outputs handler below callee args) ∧
    (∀ m', invoke site inputs outputs handler m = .ok () m' ↔
      CallReturned site inputs outputs handler m m') ∧
    (∀ e m', invoke site inputs outputs handler m = .error (.error e) m' ↔
      (m.stack.Refused inputs outputs handler e ∧ m' = m) ∨
      ∃ text, e = .script ⟨.runtime, text⟩ ∧
        CallFaulted site inputs outputs handler m text m') := by
  have hdecided := m.stack.refused_or_accepts inputs outputs handler
  refine ⟨m.stack.refused_iff_not_accepts inputs outputs handler, fun m' => ⟨fun h => ?_, ?_⟩,
    fun e m' => ⟨fun h => ?_, ?_⟩⟩
  · obtain ⟨e, refused⟩ | ⟨below, callee, args, accepts⟩ := hdecided
    · rw [invoke_of_refused (Stack.callParts_of_refused bounds refused)] at h
      cases h
    · obtain ⟨id, results, m₁, rfl, hrun, rfl⟩ := (invoke_ok_iff bounds accepts).mp h
      exact ⟨below, id, args, results, m₁, accepts, hrun, rfl, by rw [fitResults_eq]⟩
  · rintro ⟨below, id, args, results, m₁, accepts, hrun, hworld, hstack⟩
    refine (invoke_ok_iff bounds accepts).mpr ⟨id, results, m₁, rfl, hrun, ?_⟩
    cases m'
    simp only at hworld hstack
    rw [hworld, hstack, fitResults_eq]
  · obtain ⟨e', refused⟩ | ⟨below, callee, args, accepts⟩ := hdecided
    · rw [invoke_of_refused (Stack.callParts_of_refused bounds refused)] at h
      cases h
      exact .inl ⟨refused, rfl⟩
    · obtain ⟨fault, m₁, text, m₂, hfault, htext, rfl, rfl⟩ :=
        (invoke_error_iff bounds accepts).mp h
      refine .inr ⟨text, rfl, below, callee, args, fault, m₁, m₂, accepts, hfault, htext, rfl, ?_⟩
      simp only [Machine.faulted, htext.stack_eq, hfault.stack_eq]
      rfl
  · rintro (⟨refused, rfl⟩ | ⟨text, rfl, below, callee, args, fault, m₁, m₂, accepts, hfault,
      htext, hworld, hstack⟩)
    · exact invoke_of_refused (Stack.callParts_of_refused bounds refused)
    · refine (invoke_error_iff bounds accepts).mpr
        ⟨fault, m₁, text, m₂, hfault, htext, rfl, ?_⟩
      cases m'
      simp only at hworld hstack
      simp only [Machine.faulted, htext.stack_eq, hfault.stack_eq, hworld, hstack]
      rfl

/-- A function and its argument fill a stack; the engine gives every argument back. -/
theorem invoke_protocol_echo :
    let site : Script.Site Unit Unit := .outermost fun _ _ args => return args
    let s : Stack := ⟨[.function 0, .boolean true], Config.standard.withCapacity 2, false, []⟩
    let m : Machine Unit Unit := ⟨s, ⟨.initial, [], ()⟩⟩
    s.InBounds ∧ ∃ m', invoke site 1 2 0 m = .ok () m' ∧ CallReturned site 1 2 0 m m' := by
  intro site s m
  have bounds : s.InBounds := ⟨by decide, by decide⟩
  have returned : ∃ m', invoke site 1 2 0 m = .ok () m' := ⟨_, rfl⟩
  obtain ⟨m', hm'⟩ := returned
  exact ⟨bounds, m', hm', ((invoke_protocol site 1 2 0 m bounds).2.1 m').mp hm'⟩

end ScriptBridge
