import ScriptBridge.Proofs.Session.Capacity

/-!
# Failures on frames

A frame is made of all the arguments of its call, also when these are more than its capacity. An
operation that takes values and then needs room for one finds it on every stack within its capacity;
on a frame that holds more it may not, and then what it took is lost. `frame_failures` says of every
frame, whatever was done to it, what a field that is looked up and a call leave when they fail, and
`frame_failures_crowded` shows two frames on which values are lost.
-/

namespace ScriptBridge

open HostM StackM

variable {β σ : Type}

/-! ## Fields that are looked up -/

section Fields

variable {site : Script.Site β σ} {m m' : Machine β σ} {index : Int} {id : ObjectId}

theorem Stack.table_ne_overflow {s : Stack} {e : StackError} (h : s.table index = .error e)
    (capacity : Nat) : e ≠ .overflow capacity := by
  rintro rfl
  simp only [Stack.table] at h
  split at h <;> cases h

/-- Looking up a field takes the key before it needs room for the value. -/
theorem swapField_of_read {s : Stack} {key v : Value} {w : World β σ}
    (table : m.stack.table index = .ok id) (stack : m.stack = s.extend [key])
    (read : site.readField id key m.world = .ok v w) :
    swapField site index m =
      if s.size < s.config.capacity then .ok () ⟨s.extend [v], w⟩
      else .error (.error s.overflow) ⟨s, w⟩ := by
  have hpop : (popValue : StackM β σ Value) m = .ok key { m with stack := s } :=
    take_of_ok (by rw [stack, Stack.popValue_extend])
  have hread : script site (site.readField id key) ⟨s, m.world⟩ = .ok v ⟨s, w⟩ :=
    bind_of_ok (attemptScript_of_ok (m := ⟨s, m.world⟩) read)
  rw [swapField, bind_of_ok (view_of_ok (f := (·.table index)) table), bind_of_ok hpop,
    bind_of_ok hread, push_apply]

theorem swapField_overflow {capacity : Nat}
    (run : swapField site index m = .error (.error (.overflow capacity)) m') :
    m.stack.config.capacity < m.stack.size ∧ ∃ key, m.stack.slots = m'.stack.slots ++ [key] := by
  have hends : (swapField site index).Ends m (fun _ _ => True)
      (fun e m' => e = .overflow capacity →
        m.stack.config.capacity < m.stack.size ∧ ∃ key, m.stack.slots = m'.stack.slots ++ [key])
      (fun _ => True) := by
    refine ends_bind (ends_view (fun policy => m.stack.table_withBalance policy index)
      (fun id table => ?_) fun e h he => absurd he (Stack.table_ne_overflow h capacity))
    refine ends_bind (ends_popValue_cases (fun key s hs => ?_) fun _ he => by cases he)
    refine ends_bind
      (ends_script (fun v w _ => ?_) (fun e w _ he => by cases he) fun _ _ => trivial)
    refine ends_push (fun _ => trivial) fun hfull _ => ?_
    change s.config.capacity ≤ s.size at hfull
    rw [hs, Stack.config_extend, Stack.size_extend]
    exact ⟨Nat.lt_succ_of_le hfull, key, Stack.slots_extend s [key]⟩
  have hmeets := hends.meets
  rw [run] at hmeets
  exact hmeets rfl

end Fields

/-! ## Calls -/

section Calls

variable {site : Script.Site β σ} {m m' m₁ m₂ : Machine β σ} {inputs outputs : Nat}
  {handler : Int} {parts : Stack.CallParts} {fault text : String} {e : StackError}

/-- The machine after a failed call for whose text there was no room: it is only logged. -/
def Machine.warned (m : Machine β σ) (text : String) : Machine β σ :=
  { m with world := { m.world with journal := m.world.journal ++ [⟨.warn, text⟩] } }

theorem reportFault_of_full (text : String) (full : m.stack.config.capacity ≤ m.stack.size) :
    reportFault text m = .error (.error m.stack.overflow) (m.warned text) := by
  have hlog : (log .warn text : StackM β σ Unit) m = .ok () (m.warned text) := rfl
  have hpush : (pushText text : StackM β σ Unit) (m.warned text) =
      .error (.error m.stack.overflow) (m.warned text) := by
    rw [pushText, push_apply]
    exact if_neg (Nat.not_lt_of_le full)
  rw [reportFault, bind_of_ok hlog, bind_of_error hpush]

/-- A call that fails was refused, or its function failed. -/
theorem invoke_error (run : invoke site inputs outputs handler m = .error (.error e) m') :
    m.stack.callParts inputs outputs handler = .error e ∧ m' = m ∨
      ∃ parts fault m₁ text m₂, m.stack.callParts inputs outputs handler = .ok parts ∧
        CalleeFaults site parts.args (m.calling parts.below inputs outputs) parts.callee fault m₁ ∧
        FaultText site fault m₁ parts.handler text m₂ ∧
        reportFault text m₂ = .error (.error e) m' := by
  cases made : m.stack.callParts inputs outputs handler with
  | error e' =>
    rw [invoke_of_refused made] at run
    cases run
    exact .inl ⟨rfl, rfl⟩
  | ok parts =>
    rw [invoke_of_parts made, bind_error_iff] at run
    obtain hcall | ⟨r, m₁, hcall, hsettle⟩ := run
    · exact absurd hcall callOutcome_ne_error
    · cases r with
      | ok results =>
        -- there is room for the results, or the call had been refused
        have hroom : outputs ≤ m₁.stack.config.capacity - m₁.stack.size := by
          rw [callOutcome_stack hcall]
          exact (Stack.callParts_ok made).2.2.1
        rw [settleCall_results hroom] at hsettle
        cases hsettle
      | error fault =>
        rw [settleCall, bind_error_iff] at hsettle
        obtain htext | ⟨text, m₂, htext, hreport⟩ := hsettle
        · exact absurd htext faultText_ne_error
        · exact .inr ⟨parts, fault, m₁, text, m₂, rfl, callOutcome_error_iff.mp hcall,
            faultText_ok_iff.mp htext, hreport⟩

theorem stack_of_faulted
    (faults : CalleeFaults site parts.args (m.calling parts.below inputs outputs) parts.callee
      fault m₁)
    (told : FaultText site fault m₁ parts.handler text m₂) :
    m₂.stack = { m.stack with slots := parts.below } :=
  told.stack_eq.trans faults.stack_eq

end Calls

/-! ## What failures leave -/

/-- What is promised of failures on a stack: that there is no room is found before anything happens,
and a call whose function failed leaves one text in the place of the function and its arguments. -/
structure FailsCleanly (site : Script.Site β σ) (m : Machine β σ) : Prop where
  field : ∀ index capacity m', swapField site index m = .error (.error (.overflow capacity)) m' →
    m'.stack.slots = m.stack.slots
  call : ∀ inputs outputs handler capacity m',
    invoke site inputs outputs handler m = .error (.error (.overflow capacity)) m' →
    m'.stack.slots = m.stack.slots
  fault : ∀ inputs outputs handler parts fault m₁ text m₂,
    m.stack.callParts inputs outputs handler = .ok parts →
    CalleeFaults site parts.args (m.calling parts.below inputs outputs) parts.callee fault m₁ →
    FaultText site fault m₁ parts.handler text m₂ →
    ∃ m', invoke site inputs outputs handler m = .error (.error (.script ⟨.runtime, text⟩)) m' ∧
      m'.stack.slots = parts.below ++ [.text text]

/-- What failures leave on any stack. Where there is no room for the value of a field, its key is
lost. Where there is none for the text of a failure, so are the function and its arguments, and the
error is that there is no room. -/
structure FailsCrowded (site : Script.Site β σ) (m : Machine β σ) : Prop where
  field : ∀ index capacity m', swapField site index m = .error (.error (.overflow capacity)) m' →
    m.stack.config.capacity < m.stack.size ∧ ∃ key, m.stack.slots = m'.stack.slots ++ [key]
  keyLost : ∀ index id below key v w, m.stack.config.capacity < m.stack.size →
    m.stack.table index = .ok id → m.stack.slots = below ++ [key] →
    site.readField id key m.world = .ok v w →
    swapField site index m =
      .error (.error m.stack.overflow) ⟨{ m.stack with slots := below }, w⟩
  call : ∀ inputs outputs handler capacity m',
    invoke site inputs outputs handler m = .error (.error (.overflow capacity)) m' →
    m' = m ∨ ∃ parts, m.stack.callParts inputs outputs handler = .ok parts ∧ outputs = 0 ∧
      m.stack.config.capacity ≤ parts.below.length ∧ m'.stack.slots = parts.below
  fault : ∀ inputs outputs handler parts fault m₁ text m₂,
    m.stack.callParts inputs outputs handler = .ok parts →
    CalleeFaults site parts.args (m.calling parts.below inputs outputs) parts.callee fault m₁ →
    FaultText site fault m₁ parts.handler text m₂ →
    (parts.below.length < m.stack.config.capacity → ∃ m',
      invoke site inputs outputs handler m = .error (.error (.script ⟨.runtime, text⟩)) m' ∧
      m'.stack.slots = parts.below ++ [.text text]) ∧
    (m.stack.config.capacity ≤ parts.below.length → ∃ m',
      invoke site inputs outputs handler m = .error (.error m.stack.overflow) m' ∧
      m'.stack.slots = parts.below)

theorem failsCrowded (site : Script.Site β σ) (m : Machine β σ) : FailsCrowded site m where
  field index capacity m' run := swapField_overflow run
  keyLost index id below key v w crowded table slots read := by
    have hstack : m.stack = Stack.extend { m.stack with slots := below } [key] := by
      rw [Stack.extend, ← slots]
    have hfull : ¬ below.length < m.stack.config.capacity := by
      rw [Stack.size, slots, List.length_append] at crowded
      exact Nat.not_lt_of_le (Nat.le_of_lt_succ crowded)
    exact (swapField_of_read table hstack read).trans (if_neg hfull)
  call inputs outputs handler capacity m' run := by
    obtain ⟨-, rfl⟩ | ⟨parts, fault, m₁, text, m₂, made, faults, told, hreport⟩ := invoke_error run
    · exact .inl rfl
    · have hstack := stack_of_faulted faults told
      by_cases hfree : m₂.stack.size < m₂.stack.config.capacity
      · rw [reportFault_apply text hfree] at hreport
        cases hreport
      · have hfull := Nat.le_of_not_lt hfree
        rw [reportFault_of_full text hfull] at hreport
        cases hreport
        rw [hstack] at hfull
        have hroom := (Stack.callParts_ok made).2.2.1
        change m.stack.config.capacity ≤ parts.below.length at hfull
        refine .inr ⟨parts, made, ?_, hfull, ?_⟩
        · omega
        · change m₂.stack.slots = parts.below
          rw [hstack]
  fault inputs outputs handler parts fault m₁ text m₂ made faults told := by
    have hstack := stack_of_faulted faults told
    have hrun := invoke_of_faulted made faults told
    refine ⟨fun hfree => ⟨m₂.faulted text, ?_, ?_⟩, fun hfull => ⟨m₂.warned text, ?_, ?_⟩⟩
    · rw [hrun, reportFault_apply text (by rwa [hstack])]
    · simp only [Machine.faulted, Stack.slots_extend, hstack]
    · rw [hrun, reportFault_of_full text (by rwa [hstack]), hstack]
      rfl
    · change m₂.stack.slots = parts.below
      rw [hstack]

/-- On a stack within its capacity failures are clean: what was taken left room for one value. -/
theorem failsCleanly_of_le {m : Machine β σ} (fits : m.stack.size ≤ m.stack.config.capacity)
    (site : Script.Site β σ) : FailsCleanly site m := by
  have crowded := failsCrowded site m
  have hbelow {inputs outputs : Nat} {handler : Int} {parts : Stack.CallParts}
      (made : m.stack.callParts inputs outputs handler = .ok parts) :
      parts.below.length < m.stack.config.capacity := by
    have hsize := (Stack.callParts_ok made).2.1
    have hpos : 0 < min (inputs + 1) maxCount := Nat.lt_min.mpr ⟨by omega, by decide⟩
    omega
  constructor
  · intro index capacity m' run
    exact absurd (crowded.field index capacity m' run).1 (Nat.not_lt_of_le fits)
  · intro inputs outputs handler capacity m' run
    obtain rfl | ⟨parts, made, -, hfull, -⟩ := crowded.call inputs outputs handler capacity m' run
    · rfl
    · exact absurd (hbelow made) (Nat.not_lt_of_le hfull)
  · intro inputs outputs handler parts fault m₁ text m₂ made faults told
    exact (crowded.fault inputs outputs handler parts fault m₁ text m₂ made faults told).1
      (hbelow made)

/-! ## Frames -/

open Session

/-- Whatever was done to a frame, failures on it are clean if the arguments of its call were no more
than the capacity. They may leave less if there were more arguments, and how much is lost is what
`FailsCrowded` says of every stack. -/
theorem frame_failures (args : List Value) (config : Config) (site : Script.Site Body Memory)
    (m : Machine Body Memory) (reached : Reached (.frame args config) m.stack) :
    (args.length ≤ config.capacity → FailsCleanly site m) ∧ FailsCrowded site m ∧
    m.stack.config = config ∧ m.stack.size ≤ max args.length config.capacity := by
  have hconfig : m.stack.config = config := reached.bounded.config
  have hsize : m.stack.size ≤ max args.length config.capacity := reached.bounded.size_le
  refine ⟨fun hargs => failsCleanly_of_le ?_ site, failsCrowded site m, hconfig, hsize⟩
  rw [hconfig]
  omega

/-- The frame of a call with one argument more than the capacity: the second argument is called and
fails, and nothing is left of it, nor of its failure. -/
theorem frame_failures_lost :
    let site : Script.Site Body Memory := .outermost fun _ _ args => return args
    let config : Config := Config.standard.withCapacity 1
    let m : Machine Body Memory :=
      ⟨.frame [.integer 1, .integer 2] config, ⟨.initial, [], .empty⟩⟩
    Reached (.frame [.integer 1, .integer 2] config) m.stack ∧
    ∃ m', invoke site 0 0 0 m = .error (.error (.overflow 1)) m' ∧
      m'.stack.slots = [.integer 1] := by
  intro site config m
  have reached : Reached (.frame [.integer 1, .integer 2] config) m.stack := .start
  obtain ⟨-, crowded, -⟩ := frame_failures [.integer 1, .integer 2] config site m reached
  exact ⟨reached, (crowded.fault 0 0 0 ⟨[.integer 1], .integer 2, [], none⟩ _ _ _ _ rfl
    (.noFunction (by decide)) .unhandled).2 (by decide)⟩

/-- On frames of more arguments than the capacity an argument and a key are lost. -/
theorem frame_failures_crowded :
    let site : Script.Site Body Memory := .outermost fun _ _ args => return args
    let config : Config := Config.standard.withCapacity 1
    let world : World Body Memory := ⟨.initial, [], .empty⟩
    let called : Machine Body Memory := ⟨.frame [.integer 1, .integer 2] config, world⟩
    let asked : Machine Body Memory := ⟨.frame [.table Heap.globals, .text "k"] config, world⟩
    Reached (.frame [.integer 1, .integer 2] config) called.stack ∧
    Reached (.frame [.table Heap.globals, .text "k"] config) asked.stack ∧
    (∃ m', invoke site 0 0 0 called = .error (.error (.overflow 1)) m' ∧
      m'.stack.slots ≠ called.stack.slots) ∧
    (∃ m', swapField site 1 asked = .error (.error (.overflow 1)) m' ∧
      m'.stack.slots ≠ asked.stack.slots) ∧
    ¬ FailsCleanly site called ∧ ¬ FailsCleanly site asked := by
  intro site config world called asked
  have hcalled : ∃ m', invoke site 0 0 0 called = .error (.error (.overflow 1)) m' ∧
      m'.stack.slots ≠ called.stack.slots := ⟨_, rfl, by decide⟩
  have hasked : ∃ m', swapField site 1 asked = .error (.error (.overflow 1)) m' ∧
      m'.stack.slots ≠ asked.stack.slots := ⟨_, rfl, by decide⟩
  refine ⟨.start, .start, hcalled, hasked, fun clean => ?_, fun clean => ?_⟩
  · obtain ⟨m', run, hslots⟩ := hcalled
    exact hslots (clean.call 0 0 0 1 m' run)
  · obtain ⟨m', run, hslots⟩ := hasked
    exact hslots (clean.field 1 1 m' run)

end ScriptBridge
