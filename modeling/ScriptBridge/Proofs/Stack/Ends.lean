import ScriptBridge.Stack.Scope

/-!
# How actions end

`HostM.Ends` says of an action on a machine what holds in the end: of its result and the machine
after it, of its error and the machine that it leaves, and of a stop in between. It also says that
the balance policy makes no difference to any of that. A scope that ends at an unexpected size does
nothing under one policy and panics under another, so no scope within such an action does. Each way
to build an action has one rule, and a proof about an action follows its text.
-/

namespace ScriptBridge

variable {ε ε' β σ α γ : Type}

/-! ## Runs of a sequence -/

section Sequence

variable {S E : Type} {action : EStateM E S γ} {next : γ → EStateM E S α} {s s' : S}

theorem bind_of_ok {c : γ} (h : action s = .ok c s') : (action >>= next) s = next c s' := by
  simp only [bind, EStateM.bind, h]

theorem bind_of_error {e : E} (h : action s = .error e s') :
    (action >>= next) s = .error e s' := by
  simp only [bind, EStateM.bind, h]

theorem bind_ok_iff {a : α} :
    (action >>= next) s = .ok a s' ↔
      ∃ c s₁, action s = .ok c s₁ ∧ next c s₁ = .ok a s' := by
  cases h : action s with
  | ok c s₁ => simp [bind_of_ok h, and_assoc]
  | error e s₁ => simp [bind_of_error h]

theorem bind_error_iff {e : E} :
    (action >>= next) s = .error e s' ↔
      action s = .error e s' ∨ ∃ c s₁, action s = .ok c s₁ ∧ next c s₁ = .error e s' := by
  cases h : action s with
  | ok c s₁ => simp [bind_of_ok h, and_assoc]
  | error e₁ s₁ => simp [bind_of_error h]

end Sequence

/-- The stack under another balance policy. -/
def Stack.withBalance (s : Stack) (policy : BalancePolicy) : Stack :=
  { s with config := s.config.withBalance policy }

/-- The machine under another balance policy. -/
def Machine.withBalance (m : Machine β σ) (policy : BalancePolicy) : Machine β σ :=
  { m with stack := m.stack.withBalance policy }

/-- A way to end without a result and without an error. -/
abbrev Stop : Type := Failure Empty

namespace HostM

/-- What an action came to. -/
abbrev Ending (ε β σ α : Type) : Type := EStateM.Result (Failure ε) (Machine β σ) α

/-- What an action came to, on the machine under another balance policy. -/
def Ending.withBalance (policy : BalancePolicy) : Ending ε β σ α → Ending ε β σ α
  | .ok a m => .ok a (m.withBalance policy)
  | .error failure m => .error failure (m.withBalance policy)

/-- A result and its machine are as `returns` says, an error and its machine as `fails` says, and
a stop as `stops` says. -/
def Ending.Meets (returns : α → Machine β σ → Prop) (fails : ε → Machine β σ → Prop)
    (stops : Stop → Prop) : Ending ε β σ α → Prop
  | .ok a m => returns a m
  | .error (.error e) m => fails e m
  | .error (.panic text) _ => stops (.panic text)
  | .error .exhausted _ => stops .exhausted

/-- How an action ends on a machine, alike under every balance policy. -/
structure Ends (action : HostM ε β σ α) (m : Machine β σ) (returns : α → Machine β σ → Prop)
    (fails : ε → Machine β σ → Prop) (stops : Stop → Prop) : Prop where
  meets : Ending.Meets returns fails stops (action m)
  uniform : ∀ policy, action (m.withBalance policy) = Ending.withBalance policy (action m)

variable {m m' : Machine β σ} {returns : α → Machine β σ → Prop}
  {fails : ε → Machine β σ → Prop} {stops : Stop → Prop}

theorem Ends.of_ok {action : HostM ε β σ α} {a : α} (h : action.Ends m returns fails stops)
    (hok : action m = .ok a m') : returns a m' := by
  have hmeets := h.meets
  rwa [hok] at hmeets

theorem Ends.of_error {action : HostM ε β σ α} {e : ε} (h : action.Ends m returns fails stops)
    (herror : action m = .error (.error e) m') : fails e m' := by
  have hmeets := h.meets
  rwa [herror] at hmeets

/-- An action that neither fails nor stops returns. -/
theorem Ends.exists_ok {action : HostM ε β σ α}
    (h : action.Ends m returns (fun _ _ => False) fun _ => False) :
    ∃ a m', action m = .ok a m' ∧ returns a m' := by
  have hmeets := h.meets
  cases hending : action m with
  | ok a m' => exact ⟨a, m', rfl, h.of_ok hending⟩
  | error failure m' =>
    rw [hending] at hmeets
    cases failure <;> exact hmeets.elim

theorem Ends.mono {action : HostM ε β σ α} {returns' : α → Machine β σ → Prop}
    {fails' : ε → Machine β σ → Prop} {stops' : Stop → Prop}
    (h : action.Ends m returns' fails' stops') (hreturns : ∀ a m', returns' a m' → returns a m')
    (hfails : ∀ e m', fails' e m' → fails e m') (hstops : ∀ stop, stops' stop → stops stop) :
    action.Ends m returns fails stops := by
  refine ⟨?_, h.uniform⟩
  have hmeets := h.meets
  unfold Ending.Meets at *
  split at hmeets
  · exact hreturns _ _ hmeets
  · exact hfails _ _ hmeets
  · exact hstops _ hmeets
  · exact hstops _ hmeets

theorem attempt_ok_iff {action : HostM ε β σ α} {a : α} :
    attempt action m = .ok (.ok a) m' ↔ action m = .ok a m' := by
  simp only [attempt]
  cases action m with
  | ok b m₁ => simp
  | error failure m₁ => cases failure <;> simp

theorem attempt_error_iff {action : HostM ε β σ α} {e : ε} :
    attempt action m = .ok (.error e) m' ↔ action m = .error (.error e) m' := by
  simp only [attempt]
  cases action m with
  | ok b m₁ => simp
  | error failure m₁ => cases failure <;> simp

theorem mapError_of_ok {f : ε' → ε} {action : HostM ε' β σ α} {a : α}
    (h : action m = .ok a m') : mapError f action m = .ok a m' := by
  simp only [mapError, EStateM.adaptExcept, h]

theorem mapError_of_error {f : ε' → ε} {action : HostM ε' β σ α} {e : ε'}
    (h : action m = .error (.error e) m') : mapError f action m = .error (.error (f e)) m' := by
  simp only [mapError, EStateM.adaptExcept, h, Failure.map]

theorem discard_of_ok {action : HostM ε β σ α} {a : α} (h : action m = .ok a m') :
    (discard action : HostM ε β σ Unit) m = .ok () m' := by
  simp only [discard, Functor.mapConst, EStateM.map, Function.comp_apply, h, Function.const]

theorem stack_bind (next : Stack → HostM ε β σ α) (m : Machine β σ) :
    (stack >>= next) m = next m.stack m := rfl

/-! ## The rules -/

theorem ends_pure {a : α} (h : returns a m) :
    (pure a : HostM ε β σ α).Ends m returns fails stops :=
  ⟨h, fun _ => rfl⟩

theorem ends_fail {e : ε} (h : fails e m) : (fail e : HostM ε β σ α).Ends m returns fails stops :=
  ⟨h, fun _ => rfl⟩

theorem ends_bind {action : HostM ε β σ γ} {next : γ → HostM ε β σ α}
    (h : action.Ends m (fun c m' => (next c).Ends m' returns fails stops) fails stops) :
    (action >>= next).Ends m returns fails stops := by
  have hmeets := h.meets
  have huniform := h.uniform
  cases hending : action m with
  | ok c m' =>
    have hnext := h.of_ok hending
    refine ⟨?_, fun policy => ?_⟩
    · simpa only [bind, EStateM.bind, hending] using hnext.meets
    · simp only [bind, EStateM.bind, huniform, hending]
      exact hnext.uniform policy
  | error failure m' =>
    rw [hending] at hmeets
    refine ⟨?_, fun policy => ?_⟩
    · simp only [bind, EStateM.bind, hending]
      cases failure <;> exact hmeets
    · simp only [bind, EStateM.bind, huniform, hending]
      rfl

/-- What follows a look at the stack must not see the balance policy. -/
theorem ends_stack {next : Stack → HostM ε β σ α}
    (huniform : ∀ policy, next (m.stack.withBalance policy) = next m.stack)
    (h : (next m.stack).Ends m returns fails stops) :
    (stack >>= next).Ends m returns fails stops := by
  refine ⟨h.meets, fun policy => ?_⟩
  rw [stack_bind, stack_bind, ← h.uniform policy]
  exact congrFun (huniform policy) _

theorem ends_log {level : LogLevel} {text : String} {returns : Unit → Machine β σ → Prop}
    (h : returns () { m with world :=
      { m.world with journal := m.world.journal ++ [⟨level, text⟩] } }) :
    (log level text : HostM ε β σ Unit).Ends m returns fails stops :=
  ⟨h, fun _ => rfl⟩

theorem ends_modifyMemory {f : σ → σ} {returns : Unit → Machine β σ → Prop}
    (h : returns () { m with world := { m.world with memory := f m.world.memory } }) :
    (modifyMemory f : HostM ε β σ Unit).Ends m returns fails stops :=
  ⟨h, fun _ => rfl⟩

theorem ends_discard {action : HostM ε β σ α} {returns : Unit → Machine β σ → Prop}
    (h : action.Ends m (fun _ m' => returns () m') fails stops) :
    (discard action).Ends m returns fails stops := by
  have hmap : (discard action : HostM ε β σ Unit) = action >>= fun _ => pure () := by
    funext m
    simp only [discard, Functor.mapConst, EStateM.map, Function.comp_apply, Function.const, bind,
      EStateM.bind]
    cases action m <;> rfl
  rw [hmap]
  exact ends_bind (h.mono (fun _ _ h => ends_pure h) (fun _ _ h => h) (fun _ h => h))

theorem ends_attempt {action : HostM ε β σ α} {returns : Except ε α → Machine β σ → Prop}
    (h : action.Ends m (fun a m' => returns (.ok a) m') (fun e m' => returns (.error e) m')
      stops) :
    (attempt action).Ends m returns fails stops := by
  have hmeets := h.meets
  constructor
  · unfold attempt Ending.Meets at *
    split at hmeets <;> simp_all
  · intro policy
    simp only [attempt, h.uniform]
    cases action m with
    | ok a m' => rfl
    | error failure m' => cases failure <;> rfl

theorem ends_mapError {f : ε' → ε} {action : HostM ε' β σ α}
    (h : action.Ends m returns (fun e m' => fails (f e) m') stops) :
    (mapError f action).Ends m returns fails stops := by
  have hmeets := h.meets
  constructor
  · unfold mapError EStateM.adaptExcept Ending.Meets at *
    split at hmeets <;> simp_all [Failure.map]
  · intro policy
    simp only [mapError, EStateM.adaptExcept, h.uniform]
    cases action m <;> rfl

end HostM

namespace StackM

open HostM

variable {m m' : Machine β σ} {fails : StackError → Machine β σ → Prop} {stops : Stop → Prop}

/-! ## Actions of scripts -/

section Attempts

variable {site : Script.Site β σ} {action : ScriptM β σ α} {w : World β σ}

theorem attemptScript_of_ok {a : α} (h : action m.world = .ok a w) :
    attemptScript (ε := ε) site action m = .ok (.ok a) { m with world := w } := by
  simp only [attemptScript, ScriptM.attempt, bind, EStateM.bind, h]
  rfl

/-- An error of the host that was thrown comes back as it was. -/
theorem attemptScript_of_thrown {e : LuaError} {k : ObjectId}
    (h : action m.world = .error (.error (.failure e k)) w) :
    attemptScript (ε := ε) site action m = .ok (.error e) { m with world := w } := by
  simp only [attemptScript, ScriptM.attempt, bind, EStateM.bind, h]
  rfl

/-- The text of a text is the text itself. -/
theorem textOf_string {bytes : Bytes}
    (plain : w.heap.metamethod (.string bytes) "__tostring" = .nil) :
    site.textOf (.string bytes) w = .ok bytes w := by
  have hheap : (ScriptM.heap : ScriptM β σ (Heap β)) w = .ok w.heap w := rfl
  simp only [Script.Site.textOf]
  rw [bind_of_ok hheap]
  simp only [plain]
  rfl

/-- A text that was thrown comes back as an error with this text, up to a zero byte. -/
theorem attemptScript_of_text {bytes : Bytes}
    (h : action m.world = .error (.error (.string bytes)) w)
    (plain : w.heap.metamethod (.string bytes) "__tostring" = .nil) :
    attemptScript (ε := ε) site action m =
      .ok (.error (.runtime bytes.untilZero.toStringLossy)) { m with world := w } := by
  have hthrown : LuaError.ofThrown site (.string bytes) w =
      .ok (.runtime bytes.untilZero.toStringLossy) w := by
    have htext : (Script.Site.ofNative site.engine site.around 0).textOf (.string bytes) w =
        .ok bytes w := textOf_string plain
    simp only [LuaError.ofThrown, rethrowLimit, LuaError.ofThrownWithin, ScriptM.attempt, bind,
      EStateM.bind, htext]
    rfl
  simp only [attemptScript, ScriptM.attempt, bind, EStateM.bind, h, hthrown]
  rfl

theorem attemptScript_of_panic {text : String} (h : action m.world = .error (.panic text) w) :
    attemptScript (ε := ε) site action m = .error (.panic text) { m with world := w } := by
  simp only [attemptScript, ScriptM.attempt, bind, EStateM.bind, h]

theorem attemptScript_of_exhausted (h : action m.world = .error .exhausted w) :
    attemptScript (ε := ε) site action m = .error .exhausted { m with world := w } := by
  simp only [attemptScript, ScriptM.attempt, bind, EStateM.bind, h]

/-- What came to something on a stack came to it on the world. -/
theorem run_of_attemptScript {a : α}
    (h : attemptScript (ε := ε) site action m = .ok (.ok a) m') :
    action m.world = .ok a m'.world := by
  simp only [attemptScript, ScriptM.attempt, bind, EStateM.bind] at h
  cases hrun : action m.world with
  | ok b w =>
    rw [hrun] at h
    cases h
    rfl
  | error failure w =>
    rw [hrun] at h
    cases failure with
    | error v =>
      cases hthrown : LuaError.ofThrown site v w with
      | ok e w' =>
        simp only [EStateM.bind, hthrown] at h
        cases h
      | error failure w' =>
        simp only [EStateM.bind, hthrown] at h
        cases failure <;> cases h
    | panic text => cases h
    | exhausted => cases h

end Attempts

/-- An action of a script changes no more than the world. -/
theorem attemptScript_ok {site : Script.Site β σ} {action : ScriptM β σ α}
    {r : Except LuaError α} (h : attemptScript (ε := ε) site action m = .ok r m') :
    m' = { m with world := m'.world } := by
  simp only [attemptScript] at h
  split at h <;> cases h
  rfl

theorem attemptScript_ne_error {site : Script.Site β σ} {action : ScriptM β σ α} {e : ε} :
    attemptScript site action m ≠ .error (.error e) m' := by
  intro h
  simp only [attemptScript] at h
  split at h <;> cases h

/-- How a script's action stops on a world. -/
inductive ScriptStops (site : Script.Site β σ) (action : ScriptM β σ α) (m : Machine β σ) :
    Stop → Prop
  | panic {text : String} {m' : Machine β σ}
    (run : attemptScript (ε := StackError) site action m = .error (.panic text) m') :
    ScriptStops site action m (.panic text)
  | exhausted {m' : Machine β σ}
    (run : attemptScript (ε := StackError) site action m = .error .exhausted m') :
    ScriptStops site action m .exhausted

/-- An action of a script leaves the stack, and its errors are results. -/
theorem ends_attemptScript {site : Script.Site β σ} {action : ScriptM β σ α}
    {returns : Except LuaError α → Machine β σ → Prop}
    (hreturns : ∀ r w, attemptScript (ε := StackError) site action m =
      .ok r { m with world := w } → returns r { m with world := w })
    (hstops : ∀ stop, ScriptStops site action m stop → stops stop) :
    (attemptScript site action).Ends m returns fails stops := by
  constructor
  · unfold Ending.Meets
    split
    next r m' h =>
      have hm := attemptScript_ok h
      rw [hm]
      exact hreturns r m'.world (hm ▸ h)
    next e m' h => exact absurd h attemptScript_ne_error
    next text m' h => exact hstops _ (.panic h)
    next m' h => exact hstops _ (.exhausted h)
  · intro policy
    simp only [attemptScript, Machine.withBalance]
    split <;> rfl

/-- An action of a script, run for a stack: its result is given back and its error reported. -/
theorem ends_script {site : Script.Site β σ} {action : ScriptM β σ α}
    {returns : α → Machine β σ → Prop}
    (hreturns : ∀ a w, attemptScript (ε := StackError) site action m =
      .ok (.ok a) { m with world := w } → returns a { m with world := w })
    (hfails : ∀ e w, attemptScript (ε := StackError) site action m =
      .ok (.error e) { m with world := w } → fails (.engine e) { m with world := w })
    (hstops : ∀ stop, ScriptStops site action m stop → stops stop) :
    (script site action).Ends m returns fails stops := by
  refine ends_bind (ends_attemptScript (fun r w h => ?_) hstops)
  cases r with
  | ok a => exact ends_pure (hreturns a w h)
  | error e => exact ends_fail (hfails e w h)

/-- What a script's action gives for a stack it gives on the world, and the stack stays. -/
theorem script_ok {site : Script.Site β σ} {action : ScriptM β σ α} {a : α}
    (h : script site action m = .ok a m') :
    action m.world = .ok a m'.world ∧ m'.stack = m.stack := by
  obtain ⟨r, m₁, hattempt, hrest⟩ := bind_ok_iff.mp h
  cases r with
  | ok b =>
    cases hrest
    refine ⟨run_of_attemptScript hattempt, ?_⟩
    rw [attemptScript_ok hattempt]
  | error e => cases hrest

/-- However a script's action fails or stops on a stack, the stack stays. -/
theorem script_failure {site : Script.Site β σ} {action : ScriptM β σ α}
    {failure : Failure StackError} (h : script site action m = .error failure m') :
    m'.stack = m.stack := by
  rcases bind_error_iff.mp h with hattempt | ⟨r, m₁, hattempt, hrest⟩
  · simp only [attemptScript] at hattempt
    split at hattempt <;> cases hattempt <;> rfl
  · cases r with
    | ok a => cases hrest
    | error e =>
      cases hrest
      rw [attemptScript_ok hattempt]

/-- A script's action fails on a stack with an error of the engine, and the stack stays. -/
theorem script_error {site : Script.Site β σ} {action : ScriptM β σ α} {e : StackError}
    (h : script site action m = .error (.error e) m') :
    (∃ thrown, e = .engine thrown) ∧ m'.stack = m.stack := by
  obtain hattempt | ⟨r, m₁, hattempt, hrest⟩ := bind_error_iff.mp h
  · exact absurd hattempt attemptScript_ne_error
  · cases r with
    | ok a => cases hrest
    | error thrown =>
      cases hrest
      refine ⟨⟨thrown, rfl⟩, ?_⟩
      rw [attemptScript_ok hattempt]

end StackM

end ScriptBridge
