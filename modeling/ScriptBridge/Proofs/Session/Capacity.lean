import ScriptBridge.Proofs.Session.Sliding

/-!
# Stacks stay within their capacity

No step, however it ends, leaves more on a stack than was there before or than its capacity:
`bounded_perform`. A stack that starts empty therefore never holds more than its capacity, whatever
is done to it, and a frame never more than that or than the arguments of its call:
`reached_within_capacity`, which also says what this means for indices.
-/

namespace ScriptBridge

open HostM StackM

variable {ε β σ : Type}

/-- A stack has the configuration of another one, and holds no more than that one or than the
capacity. -/
structure Stack.Bounded (s s' : Stack) : Prop where
  config : s'.config = s.config
  size_le : s'.size ≤ max s.size s.config.capacity

namespace Stack.Bounded

theorem upward : Upward Bounded where
  refl s := ⟨rfl, Nat.le_max_left _ _⟩
  trans {s t u} first second := by
    refine ⟨second.config.trans first.config, ?_⟩
    have hfirst := first.size_le
    have hsecond := second.size_le
    rw [first.config] at hsecond
    omega
  push s vs h := by
    refine ⟨rfl, ?_⟩
    rw [size_extend]
    omega

/-- Taking values off keeps a stack in its bounds. -/
theorem cut : Downward Bounded :=
  fun _ _ h => ⟨rfl, Nat.le_trans h (Nat.le_max_left _ _)⟩

end Stack.Bounded

open Stack.Bounded (upward cut)

theorem StackM.bounded_register (site : Script.Site β σ) (callback : Callback β) :
    (register site callback).Moves Stack.Bounded := by
  apply moves_bind upward (moves_pushCallback upward callback)
  intro _
  apply moves_bind upward (moves_bindGlobal upward cut site callback.name)
  intro _
  apply moves_bind upward (moves_log upward _ _)
  intro _ m
  -- a name that is noted takes no slot
  exact ⟨rfl, Nat.le_max_left _ _⟩

theorem BalanceScope.bounded_abandon (scope : BalanceScope) :
    (scope.abandon : HostM ε β σ Unit).Moves Stack.Bounded :=
  moves_abandon upward cut scope

/-! ## Steps -/

namespace Session

variable (site : Script.Site Body Memory)

mutual

/-- However a step ends, it leaves no more on the stack than was there or than the capacity. -/
theorem bounded_perform (step : Step) : (perform site step).Moves Stack.Bounded := by
  cases step with
  | register callback => exact moves_quietly upward (bounded_register site callback)
  | install batch =>
    exact moves_bind upward (moves_mapError (moves_forM upward (bounded_register site) batch))
      fun _ => moves_pure upward _
  | inScope label delta steps ending =>
    have hsteps := bounded_performAll ("scope:" ++ label) steps
    exact moves_inScope upward cut site label delta ending hsteps
  | _ => exact moves_perform_of_unregistering upward cut site id

theorem bounded_performAll (place : String) (steps : List Nested) :
    (performAll site place steps).Moves Stack.Bounded := by
  cases steps with
  | nil => exact moves_pure upward ()
  | cons nested rest =>
    obtain ⟨step, tolerated⟩ := nested
    refine moves_bind upward (moves_attempt (bounded_perform step)) fun outcome => ?_
    cases outcome with
    | ok gain =>
      exact moves_bind upward (moves_note upward _ _) fun _ => bounded_performAll place rest
    | error e =>
      refine moves_bind upward (moves_note upward _ _) fun _ => ?_
      split
      · exact bounded_performAll place rest
      · exact moves_fail upward e

end

theorem bounded_runBody (body : Body) : (runBody site body).Moves Stack.Bounded := by
  obtain ⟨label, steps, promise⟩ := body
  refine moves_bind upward (moves_mapError (bounded_performAll site _ steps)) fun _ => ?_
  cases promise with
  | count n => exact moves_pure upward n
  | all => exact moves_bind upward (moves_stack upward) fun _ => moves_pure upward _

/-! ## Runs -/

/-- What a stack becomes by steps and by the ends of scopes, at any sites and in any worlds. Opening
a scope changes nothing. -/
inductive Reached (start : Stack) : Stack → Prop
  | start : Reached start start
  | step {m : Machine Body Memory} (reached : Reached start m.stack)
    (site : Script.Site Body Memory) (step : Step) :
    Reached start (Ending.machine (perform site step m)).stack
  | finish {m : Machine Body Memory} (reached : Reached start m.stack) (scope : BalanceScope) :
    Reached start (Ending.machine ((scope.finish : SessionM Unit) m)).stack
  | abandon {m : Machine Body Memory} (reached : Reached start m.stack) (scope : BalanceScope) :
    Reached start (Ending.machine ((scope.abandon : SessionM Unit) m)).stack

theorem Reached.bounded {start s : Stack} (h : Reached start s) : start.Bounded s := by
  induction h with
  | start => exact upward.refl start
  | step _ site step ih => exact upward.trans ih (bounded_perform site step _)
  | finish _ scope ih => exact upward.trans ih (BalanceScope.moves_finish upward scope _)
  | abandon _ scope ih => exact upward.trans ih (scope.bounded_abandon _)

theorem reached_report {s : Stack} {m : Machine Body Memory} (h : Reached s m.stack) (step : Step) :
    Reached s (report step m).2.stack := by
  rw [machine_report]
  exact .step (m := cleared m) h _ step

/-- The stack of a session is one that its start becomes. -/
theorem reached_reports {s : Stack} {m : Machine Body Memory} (h : Reached s m.stack)
    (steps : List Step) : Reached s (reports steps m).2.stack := by
  induction steps generalizing m with
  | nil => exact h
  | cons step rest ih => exact ih (reached_report h step)

end Session

/-! ## Positions -/

namespace Stack

variable {s : Stack}

theorem absolute_of_lt {k : Nat} (h : k < s.size) (hle : s.size ≤ maxIndex) :
    s.absolute ((k : Int) + 1) = some ((k : Int) + 1) := by
  have hindex : k + 1 ≤ maxIndex := by omega
  exact absolute_eq_some_iff.mpr ⟨k, hindex, rfl, offset?_position h⟩

theorem absolute_top (hne : s.slots ≠ []) (hle : s.size ≤ maxIndex) :
    s.absolute top = some (s.size : Int) := by
  have hpos : 0 < s.size := List.length_pos_iff.mpr hne
  have hoffset : s.offset? top = some (s.size - 1) := offset?_neg (n := 1) (by omega) hpos
  exact absolute_eq_some_iff.mpr ⟨s.size - 1, by omega, by omega, hoffset⟩

end Stack

open Session

/-- The capacity bounds every stack. No step, body of a callback or end of a scope leaves more than
was there or than the capacity, however it ends. So a stack that starts empty, such as that of a
session, never holds more than its capacity, and a frame never more than that or than the arguments
that it was made of. With a capacity that was chosen among the indices, every slot has a positive
index, and that of the topmost one is the size. -/
theorem reached_within_capacity :
    (∀ (site : Script.Site Body Memory) (m : Machine Body Memory),
      (∀ step, m.stack.Bounded (Ending.machine (perform site step m)).stack) ∧
      (∀ body, m.stack.Bounded (Ending.machine (runBody site body m)).stack) ∧
      (∀ label delta, (BalanceScope.enter label delta : SessionM BalanceScope) m =
        .ok ⟨label, delta, m.stack.size⟩ m) ∧
      (∀ scope : BalanceScope,
        m.stack.Bounded (Ending.machine ((scope.finish : SessionM Unit) m)).stack ∧
        m.stack.Bounded (Ending.machine ((scope.abandon : SessionM Unit) m)).stack)) ∧
    (∀ config s, Reached (.ofConfig config) s → s.config = config ∧ s.size ≤ config.capacity) ∧
    (∀ config steps, Reached (.ofConfig config) (reports steps (start config)).2.stack) ∧
    (∀ args config s, Reached (.frame args config) s →
      s.config = config ∧ s.size ≤ max args.length config.capacity) ∧
    (∀ (config : Config) (capacity : Nat) s, Reached (.ofConfig (config.withCapacity capacity)) s →
      (∀ k < s.size, k + 1 ≤ maxIndex ∧ s.absolute ((k : Int) + 1) = some ((k : Int) + 1)) ∧
      (s.slots ≠ [] → s.absolute top = some (s.size : Int))) := by
  have owned (config : Config) (s : Stack) (h : Reached (.ofConfig config) s) :
      s.config = config ∧ s.size ≤ config.capacity := by
    refine ⟨h.bounded.config, ?_⟩
    have hsize : s.size ≤ max 0 config.capacity := h.bounded.size_le
    rwa [Nat.max_eq_right (Nat.zero_le _)] at hsize
  refine ⟨fun site m => ⟨fun step => bounded_perform site step m,
      fun body => bounded_runBody site body m, fun _ _ => rfl,
      fun scope => ⟨BalanceScope.moves_finish upward scope m, scope.bounded_abandon m⟩⟩,
    owned, fun config steps => reached_reports (m := start config) .start steps, ?_, ?_⟩
  · intro args config s h
    exact ⟨h.bounded.config, h.bounded.size_le⟩
  · intro config capacity s h
    have hle : s.size ≤ maxIndex :=
      Nat.le_trans (owned _ s h).2 (Nat.min_le_right capacity maxIndex)
    exact ⟨fun k hk => ⟨Nat.le_trans hk hle, Stack.absolute_of_lt hk hle⟩,
      fun hne => Stack.absolute_top hne hle⟩

end ScriptBridge
