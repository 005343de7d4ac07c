import ScriptBridge.Proofs.Record.Bottom

/-!
# Scopes protect the stack

`Step.takesFrom` is the lowest slot that a step takes off a stack. As long as no step that runs in a
scope, however deep within other scopes, takes off a slot that the stack had at the start of the
scope, dropping the scope gives these slots back: `scope_protects`. Calls of functions, hydration
and the steps that add a member to a table or register a callback take off only what they pushed.
-/

namespace ScriptBridge

open HostM StackM

variable {β σ : Type}

namespace Session

/-! ## Fields of their own -/

section Fields

variable {p : List Value} {site : Script.Site Body Memory} {view : TableView}
  {m : Machine Body Memory}

theorem spares_mapOne (mapping : SingleMapping) (hm : m.stack.Holds p) :
    (mapOne site view mapping).Spares p m := by
  unfold mapOne
  split
  · refine spares_bind (spares_attempt (TableView.spares_requireField hm)) fun _ m₁ _ hm₁ => ?_
    split <;> exact spares_pure hm₁
  · refine spares_bind (spares_attempt (TableView.spares_mapField hm)) fun _ m₁ _ hm₁ => ?_
    split <;> exact spares_pure hm₁

theorem spares_mapM_mapOne (mappings : List SingleMapping) (hm : m.stack.Holds p) :
    (mappings.mapM (mapOne site view)).Spares p m := by
  induction mappings generalizing m with
  | nil => exact spares_pure hm
  | cons mapping rest ih =>
    rw [List.mapM_cons]
    refine spares_bind (spares_mapOne mapping hm) fun report m₁ _ hm₁ => ?_
    exact spares_bind (ih hm₁) fun reports m₂ _ hm₂ => spares_pure hm₂

end Fields

/-! ## What a step leaves alone -/

/-- The lowest slot that a step takes off a stack, apart from the steps within it: how many lie
below it. A step that fails before it takes anything off takes none, nor does one that takes off no
more than it pushed itself. -/
def Step.takesFrom (s : Stack) : Step → Option Nat
  | .pop count => if 0 < count ∧ count ≤ s.size then some (s.size - count) else none
  | .popValue | .bindGlobal _ => if 0 < s.size then some (s.size - 1) else none
  | .remove index => s.offset? index
  | .clear => if 0 < s.size then some 0 else none
  | .storeField index _ | .swapField index =>
    match s.table index with
    | .ok _ => some (s.size - 1)
    | .error _ => none
  | .invoke inputs outputs handler =>
    match s.callParts inputs outputs handler with
    | .ok parts => some parts.below.length
    | .error _ => none
  | _ => none

/-- A step takes off none of so many slots at the bottom of a stack. -/
def Step.LeavesAlone (step : Step) (count : Nat) (s : Stack) : Prop :=
  ∀ k, step.takesFrom s = some k → count ≤ k

section Steps

variable {p : List Value} {site : Script.Site Body Memory}

theorem spares_quietly {action : StackM Body Memory Unit} {m : Machine Body Memory}
    (h : action.Spares p m) : (quietly action).Spares p m :=
  spares_bind (spares_mapError h) fun _ _ _ hm' => spares_pure hm'

theorem spares_mapFields {m : Machine Body Memory} (table : String)
    (mappings : List SingleMapping) (hm : m.stack.Holds p) :
    (perform site (.mapFields table mappings)).Spares p m := by
  have hview : (onStack (TableView.ofTop table) : SessionM TableView).Spares p m :=
    spares_mapError (spares_of_moves (moves_ofTop (.holds p) table) hm)
  refine spares_bind hview fun view m₁ _ hm₁ => ?_
  exact spares_bind (spares_mapM_mapOne mappings hm₁) fun reports m₂ _ hm₂ => spares_pure hm₂

/-- A step that takes off the topmost value, if there is one. -/
theorem le_of_takes_top {s : Stack} (hs : s.Holds p)
    (h : ∀ k, (if 0 < s.size then some (s.size - 1) else none) = some k → p.length ≤ k) :
    p.length ≤ s.size - 1 := by
  by_cases hpos : 0 < s.size
  · exact h _ (if_pos hpos)
  · have hle := hs.length_le
    omega

/-- A step without steps within it. -/
theorem spares_perform_of_not_inScope {m : Machine Body Memory} {step : Step}
    (hscope : ∀ label delta steps ending, step ≠ .inScope label delta steps ending)
    (hm : m.stack.Holds p) (halone : step.LeavesAlone p.length m.stack) :
    (perform site step).Spares p m := by
  have up := Upward.holds p
  have hle := hm.length_le
  cases step with
  | pop count =>
    refine spares_quietly (spares_pop hm fun hcount => ?_)
    by_cases hpos : 0 < count
    · exact halone _ (if_pos ⟨hpos, hcount⟩)
    · omega
  | popValue =>
    exact spares_bind (spares_mapError (spares_popValue hm (le_of_takes_top hm halone)))
      fun _ _ _ hm' => spares_pure hm'
  | remove index =>
    exact spares_bind (spares_mapError (spares_remove hm halone)) fun _ _ _ hm' => spares_pure hm'
  | clear =>
    have hnil : p = [] := by
      refine List.eq_nil_of_length_eq_zero (Nat.le_zero.mp ?_)
      by_cases hpos : 0 < m.stack.size
      · exact halone _ (if_pos hpos)
      · omega
    subst hnil
    exact List.nil_prefix
  | bindGlobal name => exact spares_quietly (spares_bindGlobal hm (le_of_takes_top hm halone))
  | storeField index key =>
    refine spares_quietly (spares_storeField hm fun id hid => halone _ ?_)
    simp only [Step.takesFrom, hid]
  | swapField index =>
    refine spares_quietly (spares_swapField hm fun id hid => halone _ ?_)
    simp only [Step.takesFrom, hid]
  | addMember index key a =>
    exact spares_quietly (spares_addMember (moves_pushArg up a) (pushesOne_push _) hm)
  | addCallback index key callback =>
    exact spares_quietly
      (spares_addMember (moves_pushCallback up callback) (pushesOne_pushCallback callback) hm)
  | register callback => exact spares_quietly (spares_register callback hm)
  | install batch =>
    refine spares_bind (spares_mapError (spares_forM (fun callback m => ?_) batch hm))
      fun _ _ _ hm' => spares_pure hm'
    exact spares_register callback
  | invoke inputs outputs handler =>
    refine spares_quietly (spares_invoke hm fun parts hparts => halone _ ?_)
    simp only [Step.takesFrom, hparts]
  | inScope label delta steps ending => exact absurd rfl (hscope label delta steps ending)
  | callFunction use inputs outputs =>
    refine spares_bind (spares_of_moves (moves_memory up) hm) fun memory m₁ _ hm₁ => ?_
    refine spares_bind (ScriptFunction.spares_call hm₁) fun result m₂ _ hm₂ => ?_
    split <;> exact spares_pure hm₂
  | callTyped use inputs types =>
    refine spares_bind (spares_of_moves (moves_memory up) hm) fun memory m₁ _ hm₁ => ?_
    refine spares_bind ?_ fun _ _ _ hm₂ => spares_pure hm₂
    refine spares_bind (ScriptFunction.spares_call hm₁) fun result m₂ _ hm₂ => ?_
    split
    · exact spares_pure hm₂
    · exact spares_fail hm₂
  | hydrate record table schema =>
    refine spares_bind (spares_of_moves (moves_memory up) hm) fun memory m₁ _ hm₁ => ?_
    refine spares_bind (spares_hydrateKeeping hm₁) fun result m₂ _ hm₂ => ?_
    refine spares_bind (spares_of_moves (moves_modifyMemory up _) hm₂) fun _ m₃ _ hm₃ => ?_
    split <;> exact spares_pure hm₃
  | applySchema record table schema =>
    refine spares_bind (spares_of_moves (moves_memory up) hm) fun memory m₁ _ hm₁ => ?_
    refine spares_bind (Schema.spares_applyTopKeeping hm₁) fun result m₂ _ hm₂ => ?_
    refine spares_bind (spares_of_moves (moves_modifyMemory up _) hm₂) fun _ m₃ _ hm₃ => ?_
    split <;> exact spares_pure hm₃
  | mapFields table mappings => exact spares_mapFields table mappings hm
  | _ => exact spares_of_moves (moves_perform_of_onlyPushes up site trivial) hm

end Steps

/-! ## Steps within scopes -/

/-- Nested steps that start on a machine come to run a step on another one, be it one of them or one
of a scope among them. -/
inductive Runs (site : Script.Site Body Memory) :
    String → List Nested → Machine Body Memory → Step → Machine Body Memory → Prop
  | first {place : String} {step : Step} {tolerated : Bool} {rest : List Nested}
    {m : Machine Body Memory} : Runs site place (.mk step tolerated :: rest) m step m
  | within {place label : String} {delta : Int} {steps : List Nested} {ending : ScopeEnd}
    {tolerated : Bool} {rest : List Nested} {m m' : Machine Body Memory} {inner : Step}
    (runs : Runs site ("scope:" ++ label) steps m inner m') :
    Runs site place (.mk (.inScope label delta steps ending) tolerated :: rest) m inner m'
  | later {place : String} {step inner : Step} {tolerated : Bool} {rest : List Nested}
    {m m₁ m₂ m' : Machine Body Memory} {gain : Gain} (gave : perform site step m = .ok gain m₁)
    (noted : note place (.gave gain) m₁ = .ok () m₂) (runs : Runs site place rest m₂ inner m') :
    Runs site place (.mk step tolerated :: rest) m inner m'
  | tolerated {place : String} {step inner : Step} {rest : List Nested}
    {m m₁ m₂ m' : Machine Body Memory} {e : RecordError}
    (failed : perform site step m = .error (.error e) m₁)
    (noted : note place (.failed e) m₁ = .ok () m₂) (runs : Runs site place rest m₂ inner m') :
    Runs site place (.mk step true :: rest) m inner m'

section Runs

variable {p : List Value} {site : Script.Site Body Memory}

theorem spares_inScope {m : Machine Body Memory} {label : String} {delta : Int}
    {steps : List Nested} {ending : ScopeEnd} (hm : m.stack.Holds p)
    (h : (performAll site ("scope:" ++ label) steps).Spares p m) :
    (perform site (.inScope label delta steps ending)).Spares p m := by
  have up := Upward.holds p
  refine spares_bind (spares_of_moves (BalanceScope.moves_enter up label delta) hm)
    fun scope m₁ hentered hm₁ => ?_
  cases hentered
  -- the scope starts above the slots that are spared, so dropping it spares them too
  have hentry : p.length ≤ m.stack.size := hm.length_le
  refine spares_bind (BalanceScope.spares_guarding h hentry) fun _ m₂ _ hm₂ => ?_
  cases ending with
  | finished =>
    exact spares_bind (spares_of_moves (BalanceScope.moves_finish up _) hm₂) fun _ m₃ _ hm₃ =>
      spares_pure hm₃
  | dropped =>
    exact spares_bind (BalanceScope.spares_abandon hm₂ hentry) fun _ m₃ _ hm₃ => spares_pure hm₃

mutual

/-- A step spares the slots that it and the steps within it leave alone. -/
theorem spares_perform {m : Machine Body Memory} (step : Step) (hm : m.stack.Holds p)
    (halone : step.LeavesAlone p.length m.stack)
    (hwithin : ∀ label delta steps ending, step = .inScope label delta steps ending →
      ∀ inner m', Runs site ("scope:" ++ label) steps m inner m' →
        inner.LeavesAlone p.length m'.stack) : (perform site step).Spares p m := by
  cases step with
  | inScope label delta steps ending =>
    exact spares_inScope hm (spares_performAll ("scope:" ++ label) steps hm
      (hwithin label delta steps ending rfl))
  | _ => exact spares_perform_of_not_inScope (fun _ _ _ _ h => nomatch h) hm halone

theorem spares_performAll {m : Machine Body Memory} (place : String) (steps : List Nested)
    (hm : m.stack.Holds p) (halone : ∀ inner m', Runs site place steps m inner m' →
      inner.LeavesAlone p.length m'.stack) : (performAll site place steps).Spares p m := by
  cases steps with
  | nil => exact hm
  | cons nested rest =>
    obtain ⟨step, tolerated⟩ := nested
    have hstep : (perform site step).Spares p m := by
      refine spares_perform step hm (halone step m .first) ?_
      rintro label delta steps ending rfl inner m' hruns
      exact halone inner m' (.within hruns)
    refine spares_bind (spares_attempt hstep) fun outcome m₁ hran hm₁ => ?_
    cases outcome with
    | ok gain =>
      refine spares_bind (spares_of_moves (moves_note (.holds p) place _) hm₁)
        fun _ m₂ hnoted hm₂ => ?_
      refine spares_performAll place rest hm₂ fun inner m' hruns => ?_
      exact halone inner m' (.later (attempt_ok_iff.mp hran) hnoted hruns)
    | error e =>
      refine spares_bind (spares_of_moves (moves_note (.holds p) place _) hm₁)
        fun _ m₂ hnoted hm₂ => ?_
      cases tolerated with
      | true =>
        refine spares_performAll place rest hm₂ fun inner m' hruns => ?_
        exact halone inner m' (.tolerated (attempt_error_iff.mp hran) hnoted hruns)
      | false => exact spares_fail hm₂

end

end Runs

end Session

/-! ## The ends of a scope -/

namespace BalanceScope

variable {ε : Type} (scope : BalanceScope) {m : Machine β σ}

/-- Dropping a scope keeps the slots up to the size at its start, if there are so many. -/
theorem abandon_keeps (m : Machine β σ) :
    ∃ journal, (scope.abandon : HostM ε β σ Unit) m =
      .ok () ⟨{ m.stack with slots := m.stack.slots.take (min m.stack.size scope.entry) },
        { m.world with journal := journal }⟩ := by
  by_cases hlt : scope.entry < m.stack.size
  · have hmin : min m.stack.size scope.entry = scope.entry := Nat.min_eq_right (Nat.le_of_lt hlt)
    rw [abandon_apply, if_pos hlt, hmin]
    exact ⟨_, rfl⟩
  · have hmin : min m.stack.size scope.entry = m.stack.size := by omega
    have hall : m.stack.slots.take m.stack.size = m.stack.slots := List.take_length
    rw [abandon_apply, if_neg hlt, hmin, hall]
    exact ⟨m.world.journal, rfl⟩

theorem finish_of_unbalanced (h : (m.stack.size : Int) ≠ scope.expected) :
    (scope.finish : HostM ε β σ Unit) m =
      match m.stack.config.balance with
      | .ignore => .ok () m
      | .log => .ok () { m with world := { m.world with journal := m.world.journal ++
          [⟨.error, scope.report m.stack.size ++ " " ++ m.stack.dump⟩] } }
      | .panic => .error (.panic (scope.report m.stack.size)) m := by
  simp only [finish, stack_bind, if_neg h]
  cases m.stack.config.balance <;> rfl

end BalanceScope

open Session

/-- Nested steps ran in a scope that was opened on a stack, up to the last of them or to one that
failed. If none of the steps that ran took off a slot that was there at the start, dropping the
scope gives exactly these slots back. Whatever the steps were, dropping it keeps the slots that are
there up to the size at the start, and takes off the others. Finishing it changes no slot, and
reports as the policy says if and only if the size is not the expected one. -/
theorem scope_protects (site : Script.Site Body Memory) (label place : String) (delta : Int)
    (steps : List Nested) (m m₁ : Machine Body Memory) (outcome : Except RecordError Unit)
    (ran : attempt (performAll site place steps) m = .ok outcome m₁) :
    let scope : BalanceScope := ⟨label, delta, m.stack.size⟩
    (BalanceScope.enter label delta : SessionM BalanceScope) m = .ok scope m ∧
    ((∀ step m', Runs site place steps m step m' → step.LeavesAlone m.stack.size m'.stack) →
      ∃ journal, (scope.abandon : SessionM Unit) m₁ =
        .ok () ⟨{ m₁.stack with slots := m.stack.slots }, { m₁.world with journal := journal }⟩) ∧
    (∃ journal, (scope.abandon : SessionM Unit) m₁ =
      .ok () ⟨{ m₁.stack with slots := m₁.stack.slots.take (min m₁.stack.size m.stack.size) },
        { m₁.world with journal := journal }⟩) ∧
    ((m₁.stack.size : Int) = m.stack.size + delta →
      (scope.finish : SessionM Unit) m₁ = .ok () m₁) ∧
    ((m₁.stack.size : Int) ≠ m.stack.size + delta →
      (scope.finish : SessionM Unit) m₁ =
        match m₁.stack.config.balance with
        | .ignore => .ok () m₁
        | .log => .ok () { m₁ with world := { m₁.world with journal := m₁.world.journal ++
            [⟨.error, scope.report m₁.stack.size ++ " " ++ m₁.stack.dump⟩] } }
        | .panic => .error (.panic (scope.report m₁.stack.size)) m₁) := by
  intro scope
  refine ⟨rfl, fun alone => ?_, scope.abandon_keeps m₁, scope.finish_of_balanced,
    scope.finish_of_unbalanced⟩
  -- the slots at the start lie at the bottom of the stack during the whole run
  have hspares : (attempt (performAll site place steps)).Spares m.stack.slots m :=
    spares_attempt (spares_performAll place steps List.prefix_rfl alone)
  have hholds : m.stack.slots <+: m₁.stack.slots := by
    unfold Spares at hspares
    rwa [ran] at hspares
  have htake : m₁.stack.slots.take (min m₁.stack.size m.stack.size) = m.stack.slots := by
    have hmin : min m₁.stack.size m.stack.size = m.stack.slots.length :=
      Nat.min_eq_right hholds.length_le
    rw [hmin, ← List.prefix_iff_eq_take.mp hholds]
  obtain ⟨journal, habandon⟩ := scope.abandon_keeps (ε := RecordError) m₁
  change _ = EStateM.Result.ok () (Machine.mk { m₁.stack with
    slots := m₁.stack.slots.take (min m₁.stack.size m.stack.size) } _) at habandon
  rw [htake] at habandon
  exact ⟨journal, habandon⟩

/-- A value is pushed above one that was there, and too many are popped, which is tolerated. -/
theorem scope_protects_leftover :
    let site : Script.Site Body Memory := .outermost fun _ _ args => return args
    let s : Stack := ⟨[.boolean true], Config.standard, false, []⟩
    let m : Machine Body Memory := ⟨s, ⟨.initial, [], .empty⟩⟩
    let steps : List Nested := [.mk (.push (.given (.integer 1))) false, .mk (.pop 5) true]
    ∃ m₁, attempt (performAll site "scope:s" steps) m = .ok (.ok ()) m₁ ∧
      m₁.stack.slots = [.boolean true, .integer 1] ∧
      (∀ step m', Runs site "scope:s" steps m step m' → step.LeavesAlone 1 m'.stack) ∧
      ∃ journal, (BalanceScope.abandon ⟨"s", 0, 1⟩ : SessionM Unit) m₁ =
        .ok () ⟨s, { m₁.world with journal := journal }⟩ := by
  intro site s m steps
  have alone : ∀ step m', Runs site "scope:s" steps m step m' →
      step.LeavesAlone 1 m'.stack := by
    intro step m' runs k hk
    simp only [steps] at runs
    cases runs with
    | first => cases hk
    | later gave noted runs =>
      cases gave
      cases noted
      cases runs with
      | first => cases hk
      | later gave noted runs => cases gave
      | tolerated failed noted runs => cases runs
  have hran : ∃ m₁, attempt (performAll site "scope:s" steps) m = .ok (.ok ()) m₁ ∧
      m₁.stack = ⟨[.boolean true, .integer 1], Config.standard, false, []⟩ := ⟨_, rfl, rfl⟩
  obtain ⟨m₁, ran, hstack⟩ := hran
  obtain ⟨journal, habandon⟩ :=
    (scope_protects site "s" "scope:s" 0 steps m m₁ (.ok ()) ran).2.1 alone
  refine ⟨m₁, ran, by rw [hstack], alone, journal, ?_⟩
  rw [hstack] at habandon
  exact habandon

end ScriptBridge
