import ScriptBridge.Proofs.Stack.Invoke
import ScriptBridge.Proofs.Stack.Oblivious

/-!
# Runs above different slots

Two runs that start with the same values on top of two stacks, which have the same size and
configuration but may hold different values: `AgreeAbove` says that they come to the same, that the
values on top are the same afterwards, and that below each run has its own stack as it was. There is
one rule for each action that reaches no deeper than the values on top. What scripts do is the same
as long as they do not see the journal, in which a call shows the whole stack.
-/

namespace ScriptBridge

open HostM

variable {ε ε' β σ α γ : Type}

/-- Two stacks of the same size and configuration. Their slots may differ. -/
structure Stack.Twins (b₁ b₂ : Stack) : Prop where
  size : b₁.size = b₂.size
  config : b₁.config = b₂.config

/-- The machines have the same values on top of two stacks, in worlds that differ in their journals
at most. -/
structure Machine.Above (b₁ b₂ : Stack) (vs : List Value) (m₁ m₂ : Machine β σ) : Prop where
  left : m₁.stack = b₁.extend vs
  right : m₂.stack = b₂.extend vs
  world : m₁.world.Alike m₂.world

namespace HostM

/-- Two runs came to the same above two stacks: `returns` tells the result with the values on top,
and `fails` the error with these. -/
inductive AgreeAbove (b₁ b₂ : Stack) (returns : α → List Value → Prop)
    (fails : ε → List Value → Prop) : Ending ε β σ α → Ending ε β σ α → Prop
  | ok {a : α} {vs : List Value} {m₁ m₂ : Machine β σ} (above : Machine.Above b₁ b₂ vs m₁ m₂)
    (h : returns a vs) : AgreeAbove b₁ b₂ returns fails (.ok a m₁) (.ok a m₂)
  | error {e : ε} {vs : List Value} {m₁ m₂ : Machine β σ} (above : Machine.Above b₁ b₂ vs m₁ m₂)
    (h : fails e vs) :
    AgreeAbove b₁ b₂ returns fails (.error (.error e) m₁) (.error (.error e) m₂)
  | panic {text : String} {vs : List Value} {m₁ m₂ : Machine β σ}
    (above : Machine.Above b₁ b₂ vs m₁ m₂) :
    AgreeAbove b₁ b₂ returns fails (.error (.panic text) m₁) (.error (.panic text) m₂)
  | exhausted {vs : List Value} {m₁ m₂ : Machine β σ} (above : Machine.Above b₁ b₂ vs m₁ m₂) :
    AgreeAbove b₁ b₂ returns fails (.error .exhausted m₁) (.error .exhausted m₂)

/-- What an attempt came to: a result, or an error. -/
def Attempted (returns : α → List Value → Prop) (fails : ε → List Value → Prop) :
    Except ε α → List Value → Prop
  | .ok a, vs => returns a vs
  | .error e, vs => fails e vs

variable {b₁ b₂ : Stack} {vs : List Value} {m₁ m₂ : Machine β σ} {returns : α → List Value → Prop}
  {fails : ε → List Value → Prop}

/-! ## The rules -/

theorem AgreeAbove.mono {returns' : α → List Value → Prop} {fails' : ε → List Value → Prop}
    {r₁ r₂ : Ending ε β σ α} (h : AgreeAbove b₁ b₂ returns' fails' r₁ r₂)
    (hreturns : ∀ a us, returns' a us → returns a us) (hfails : ∀ e us, fails' e us → fails e us) :
    AgreeAbove b₁ b₂ returns fails r₁ r₂ := by
  cases h with
  | ok above h => exact .ok above (hreturns _ _ h)
  | error above h => exact .error above (hfails _ _ h)
  | panic above => exact .panic above
  | exhausted above => exact .exhausted above

theorem above_bind {x₁ x₂ : HostM ε β σ γ} {f₁ f₂ : γ → HostM ε β σ α}
    {between : γ → List Value → Prop} (hx : AgreeAbove b₁ b₂ between fails (x₁ m₁) (x₂ m₂))
    (hf : ∀ c us m₁ m₂, Machine.Above b₁ b₂ us m₁ m₂ → between c us →
      AgreeAbove b₁ b₂ returns fails (f₁ c m₁) (f₂ c m₂)) :
    AgreeAbove b₁ b₂ returns fails ((x₁ >>= f₁) m₁) ((x₂ >>= f₂) m₂) := by
  generalize h₁ : x₁ m₁ = r₁ at hx
  generalize h₂ : x₂ m₂ = r₂ at hx
  cases hx with
  | ok above h =>
    rw [bind_of_ok h₁, bind_of_ok h₂]
    exact hf _ _ _ _ above h
  | error above h =>
    rw [bind_of_error h₁, bind_of_error h₂]
    exact .error above h
  | panic above =>
    rw [bind_of_error h₁, bind_of_error h₂]
    exact .panic above
  | exhausted above =>
    rw [bind_of_error h₁, bind_of_error h₂]
    exact .exhausted above

theorem above_attempt {fails' : ε → List Value → Prop} {x : HostM ε β σ α}
    (hx : AgreeAbove b₁ b₂ returns fails (x m₁) (x m₂)) :
    AgreeAbove b₁ b₂ (Attempted returns fails) fails' (attempt x m₁) (attempt x m₂) := by
  simp only [attempt]
  generalize x m₁ = r₁ at hx
  generalize x m₂ = r₂ at hx
  cases hx with
  | ok above h => exact .ok above h
  | error above h => exact .ok above h
  | panic above => exact .panic above
  | exhausted above => exact .exhausted above

theorem above_mapError {fails' : ε' → List Value → Prop} {f : ε → ε'} {x : HostM ε β σ α}
    (hx : AgreeAbove b₁ b₂ returns fails (x m₁) (x m₂))
    (hfails : ∀ e us, fails e us → fails' (f e) us) :
    AgreeAbove b₁ b₂ returns fails' (mapError f x m₁) (mapError f x m₂) := by
  simp only [mapError, EStateM.adaptExcept]
  generalize x m₁ = r₁ at hx
  generalize x m₂ = r₂ at hx
  cases hx with
  | ok above h => exact .ok above h
  | error above h => exact .error above (hfails _ _ h)
  | panic above => exact .panic above
  | exhausted above => exact .exhausted above

theorem above_discard {x : HostM ε β σ α} {returns : List Value → Prop}
    (hx : AgreeAbove b₁ b₂ (fun _ => returns) fails (x m₁) (x m₂)) :
    AgreeAbove b₁ b₂ (fun _ => returns) fails ((discard x : HostM ε β σ Unit) m₁)
      ((discard x : HostM ε β σ Unit) m₂) := by
  simp only [discard, Functor.mapConst, EStateM.map, Function.comp_apply, Function.const]
  generalize x m₁ = r₁ at hx
  generalize x m₂ = r₂ at hx
  cases hx with
  | ok above h => exact .ok above h
  | error above h => exact .error above h
  | panic above => exact .panic above
  | exhausted above => exact .exhausted above

section Rules

variable (above : Machine.Above b₁ b₂ vs m₁ m₂)
include above

theorem above_pure {a : α} (h : returns a vs) :
    AgreeAbove b₁ b₂ returns fails ((pure a : HostM ε β σ α) m₁) ((pure a : HostM ε β σ α) m₂) :=
  .ok above h

theorem above_fail {e : ε} (h : fails e vs) :
    AgreeAbove b₁ b₂ returns fails ((fail e : HostM ε β σ α) m₁) ((fail e : HostM ε β σ α) m₂) :=
  .error above h

theorem above_stack {f₁ f₂ : Stack → HostM ε β σ α}
    (h : AgreeAbove b₁ b₂ returns fails (f₁ (b₁.extend vs) m₁) (f₂ (b₂.extend vs) m₂)) :
    AgreeAbove b₁ b₂ returns fails ((stack >>= f₁) m₁) ((stack >>= f₂) m₂) := by
  rw [stack_bind, stack_bind, above.left, above.right]
  exact h

theorem above_setStack (us : List Value) :
    AgreeAbove b₁ b₂ (fun _ vs' => vs' = us) fails
      ((setStack (b₁.extend us) : HostM ε β σ Unit) m₁)
      ((setStack (b₂.extend us) : HostM ε β σ Unit) m₂) :=
  .ok ⟨rfl, rfl, above.world⟩ rfl

/-- The journals may show more than the values on top. -/
theorem above_log (level : LogLevel) (text₁ text₂ : String) :
    AgreeAbove b₁ b₂ (fun _ us => us = vs) fails ((log level text₁ : HostM ε β σ Unit) m₁)
      ((log level text₂ : HostM ε β σ Unit) m₂) :=
  .ok ⟨above.left, above.right, above.world.heap, above.world.memory⟩ rfl

theorem above_modifyMemory (f : σ → σ) :
    AgreeAbove b₁ b₂ (fun _ us => us = vs) fails ((modifyMemory f : HostM ε β σ Unit) m₁)
      ((modifyMemory f : HostM ε β σ Unit) m₂) :=
  .ok ⟨above.left, above.right, above.world.heap, congrArg f above.world.memory⟩ rfl

end Rules

end HostM

namespace StackM

variable {b₁ b₂ : Stack} {vs : List Value} {m₁ m₂ : Machine β σ}
  (above : Machine.Above b₁ b₂ vs m₁ m₂)
include above

/-! ## Actions of scripts -/

section Scripts

variable {site : Script.Site β σ} (quiet : Script.Engine.Oblivious site.engine)
  {action : ScriptM β σ α} (oblivious : action.Oblivious)
include quiet oblivious

theorem above_attemptScript {fails : ε → List Value → Prop} :
    AgreeAbove b₁ b₂ (fun _ us => us = vs) fails (attemptScript site action m₁)
      (attemptScript site action m₂) := by
  have hagree := agree_attemptScript (ε := ε) quiet oblivious above.world
  generalize attemptScript site action m₁ = r₁ at hagree
  generalize attemptScript site action m₂ = r₂ at hagree
  cases hagree with
  | ok related =>
    obtain ⟨left, right, world⟩ := related
    exact .ok ⟨left.trans above.left, right.trans above.right, world⟩ rfl
  | @error failure _ _ related =>
    obtain ⟨hstop, left, right, world⟩ := related
    have after := Machine.Above.mk (left.trans above.left) (right.trans above.right) world
    cases failure with
    | error e => exact absurd rfl (hstop e)
    | panic text => exact .panic after
    | exhausted => exact .exhausted after

theorem above_script {fails : StackError → List Value → Prop}
    (hfails : ∀ e, fails (.engine e) vs) :
    AgreeAbove b₁ b₂ (fun _ us => us = vs) fails (script site action m₁)
      (script site action m₂) := by
  refine above_bind (above_attemptScript above quiet oblivious) fun outcome us n₁ n₂ after hus => ?_
  cases outcome with
  | ok a => exact above_pure after hus
  | error e =>
    rw [← hus] at hfails
    exact above_fail after (hfails e)

end Scripts

/-! ## Values on top -/

section Values

variable {fails : StackError → List Value → Prop}

theorem above_view {f : Stack → Except StackError α} {a : α}
    (h₁ : f (b₁.extend vs) = .ok a) (h₂ : f (b₂.extend vs) = .ok a) :
    AgreeAbove b₁ b₂ (fun c us => c = a ∧ us = vs) fails ((view f : StackM β σ α) m₁)
      ((view f : StackM β σ α) m₂) := by
  rw [← above.left] at h₁
  rw [← above.right] at h₂
  rw [view_of_ok h₁, view_of_ok h₂]
  exact .ok above ⟨rfl, rfl⟩

theorem above_take {f : Stack → Except StackError (α × Stack)} {a : α} {us : List Value}
    (h₁ : f (b₁.extend vs) = .ok (a, b₁.extend us))
    (h₂ : f (b₂.extend vs) = .ok (a, b₂.extend us)) :
    AgreeAbove b₁ b₂ (fun c us' => c = a ∧ us' = us) fails ((take f : StackM β σ α) m₁)
      ((take f : StackM β σ α) m₂) := by
  rw [← above.left] at h₁
  rw [← above.right] at h₂
  rw [take_of_ok h₁, take_of_ok h₂]
  exact .ok ⟨rfl, rfl, above.world⟩ ⟨rfl, rfl⟩

theorem above_pop (us ws : List Value) (hvs : vs = us ++ ws) :
    AgreeAbove b₁ b₂ (fun _ us' => us' = us) fails ((pop ws.length : StackM β σ Unit) m₁)
      ((pop ws.length : StackM β σ Unit) m₂) := by
  have h₁ : m₁.stack.pop ws.length = .ok (b₁.extend us) := by
    rw [above.left, hvs, Stack.pop_extend]
  have h₂ : m₂.stack.pop ws.length = .ok (b₂.extend us) := by
    rw [above.right, hvs, Stack.pop_extend]
  unfold pop
  rw [change_of_ok h₁, change_of_ok h₂]
  exact .ok ⟨rfl, rfl, above.world⟩ rfl

variable (twins : b₁.Twins b₂)
include twins

theorem above_pushAll (us : List Value)
    (hfails : ∀ us, fails (.overflow b₁.config.capacity) us) :
    AgreeAbove b₁ b₂ (fun _ us' => us' = vs ++ us ∧
        us.length ≤ b₁.config.capacity - (b₁.size + vs.length)) fails
      ((pushAll us : StackM β σ Unit) m₁) ((pushAll us : StackM β σ Unit) m₂) := by
  have hroom₁ : m₁.stack.config.capacity - m₁.stack.size =
      b₁.config.capacity - (b₁.size + vs.length) := by
    simp only [above.left, Stack.size_extend, Stack.config_extend]
  have hroom₂ : m₂.stack.config.capacity - m₂.stack.size =
      b₁.config.capacity - (b₁.size + vs.length) := by
    simp only [above.right, Stack.size_extend, Stack.config_extend, twins.size, twins.config]
  have hoverflow : m₂.stack.overflow = m₁.stack.overflow := by
    simp only [Stack.overflow, above.left, above.right, Stack.config_extend, twins.config]
  have habove (ws : List Value) : Machine.Above b₁ b₂ (vs ++ ws)
      { m₁ with stack := m₁.stack.extend ws } { m₂ with stack := m₂.stack.extend ws } :=
    ⟨by rw [above.left, Stack.extend_extend], by rw [above.right, Stack.extend_extend],
      above.world⟩
  rw [pushAll_apply, pushAll_apply]
  simp only [hroom₁, hroom₂, hoverflow]
  generalize b₁.config.capacity - (b₁.size + vs.length) = room
  by_cases hlt : room < us.length
  · simp only [if_pos hlt]
    refine .error (habove _) ?_
    rw [Stack.overflow, above.left]
    exact hfails _
  · simp only [if_neg hlt]
    refine .ok (habove _) ⟨?_, Nat.le_of_not_lt hlt⟩
    rw [List.take_of_length_le (Nat.le_of_not_lt hlt)]

theorem above_push (v : Value) (hfails : fails (.overflow b₁.config.capacity) vs) :
    AgreeAbove b₁ b₂ (fun _ us => us = vs ++ [v]) fails ((push v : StackM β σ Unit) m₁)
      ((push v : StackM β σ Unit) m₂) := by
  have hsize : m₂.stack.size = m₁.stack.size := by
    simp only [above.left, above.right, Stack.size_extend, twins.size]
  have hcapacity : m₂.stack.config.capacity = m₁.stack.config.capacity := by
    simp only [above.left, above.right, Stack.config_extend, twins.config]
  have hoverflow : m₂.stack.overflow = m₁.stack.overflow := by
    simp only [Stack.overflow, hcapacity]
  have habove : Machine.Above b₁ b₂ (vs ++ [v])
      { m₁ with stack := m₁.stack.extend [v] } { m₂ with stack := m₂.stack.extend [v] } :=
    ⟨by rw [above.left, Stack.extend_extend], by rw [above.right, Stack.extend_extend],
      above.world⟩
  rw [push_apply, push_apply, hsize, hcapacity, hoverflow]
  split
  · exact .ok habove rfl
  · refine .error above ?_
    rw [Stack.overflow, above.left]
    exact hfails

end Values

/-! ## Globals and fields -/

section Fields

variable (twins : b₁.Twins b₂) {site : Script.Site β σ}
  (quiet : Script.Engine.Oblivious site.engine) {fails : StackError → List Value → Prop}
  (anyhow : ∀ e us, fails e us)
include twins quiet anyhow

theorem above_pushRead {action : ScriptM β σ Value} (oblivious : action.Oblivious) :
    AgreeAbove b₁ b₂ (fun _ us => ∃ v, us = vs ++ [v]) fails
      ((do push (← script site action) : StackM β σ Unit) m₁)
      ((do push (← script site action) : StackM β σ Unit) m₂) := by
  refine above_bind (above_script above quiet oblivious fun e => anyhow _ _)
    fun v us n₁ n₂ read hus => ?_
  refine (above_push read twins v (anyhow _ _)).mono (fun _ us' hus' => ?_) fun _ _ h => h
  exact ⟨v, by rw [hus', hus]⟩

theorem above_pushGlobal (name : String) :
    AgreeAbove b₁ b₂ (fun _ us => ∃ v, us = vs ++ [v]) fails (pushGlobal site name m₁)
      (pushGlobal site name m₂) :=
  above_pushRead above twins quiet anyhow (Script.Site.oblivious_readField quiet _ _)

/-- A field of the table on top. -/
theorem above_pushField {us : List Value} {id : ObjectId} (hvs : vs = us ++ [.table id])
    (key : String) :
    AgreeAbove b₁ b₂ (fun _ us' => ∃ v, us' = vs ++ [v]) fails (pushField site top key m₁)
      (pushField site top key m₂) := by
  have htable (b : Stack) : (b.extend vs).table top = .ok id := by
    rw [hvs, ← Stack.extend_extend, Stack.table_top_extend]
  refine above_bind (above_view above (htable b₁) (htable b₂)) ?_
  rintro _ _ n₁ n₂ found ⟨rfl, rfl⟩
  exact above_pushRead found twins quiet anyhow (Script.Site.oblivious_readField quiet _ _)

/-- The field of the table below a key on top. -/
theorem above_swapField {us : List Value} {id : ObjectId} {key : Value}
    (hvs : vs = us ++ [.table id, key]) :
    AgreeAbove b₁ b₂ (fun _ us' => ∃ v, us' = us ++ [.table id] ++ [v]) fails
      (swapField site (-2) m₁) (swapField site (-2) m₂) := by
  have htable (b : Stack) : (b.extend vs).table (-2) = .ok id := by
    rw [hvs, ← Stack.extend_extend, Stack.table_second_extend]
  have hpop (b : Stack) : (b.extend vs).popValue = .ok (key, b.extend (us ++ [.table id])) := by
    rw [hvs, List.append_cons, ← Stack.extend_extend, Stack.popValue_extend]
  refine above_bind (above_view above (htable b₁) (htable b₂)) ?_
  rintro _ _ n₁ n₂ found ⟨rfl, rfl⟩
  refine above_bind (above_take found (hpop b₁) (hpop b₂)) ?_
  rintro _ _ n₁ n₂ taken ⟨rfl, rfl⟩
  exact above_pushRead taken twins quiet anyhow (Script.Site.oblivious_readField quiet _ _)

end Fields

end StackM

/-! ## Scopes -/

namespace BalanceScope

variable {b₁ b₂ : Stack} {vs : List Value} {m₁ m₂ : Machine β σ} (twins : b₁.Twins b₂)
  (above : Machine.Above b₁ b₂ vs m₁ m₂)
include twins above

theorem above_enter (label : String) (delta : Int) {fails : ε → List Value → Prop} :
    AgreeAbove b₁ b₂ (fun scope us => scope = ⟨label, delta, b₁.size + vs.length⟩ ∧ us = vs) fails
      ((enter label delta : HostM ε β σ BalanceScope) m₁)
      ((enter label delta : HostM ε β σ BalanceScope) m₂) := by
  refine above_stack above ?_
  rw [Stack.size_extend, Stack.size_extend, ← twins.size]
  exact above_pure above ⟨rfl, rfl⟩

theorem above_finish (scope : BalanceScope) {fails : ε → List Value → Prop} :
    AgreeAbove b₁ b₂ (fun _ us => us = vs) fails ((finish scope : HostM ε β σ Unit) m₁)
      ((finish scope : HostM ε β σ Unit) m₂) := by
  refine above_stack above ?_
  rw [Stack.size_extend, Stack.size_extend, Stack.config_extend, Stack.config_extend,
    ← twins.size, ← twins.config]
  split
  · exact above_pure above rfl
  · cases b₁.config.balance with
    | ignore => exact above_pure above rfl
    | log => exact above_log above .error _ _
    | panic => exact .panic above

/-- What is discarded lies above a scope that was entered there. -/
theorem above_abandon {scope : BalanceScope} {k : Nat} (entry : scope.entry = b₁.size + k)
    {fails : ε → List Value → Prop} :
    AgreeAbove b₁ b₂ (fun _ us => us = vs.take k) fails ((abandon scope : HostM ε β σ Unit) m₁)
      ((abandon scope : HostM ε β σ Unit) m₂) := by
  have htruncate (b : Stack) : (b.extend vs).truncate (b.size + k) = b.extend (vs.take k) := by
    simp [Stack.truncate, Stack.extend, Stack.size, List.take_append, List.take_of_length_le]
  have h₂ : scope.entry = b₂.size + k := by rw [entry, twins.size]
  refine above_stack above ?_
  rw [Stack.size_extend, Stack.size_extend, ← twins.size]
  split
  · refine above_bind (above_log above .trace _ _) fun _ us n₁ n₂ logged hus => ?_
    rw [entry, htruncate, twins.size, htruncate]
    exact above_setStack logged _
  next hle =>
    refine above_pure above (List.take_of_length_le ?_).symm
    omega

end BalanceScope

/-! ## Calls -/

/-- The parts of a call that takes values above a stack. -/
theorem Stack.callParts_extend (s : Stack) (pre : List Value) (callee : Value) {args : List Value}
    {inputs : Nat} (outputs : Nat) (count : args.length + 1 = min (inputs + 1) maxCount) :
    (s.extend (pre ++ callee :: args)).callParts inputs outputs 0 =
      if s.config.capacity - (s.slots ++ pre).length < outputs then
        .error (.overflow s.config.capacity)
      else .ok ⟨s.slots ++ pre, callee, args, none⟩ := by
  have hslots : (s.extend (pre ++ callee :: args)).slots = (s.slots ++ pre) ++ callee :: args := by
    rw [slots_extend, List.append_assoc]
  have hsize : (s.extend (pre ++ callee :: args)).size =
      (s.slots ++ pre).length + (args.length + 1) := by
    rw [size, hslots, List.length_append, List.length_cons]
  have henough : ¬ (s.slots ++ pre).length + (args.length + 1) < args.length + 1 := by omega
  simp only [callParts, ← count, hsize, if_neg henough, Nat.add_sub_cancel, hslots,
    List.take_left, List.drop_left, if_true, config_extend, Stack.overflow]
  rfl

section Calls

open StackM

/-- What the failure of a call leaves: its text, if there is room for it. -/
def LeavesText (pre : List Value) (e : StackError) (us : List Value) : Prop :=
  ∀ failure, e = .script failure → ∃ text, us = pre ++ [.text text]

variable {b₁ b₂ : Stack} {vs : List Value} {m₁ m₂ : Machine β σ} {site : Script.Site β σ}

theorem above_reportFault (twins : b₁.Twins b₂) (above : Machine.Above b₁ b₂ vs m₁ m₂)
    (text : String) {returns : Unit → List Value → Prop} :
    AgreeAbove b₁ b₂ returns (LeavesText vs) (reportFault text m₁) (reportFault text m₂) := by
  refine above_bind (above_log above .warn text text) fun _ us n₁ n₂ logged hus => ?_
  have hfull : LeavesText vs (.overflow b₁.config.capacity) us := fun _ h => by cases h
  refine above_bind (above_push logged twins (.text text) hfull)
    fun _ us' n₁ n₂ pushed hus' => ?_
  refine above_fail pushed fun _ _ => ⟨text, ?_⟩
  rw [hus', hus]

theorem above_settleCall (twins : b₁.Twins b₂) (above : Machine.Above b₁ b₂ vs m₁ m₂)
    (outputs : Nat) (outcome : Except String (List Value)) :
    AgreeAbove b₁ b₂ (fun _ us => ∃ results, results.length = outputs ∧ us = vs ++ results)
      (LeavesText vs) (settleCall site outputs none outcome m₁)
      (settleCall site outputs none outcome m₂) := by
  cases outcome with
  | ok results =>
    have hfull (us : List Value) : LeavesText vs (.overflow b₁.config.capacity) us :=
      fun _ h => by cases h
    refine (above_pushAll above twins (fitResults outputs results) hfull).mono
      (fun _ us hus => ?_) fun _ _ h => h
    exact ⟨fitResults outputs results, length_fitResults outputs results, hus.1⟩
  | error text => exact above_reportFault twins above text

variable (quiet : Script.Engine.Oblivious site.engine)
include quiet

theorem above_callOutcome (above : Machine.Above b₁ b₂ vs m₁ m₂) (callee : Value)
    (args : List Value) {fails : StackError → List Value → Prop} :
    AgreeAbove b₁ b₂ (fun _ us => us = vs) fails (callOutcome site callee args m₁)
      (callOutcome site callee args m₂) := by
  by_cases hkind : callee.kind = .function
  · obtain ⟨id, rfl⟩ := eq_function_of_kind hkind
    refine above_bind (above_attemptScript above quiet (oblivious_callFunction quiet id args))
      fun outcome us n₁ n₂ after hus => ?_
    cases outcome <;> exact above_pure after hus
  · rw [callOutcome_of_kind_ne args m₁ hkind, callOutcome_of_kind_ne args m₂ hkind]
    exact .ok above rfl

/-- A call of a function that lies above two stacks comes to the same above both. -/
theorem above_invoke (twins : b₁.Twins b₂) {pre args : List Value} {callee : Value}
    {inputs outputs : Nat} (above : Machine.Above b₁ b₂ (pre ++ callee :: args) m₁ m₂)
    (count : args.length + 1 = min (inputs + 1) maxCount) :
    AgreeAbove b₁ b₂ (fun _ us => ∃ results, results.length = outputs ∧ us = pre ++ results)
      (LeavesText pre) (invoke site inputs outputs 0 m₁) (invoke site inputs outputs 0 m₂) := by
  have hsize : (b₂.slots ++ pre).length = (b₁.slots ++ pre).length := by
    rw [List.length_append, List.length_append]
    exact congrArg (· + pre.length) twins.size.symm
  have h₁ := b₁.callParts_extend pre callee outputs count
  have h₂ := b₂.callParts_extend pre callee outputs count
  rw [← above.left] at h₁
  rw [← above.right, hsize, ← twins.config] at h₂
  by_cases crowded : b₁.config.capacity - (b₁.slots ++ pre).length < outputs
  · rw [if_pos crowded] at h₁ h₂
    rw [invoke_of_refused h₁, invoke_of_refused h₂]
    exact .error above fun _ h => by cases h
  · rw [if_neg crowded] at h₁ h₂
    rw [invoke_of_parts h₁, invoke_of_parts h₂]
    have called : Machine.Above b₁ b₂ pre (m₁.calling (b₁.slots ++ pre) inputs outputs)
        (m₂.calling (b₂.slots ++ pre) inputs outputs) := by
      refine ⟨?_, ?_, above.world.heap, above.world.memory⟩
      · simp only [Machine.calling, above.left]
        rfl
      · simp only [Machine.calling, above.right]
        rfl
    refine above_bind (above_callOutcome quiet called callee args)
      fun outcome us n₁ n₂ after hus => ?_
    subst hus
    exact above_settleCall twins after outputs outcome

end Calls

end ScriptBridge
