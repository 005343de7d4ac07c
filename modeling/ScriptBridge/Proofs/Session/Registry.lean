import ScriptBridge.Proofs.Session.Sliding
import ScriptBridge.Proofs.Stack.Registration

/-!
# The names of registered callbacks

A stack lists the names that were registered through it, each once and in the order in which they
came first. `Step.registered` says which names a step registers, by the outcome of each
registration, and `adds_perform` that a step adds these names to the list and nothing else, however
it ends. What a callback registers on its frame is listed there: `callbacks_are_registered`.
-/

namespace ScriptBridge

open HostM StackM

variable {ε β σ α γ : Type}

/-! ## Lists of names -/

theorem nodup_eraseDups : ∀ names : List String, names.eraseDups.Nodup
  | [] => List.nodup_nil
  | name :: rest => by
    rw [List.eraseDups_cons, List.nodup_cons]
    constructor
    · intro h
      rw [List.mem_eraseDups, List.mem_filter] at h
      simp at h
    · exact nodup_eraseDups _
termination_by names => names.length
decreasing_by exact Nat.lt_succ_of_le (List.length_filter_le _ _)

/-- The names of the callbacks of a stack are some names, each once, in the order in which they came
first. -/
def Stack.Lists (s : Stack) (names : List String) : Prop :=
  s.callbacks.map Prod.fst = names.eraseDups

/-- Two stacks have the same callbacks. -/
def Stack.SameCallbacks (s s' : Stack) : Prop := s'.callbacks = s.callbacks

theorem Stack.SameCallbacks.upward : Upward Stack.SameCallbacks where
  refl _ := rfl
  trans first second := Eq.trans second first
  push _ _ _ := rfl

theorem Stack.SameCallbacks.downward : Downward Stack.SameCallbacks := fun _ _ _ => rfl

open Stack.SameCallbacks (upward downward)

namespace Stack

variable {s s' : Stack} {names : List String}

theorem Lists.of_same (lists : s.Lists names) (same : s.SameCallbacks s') : s'.Lists names := by
  show s'.callbacks.map Prod.fst = names.eraseDups
  rw [same]
  exact lists

/-- A name that is noted is listed last, or stays where it is. -/
theorem Lists.note (lists : s.Lists names) (name : String) (minArgs : Nat) :
    (s.note name minArgs).Lists (names ++ [name]) := by
  have hmem : (s.callbacks.any fun entry => entry.1 = name) = true ↔ name ∈ names := by
    rw [← List.mem_eraseDups, ← lists]
    simp
  show (s.note name minArgs).callbacks.map Prod.fst = (names ++ [name]).eraseDups
  rw [List.eraseDups_append]
  by_cases known : name ∈ names
  · have hremoved : [name].removeAll names = [] := by simp [List.removeAll, known]
    simp only [Stack.note, if_pos (hmem.mpr known), List.map_map, hremoved, List.eraseDups_nil,
      List.append_nil]
    rw [← lists]
    apply List.map_congr_left
    intro entry _
    by_cases hentry : entry.1 = name
    · simp [hentry]
    · simp [hentry]
  · have hremoved : [name].removeAll names = [name] := by simp [List.removeAll, known]
    have hunknown := fun h => known (hmem.mp h)
    simp only [Stack.note, if_neg hunknown, List.map_append, hremoved]
    rw [lists]
    rfl

end Stack

/-! ## Actions that add names -/

namespace HostM

/-- However an action ends on a machine, its stack lists some more names. -/
def Adds (action : HostM ε β σ α) (m : Machine β σ) (names : List String) : Prop :=
  ∀ known, m.stack.Lists known → (Ending.machine (action m)).stack.Lists (known ++ names)

variable {ε' : Type} {m : Machine β σ} {names : List String}

theorem adds_of_moves {action : HostM ε β σ α} (h : action.Moves Stack.SameCallbacks)
    (m : Machine β σ) : action.Adds m [] := by
  intro known lists
  rw [List.append_nil]
  exact lists.of_same (h m)

theorem adds_then {action : HostM ε β σ γ} {next : γ → HostM ε β σ α} (h : action.Adds m names)
    (hnext : ∀ c, (next c).Moves Stack.SameCallbacks) : (action >>= next).Adds m names := by
  intro known lists
  have hfirst := h known lists
  cases hending : action m with
  | ok c m' =>
    rw [hending] at hfirst
    rw [bind_of_ok hending]
    exact hfirst.of_same (hnext c m')
  | error failure m' =>
    rw [hending] at hfirst
    rw [bind_of_error hending]
    exact hfirst

theorem adds_attempt {action : HostM ε β σ α} (h : action.Adds m names) :
    (attempt action).Adds m names := by
  intro known lists
  have hfirst := h known lists
  simp only [attempt]
  cases hending : action m with
  | ok a m' => rwa [hending] at hfirst
  | error failure m' =>
    rw [hending] at hfirst
    cases failure <;> exact hfirst

theorem adds_mapError {f : ε' → ε} {action : HostM ε' β σ α} (h : action.Adds m names) :
    (mapError f action).Adds m names := by
  intro known lists
  have hfirst := h known lists
  simp only [mapError, EStateM.adaptExcept]
  cases hending : action m <;> rwa [hending] at hfirst

end HostM

namespace StackM

variable (site : Script.Site β σ)

/-- The names that a batch registers, up to the first registration that fails. -/
def registered : CallbackBatch β → Machine β σ → List String
  | [], _ => []
  | callback :: rest, m =>
    match register site callback m with
    | .ok () m' => callback.name :: registered rest m'
    | .error _ _ => []

theorem adds_install (batch : CallbackBatch β) (m : Machine β σ) :
    (install site batch).Adds m (registered site batch m) := by
  induction batch generalizing m with
  | nil => exact adds_of_moves (moves_pure upward ()) m
  | cons callback rest ih =>
    intro known lists
    cases hregister : register site callback m with
    | ok _ m' =>
      have hinstall : install site (callback :: rest) m = install site rest m' :=
        bind_of_ok hregister
      have hnoted : m'.stack.Lists (known ++ [callback.name]) := by
        rw [(registers_of_ok hregister).stack]
        exact lists.note _ _
      simp only [registered, hregister]
      rw [hinstall, List.append_cons]
      exact ih m' _ hnoted
    | error failure m' =>
      have hinstall : install site (callback :: rest) m = .error failure m' :=
        bind_of_error hregister
      simp only [registered, hregister]
      rw [hinstall, List.append_nil]
      show m'.stack.Lists known
      rw [stack_of_register_error hregister]
      exact lists

/-- A single registration is a batch of one. -/
theorem adds_register (callback : Callback β) (m : Machine β σ) :
    (register site callback).Adds m (registered site [callback] m) := by
  intro known lists
  have hbatch := adds_install site [callback] m known lists
  have hinstall : install site [callback] m = (register site callback >>= fun _ => pure ()) m := rfl
  rw [hinstall] at hbatch
  cases hregister : register site callback m with
  | ok _ m' => rwa [bind_of_ok hregister] at hbatch
  | error failure m' => rwa [bind_of_error hregister] at hbatch

end StackM

/-! ## Steps -/

namespace Session

variable (site : Script.Site Body Memory)

mutual

/-- The names that a step registers on the stack on which it runs. The callbacks that it calls have
frames of their own. -/
def Step.registered : Step → Machine Body Memory → List String
  | .register callback, m => StackM.registered site [callback] m
  | .install batch, m => StackM.registered site batch m
  | .inScope label _ steps _, m => registeredAll ("scope:" ++ label) steps m
  | _, _ => []

/-- The names that nested steps register, up to the first that fails and is not tolerated. -/
def registeredAll (place : String) : List Nested → Machine Body Memory → List String
  | [], _ => []
  | .mk step tolerated :: rest, m =>
    Step.registered step m ++
      match performAll site place [.mk step tolerated] m with
      | .ok () m' => registeredAll place rest m'
      | .error _ _ => []

end

theorem performAll_cons (place : String) (nested : Nested) (rest : List Nested) :
    performAll site place (nested :: rest) =
      performAll site place [nested] >>= fun _ => performAll site place rest := by
  obtain ⟨step, tolerated⟩ := nested
  simp only [performAll, bind_assoc]
  congr 1
  funext outcome
  cases outcome with
  | ok gain => simp only [bind_assoc, pure_bind]
  | error e =>
    simp only [bind_assoc]
    congr 1
    funext _
    cases tolerated with
    | true => simp only [if_true, pure_bind]
    | false => rfl

theorem adds_single (place : String) (step : Step) (tolerated : Bool) {m : Machine Body Memory}
    {names : List String} (h : (perform site step).Adds m names) :
    (performAll site place [.mk step tolerated]).Adds m names := by
  apply adds_then (adds_attempt h)
  intro outcome
  cases outcome with
  | ok gain =>
    apply moves_bind upward (moves_note upward place _)
    intro _
    exact moves_pure upward ()
  | error e =>
    apply moves_bind upward (moves_note upward place _)
    intro _
    cases tolerated with
    | true => exact moves_pure upward ()
    | false => exact moves_fail upward e

/-- The ends of a scope leave the list as it is. -/
theorem adds_inScope (label : String) (delta : Int) {steps : List Nested} (ending : ScopeEnd)
    {m : Machine Body Memory} {names : List String}
    (h : (performAll site ("scope:" ++ label) steps).Adds m names) :
    (perform site (.inScope label delta steps ending)).Adds m names := by
  let scope : BalanceScope := ⟨label, delta, m.stack.size⟩
  have hguarded : (scope.guarding (performAll site ("scope:" ++ label) steps)).Adds m names := by
    apply adds_then (adds_attempt h)
    intro outcome
    cases outcome with
    | ok _ => exact moves_pure upward ()
    | error e =>
      apply moves_bind upward (scope.moves_abandon upward downward)
      intro _
      exact moves_fail upward e
  have henter : (BalanceScope.enter label delta : SessionM BalanceScope) m = .ok scope m := rfl
  intro known lists
  simp only [perform]
  rw [bind_of_ok henter]
  apply adds_then hguarded _ known lists
  intro _
  cases ending with
  | finished =>
    apply moves_bind upward (scope.moves_finish upward)
    intro _
    exact moves_pure upward _
  | dropped =>
    apply moves_bind upward (scope.moves_abandon upward downward)
    intro _
    exact moves_pure upward _

mutual

/-- However a step ends, its stack lists the names that it registered, after those listed before. -/
theorem adds_perform (step : Step) (m : Machine Body Memory) :
    (perform site step).Adds m (Step.registered site step m) := by
  cases step with
  | register callback =>
    exact adds_then (adds_mapError (adds_register site callback m)) fun _ => moves_pure upward _
  | install batch =>
    exact adds_then (adds_mapError (adds_install site batch m)) fun _ => moves_pure upward _
  | inScope label delta steps ending =>
    exact adds_inScope site label delta ending (adds_performAll ("scope:" ++ label) steps m)
  | _ => exact adds_of_moves (moves_perform_of_unregistering upward downward site id) m

theorem adds_performAll (place : String) (steps : List Nested) (m : Machine Body Memory) :
    (performAll site place steps).Adds m (registeredAll site place steps m) := by
  cases steps with
  | nil => exact adds_of_moves (moves_pure upward ()) m
  | cons nested rest =>
    obtain ⟨step, tolerated⟩ := nested
    intro known lists
    have hfirst := adds_single site place step tolerated (adds_perform step m) known lists
    rw [performAll_cons]
    simp only [registeredAll]
    cases hsingle : performAll site place [.mk step tolerated] m with
    | ok _ m' =>
      rw [hsingle] at hfirst
      rw [bind_of_ok hsingle, ← List.append_assoc]
      exact adds_performAll place rest m' _ hfirst
    | error failure m' =>
      rw [hsingle] at hfirst
      rw [bind_of_error hsingle, List.append_nil]
      exact hfirst

end

/-! ## Runs -/

/-- What a stack becomes by steps and by the ends of scopes, at any sites and in any worlds, and the
names that were registered on it on the way, in order. -/
inductive Registered (start : Stack) : List String → Stack → Prop
  | start : Registered start [] start
  | step {m : Machine Body Memory} {names : List String}
    (reached : Registered start names m.stack) (site : Script.Site Body Memory) (step : Step) :
    Registered start (names ++ step.registered site m) (Ending.machine (perform site step m)).stack
  | finish {m : Machine Body Memory} {names : List String}
    (reached : Registered start names m.stack) (scope : BalanceScope) :
    Registered start names (Ending.machine ((scope.finish : SessionM Unit) m)).stack
  | abandon {m : Machine Body Memory} {names : List String}
    (reached : Registered start names m.stack) (scope : BalanceScope) :
    Registered start names (Ending.machine ((scope.abandon : SessionM Unit) m)).stack

theorem Registered.lists {start s : Stack} {names : List String}
    (h : Registered start names s) (hstart : start.callbacks = []) : s.Lists names := by
  induction h with
  | start =>
    show start.callbacks.map Prod.fst = _
    rw [hstart]
    rfl
  | step _ site step ih => exact adds_perform site step _ _ ih
  | finish _ scope ih => exact ih.of_same (scope.moves_finish upward _)
  | abandon _ scope ih => exact ih.of_same (scope.moves_abandon upward downward _)

/-- The steps of a session register names one after the other. -/
theorem registered_reports {start : Stack} {m : Machine Body Memory} {names : List String}
    (h : Registered start names m.stack) (steps : List Step) :
    ∃ more, Registered start (names ++ more) (reports steps m).2.stack := by
  induction steps generalizing m names with
  | nil => exact ⟨[], by rwa [List.append_nil]⟩
  | cons step rest ih =>
    let site := hostSite runBody
    have hstep : Registered start (names ++ step.registered site (cleared m))
        (report step m).2.stack := by
      rw [machine_report]
      exact .step (m := cleared m) h site step
    obtain ⟨more, hrest⟩ := ih hstep
    rw [List.append_assoc] at hrest
    exact ⟨_, hrest⟩

end Session

open Session

/-- A stack lists the names that were registered through it, each once and in the order in which
they came first. This holds of a stack that starts empty and of the frame of a callback, through any
steps at any sites, and of the stack of a session. A step adds what it registers, however it ends: a
registration that fails leaves the stack as it was, and a call adds nothing, whatever the callee
registers on its frame. A registration that is done leaves the slots. It binds the global of its
name to the callback and nothing else, unless a metamethod of the globals takes the write. -/
theorem callbacks_are_registered :
    (∀ config names s, Registered (.ofConfig config) names s →
      s.Lists names ∧ (s.callbacks.map Prod.fst).Nodup) ∧
    (∀ args config names s, Registered (.frame args config) names s →
      s.Lists names ∧ (s.callbacks.map Prod.fst).Nodup) ∧
    (∀ config steps, ∃ names,
      Registered (.ofConfig config) names (reports steps (start config)).2.stack) ∧
    (∀ (site : Script.Site Body Memory) step m, (perform site step).Adds m
      (step.registered site m)) ∧
    (∀ (site : Script.Site Body Memory) step m, ¬ step.Registers →
      (Ending.machine (perform site step m)).stack.callbacks = m.stack.callbacks) ∧
    (∀ (site : Script.Site β σ) callback m failure m',
      register site callback m = .error failure m' → m'.stack = m.stack) ∧
    (∀ (site : Script.Site β σ) callback m m', register site callback m = .ok () m' →
      m'.stack.slots = m.stack.slots ∧
      (Heap.globals < m.world.heap.tables.size →
        m.world.heap.WritesRaw Heap.globals callback.name →
        m.world.heap.Binds m'.world.heap callback m.stack.config)) := by
  have hlists : ∀ start names s, start.callbacks = [] → Registered start names s →
      s.Lists names ∧ (s.callbacks.map Prod.fst).Nodup := by
    intro start names s hstart run
    have lists := run.lists hstart
    refine ⟨lists, ?_⟩
    rw [show s.callbacks.map Prod.fst = names.eraseDups from lists]
    exact nodup_eraseDups names
  refine ⟨?_, ?_, ?_, ?_, ?_, ?_, ?_⟩
  · intro config names s run
    exact hlists _ names s rfl run
  · intro args config names s run
    exact hlists _ names s rfl run
  · intro config steps
    exact registered_reports (m := Session.start config) .start steps
  · intro site step m
    exact adds_perform site step m
  · intro site step m unregistering
    exact moves_perform_of_unregistering upward downward site unregistering m
  · intro site callback m failure m' run
    exact stack_of_register_error run
  · intro site callback m m' run
    have registers := registers_of_ok run
    exact ⟨by rw [registers.stack]; rfl, registers.binds⟩

/-- Two callbacks are installed, and then another one of the first name is registered: the name
stays in its place, and the global is the later function. -/
theorem callbacks_are_registered_again :
    let site : Script.Site Body Memory := hostSite runBody
    let f (n : Nat) : Callback Body := ⟨"f", n, .mk "f" [] (.count 0)⟩
    let g : Callback Body := ⟨"g", 0, .mk "g" [] (.count 0)⟩
    let begun : Machine Body Memory :=
      ⟨.ofConfig (Config.standard.withCapacity 1), ⟨.initial, [], .empty⟩⟩
    let m := Ending.machine (perform site (.install [f 0, g]) begun)
    ∃ m', register site (f 1) m = .ok () m' ∧ m'.stack.slots = m.stack.slots ∧
      m'.stack.callbacks.map Prod.fst = ["f", "g"] ∧
      m.world.heap.Binds m'.world.heap (f 1) m.stack.config := by
  intro site f g begun m
  obtain ⟨howned, -, -, -, -, -, hregister⟩ := callbacks_are_registered (β := Body) (σ := Memory)
  have hfirst : Step.registered site (.install [f 0, g]) begun = ["f", "g"] := by decide +kernel
  have hinstalled : Registered begun.stack ([] ++ Step.registered site (.install [f 0, g]) begun)
      m.stack := .step (m := begun) .start site (.install [f 0, g])
  rw [hfirst, List.nil_append] at hinstalled
  have known : Heap.globals < m.world.heap.tables.size := by decide +kernel
  have bare : (m.world.heap.table Heap.globals).metatable = none := by decide +kernel
  have free : m.stack.size < m.stack.config.capacity := by decide +kernel
  -- nothing else about the machine matters from here on
  clear_value m site
  have plain : site.WritesPlainly m.world.heap Heap.globals (f 1).name := ⟨known, .inl bare⟩
  obtain ⟨m', hrun, -⟩ := register_of_plain plain free
  have hagain : Registered begun.stack ["f", "g", "f"] m'.stack := by
    have hstep : Registered begun.stack (["f", "g"] ++ Step.registered site (.register (f 1)) m)
        (Ending.machine (perform site (.register (f 1)) m)).stack :=
      .step (m := m) hinstalled site (.register (f 1))
    have hlifted : onStack (register site (f 1)) m = .ok () m' := mapError_of_ok hrun
    have hperform : perform site (.register (f 1)) m = .ok .nothing m' := bind_of_ok hlifted
    simp only [hperform, Step.registered, registered, hrun] at hstep
    exact hstep
  obtain ⟨hslots, hbinds⟩ := hregister site (f 1) m m' hrun
  exact ⟨m', hrun, hslots, (howned _ _ _ hagain).1, hbinds known (.inl bare)⟩

/-- Globals whose metatable takes new names for itself and drops them: a callback is registered and
listed, and the global of its name is still nil. -/
theorem register_taken_over :
    let globals : Table := { Table.empty with metatable := some 1 }
    let metatable : Table := { Table.empty with entries := [(.text "__newindex", .function 0)] }
    let h : Heap Body := { (Heap.initial : Heap Body) with
      tables := #[globals, metatable], functions := #[.inert] }
    let m : Machine Body Memory := ⟨.ofConfig Config.standard, ⟨h, [], .empty⟩⟩
    let f : Callback Body := ⟨"f", 0, .mk "f" [] (.count 0)⟩
    ∃ m', register (hostSite runBody) f m = .ok () m' ∧
      m'.stack.callbacks.map Prod.fst = ["f"] ∧
      (m'.world.heap.table Heap.globals).get (.text "f") = .nil :=
  ⟨_, rfl, rfl, rfl⟩

end ScriptBridge
