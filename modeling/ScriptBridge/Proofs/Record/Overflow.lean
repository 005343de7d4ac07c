import ScriptBridge.Proofs.Record.Hydrate

/-!
# Hydration without room

Hydration needs a slot for the table of the global and one above it for a key. Every key gives its
slot back, so that the first key finds room or none does: hydration either runs out of room before
it has written anything, or never. `hydrate_overflow` says exactly when it does.
-/

namespace ScriptBridge

open HostM

variable {β σ ι : Type}

/-! ## With room for a key -/

/-- What a plain read comes to is never a failure of the stack. -/
theorem Mapping.read_ne_stack (mapping : Mapping ι) (view : TableView) (h : Heap β)
    (coercion : Coercion) (f : Field) (e : StackError) :
    mapping.read view h coercion f ≠ .error (.stack e) := by
  simp only [read]
  split
  · simp only [TableView.required]
    split <;> simp
  · simp only [TableView.mapped]
    split <;> simp [Except.map]

/-- However long a schema is, plain reads of its keys do not fail for want of room. -/
theorem Schema.resolve_ne_stack [DecidableEq ι] (view : TableView) (h : Heap β)
    (coercion : Coercion) (schema : Schema ι) (r : Record ι) (e : StackError) :
    (schema.resolve view h coercion r).2 ≠ .error (.stack e) := by
  induction schema generalizing r with
  | nil => exact nofun
  | cons mapping rest ih =>
    simp only [resolve]
    cases hread : mapping.read view h coercion (r mapping.field) with
    | ok f => exact ih (r.set mapping.field f)
    | error e' =>
      intro hstack
      cases hstack
      exact mapping.read_ne_stack view h coercion _ e hread

/-! ## With any amount of room -/

/-- A stack has too little room for hydration: none for the value of the global, or none for the
first key above the table. -/
def Stack.CrampsHydration (s : Stack) (h : Heap β) (schema : Schema ι) (tableName : String) : Prop :=
  s.config.capacity ≤ s.size ∨
    s.config.capacity = s.size + 1 ∧ schema ≠ [] ∧ ∃ id, h.field Heap.globals tableName = .table id

section Outcomes

variable [DecidableEq ι] {s : Stack} {h : Heap β} {schema : Schema ι} {tableName : String}

/-- With too little room hydration fails before anything is written. -/
theorem hydratedOn_of_cramped (cramped : s.CrampsHydration h schema tableName) (r : Record ι) :
    hydratedOn s h schema r tableName = (r, .error (.stack s.overflow)) := by
  obtain full | ⟨last, hschema, id, found⟩ := cramped
  · exact hydratedOn_of_full full h schema r tableName
  · have hnonempty : schema.isEmpty = false := by
      cases schema with
      | nil => exact absurd rfl hschema
      | cons mapping rest => rfl
    rw [hydratedOn_of_last (by omega) (by omega) found, hnonempty]
    rfl

/-- With enough room hydration does not fail for want of it. -/
theorem hydratedOn_ne_stack (roomy : ¬ s.CrampsHydration h schema tableName) (r : Record ι)
    (e : StackError) : (hydratedOn s h schema r tableName).2 ≠ .error (.stack e) := by
  have free : s.size < s.config.capacity := Nat.lt_of_not_le fun full => roomy (.inl full)
  by_cases htable : ∃ id, h.field Heap.globals tableName = .table id
  · obtain ⟨id, found⟩ := htable
    by_cases room : s.size + 2 ≤ s.config.capacity
    · rw [hydratedOn_of_found room found]
      have hresolve := schema.resolve_ne_stack ⟨tableName, id⟩ h s.config.coercion r e
      cases houtcome : (schema.resolve ⟨tableName, id⟩ h s.config.coercion r).2 with
      | ok => exact nofun
      | error e' =>
        intro hstack
        cases hstack
        exact hresolve houtcome
    · -- the table takes the last slot, so there is no key to read
      have hempty : schema.isEmpty = true := by
        cases schema with
        | nil => rfl
        | cons mapping rest =>
          exact absurd (.inr ⟨by omega, List.cons_ne_nil _ _, id, found⟩) roomy
      rw [hydratedOn_of_last free (by omega) found, hempty]
      exact nofun
  · rw [hydratedOn_of_no_table free (fun id hid => htable ⟨id, hid⟩)]
    exact nofun

end Outcomes

/-- Hydration from a table that is read plainly ends with a record and an outcome. The outcome is a
failure of the stack exactly when there is no free slot, or when the global is a table, the schema
has a key, and there is only one free slot. The failure is that there is no room, and the record is
as it was then. With two free slots no schema runs out of room. -/
theorem hydrate_overflow [DecidableEq ι] (keep : Record ι → σ → σ) (site : Script.Site β σ)
    (schema : Schema ι) (r : Record ι) (tableName : String) (m : Machine β σ)
    (plain : schema.HydratesPlainly site m.world.heap tableName) :
    ∃ r' outcome m', hydrateKeeping keep site schema r tableName m = .ok (r', outcome) m' ∧
      (∀ e, outcome = .error (.stack e) → e = .overflow m.stack.config.capacity ∧ r' = r) ∧
      ((∃ e, outcome = .error (.stack e)) ↔
        m.stack.CrampsHydration m.world.heap schema tableName) ∧
      (m.stack.size + 2 ≤ m.stack.config.capacity → ∀ e, outcome ≠ .error (.stack e)) := by
  obtain ⟨m', hrun, -⟩ := hydrateKeeping_of_plain (m := m) (r := r) keep plain
  by_cases cramped : m.stack.CrampsHydration m.world.heap schema tableName
  · rw [hydratedOn_of_cramped cramped r] at hrun
    refine ⟨r, _, m', hrun, ?_, ⟨fun _ => cramped, fun _ => ⟨_, rfl⟩⟩, fun room => ?_⟩
    · rintro e ⟨⟩
      exact ⟨rfl, rfl⟩
    · obtain full | ⟨last, -⟩ := cramped <;> omega
  · have hne := hydratedOn_ne_stack cramped r
    generalize hydratedOn m.stack m.world.heap schema r tableName = result at hrun hne
    obtain ⟨r', outcome⟩ := result
    refine ⟨r', outcome, m', hrun, fun e he => absurd he (hne e), ⟨?_, fun h => absurd h cramped⟩,
      fun _ => hne⟩
    rintro ⟨e, he⟩
    exact absurd he (hne e)

/-- A table takes the only free slot, and its first key finds none. -/
theorem hydrate_overflow_last :
    let site : Script.Site Unit Unit := .outermost fun _ _ args => return args
    let globals : Table := Table.empty.set (.text "t") (.table 1)
    let h : Heap Unit := { Heap.initial with
      tables := #[globals, Table.empty.set (.text "a") (.integer 7)] }
    let m : Machine Unit Unit := ⟨.ofConfig (Config.standard.withCapacity 1), ⟨h, [], ()⟩⟩
    let schema : Schema Unit := [⟨"a", true, ()⟩, ⟨"b", false, ()⟩]
    let r : Record Unit := fun _ => .integer .signed64 0
    schema.HydratesPlainly site h "t" ∧ ∃ m',
      hydrateKeeping (fun _ => id) site schema r "t" m = .ok (r, .error (.stack (.overflow 1))) m'
    := by
  intro site globals h m schema r
  have found : h.field Heap.globals "t" = .table 1 := by decide
  have plain : schema.HydratesPlainly site h "t" := by
    refine ⟨.inl rfl, fun id hid mapping _ => ?_⟩
    rw [found] at hid
    cases hid
    exact .inl rfl
  obtain ⟨r', outcome, m', hrun, hstack, hiff, -⟩ :=
    hydrate_overflow (fun _ => id) site schema r "t" m plain
  obtain ⟨e, rfl⟩ := hiff.mpr (.inr ⟨rfl, List.cons_ne_nil _ _, 1, found⟩)
  obtain ⟨rfl, rfl⟩ := hstack e rfl
  exact ⟨plain, m', hrun⟩

end ScriptBridge
