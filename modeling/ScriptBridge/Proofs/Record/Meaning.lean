import ScriptBridge.Proofs.Record.Hydrate

/-!
# The meaning of hydration

A mapping is blocked when the value under its key does not fit its field and may not be passed over.
Hydration stops at the first mapping that is blocked. The mappings before it, or all of them when
none is, fill every field with what the last fitting value converts to: `hydrate_meaning`. Whether a
value fits, and what it converts to, does not depend on what was written to the field before.
-/

namespace ScriptBridge

open HostM

variable {β σ ι : Type}

/-! ## Fields that take the same values -/

theorem Arg.accept?_of_accept? {a b : Arg} {v : Value} (h : a.accept? v = some b) (u : Value) :
    b.accept? u = a.accept? u := by
  cases a <;> cases v <;> simp only [Arg.accept?, Option.some.injEq, reduceCtorEq] at h <;>
    subst h <;> cases u <;> rfl

/-- Two fields take the same values in the same way, and messages name the same type for them. -/
structure Field.Alike (f g : Field) : Prop where
  assign : ∀ site v, f.assign? site v = g.assign? site v
  expected : f.expected = g.expected

theorem Field.alike_of_assign? {f g : Field} {site : FieldSite} {v : Value}
    (h : f.assign? site v = some g) : g.Alike f := by
  cases f with
  | arg a =>
    obtain ⟨b, hb, rfl⟩ := Option.map_eq_some_iff.mp h
    refine ⟨fun site' u => ?_, ?_⟩
    · simp only [Field.assign?, Arg.accept?_of_accept? hb]
    · cases a <;> cases v <;> simp only [Arg.accept?, Option.some.injEq, reduceCtorEq] at hb <;>
        subst hb <;> rfl
  | integer w i =>
    obtain ⟨j, -, hj⟩ := Option.bind_eq_some_iff.mp h
    split at hj <;> cases hj
    exact ⟨fun _ _ => rfl, rfl⟩
  | _ =>
    cases v <;> simp only [Field.assign?, Option.some.injEq, reduceCtorEq] at h <;> subst h <;>
      exact ⟨fun _ u => by cases u <;> rfl, rfl⟩

/-- Two records take the same values in the same way. -/
def Record.Alike (r r' : Record ι) : Prop := ∀ i, (r i).Alike (r' i)

/-! ## Blocked mappings -/

namespace Mapping

variable (mapping : Mapping ι) (view : TableView) (h : Heap β) (coercion : Coercion)
  (r : Record ι)

/-- What the value under the key converts to, when it fits the field. -/
def conversion : Option Field := view.fitted h (r mapping.field) mapping.key

/-- The value under the key does not fit the field and may not be passed over. -/
def Blocked : Prop :=
  mapping.conversion view h r = none ∧
    (mapping.isRequired = true ∨ coercion = .strict ∧ view.value h mapping.key ≠ .nil)

/-- The error that a blocked mapping is reported with. -/
def refusal : RecordError :=
  let expected := (r mapping.field).expected
  let found := (view.value h mapping.key).kind
  if mapping.isRequired then .missingField view.name mapping.key expected found
  else .fieldType view.name mapping.key expected found

/-- The record after a mapping that is not blocked. -/
def filling [DecidableEq ι] : Record ι :=
  r.set mapping.field ((mapping.conversion view h r).getD (r mapping.field))

end Mapping

theorem Value.kind_eq_nil_iff (v : Value) : v.kind = .nil ↔ v = .nil := by
  cases v <;> simp [Value.kind]

section Reads

variable {mapping : Mapping ι} {view : TableView} {h : Heap β} {coercion : Coercion}
  {r r' : Record ι}

theorem Mapping.read_of_blocked (blocked : mapping.Blocked view h coercion r) :
    mapping.read view h coercion (r mapping.field) = .error (mapping.refusal view h r) := by
  obtain ⟨hconversion, hreason⟩ := blocked
  have hfitted : view.fitted h (r mapping.field) mapping.key = none := hconversion
  by_cases hrequired : mapping.isRequired = true
  · simp only [Mapping.read, Mapping.refusal, hrequired, if_true, TableView.required, hfitted]
  · obtain ⟨hstrict, hvalue⟩ := hreason.resolve_left hrequired
    have hkind : (view.value h mapping.key).kind ≠ .nil :=
      fun hnil => hvalue ((Value.kind_eq_nil_iff _).mp hnil)
    simp only [Mapping.read, Mapping.refusal, if_neg hrequired, TableView.mapped,
      if_pos (And.intro hfitted (And.intro hkind hstrict))]
    rfl

theorem Mapping.read_of_not_blocked (free : ¬ mapping.Blocked view h coercion r) :
    mapping.read view h coercion (r mapping.field) =
      .ok ((mapping.conversion view h r).getD (r mapping.field)) := by
  by_cases hrequired : mapping.isRequired = true
  · cases hfitted : view.fitted h (r mapping.field) mapping.key with
    | none => exact absurd ⟨hfitted, .inl hrequired⟩ free
    | some f =>
      simp only [Mapping.read, hrequired, if_true, TableView.required, Mapping.conversion, hfitted]
      rfl
  · have hpassed : ¬ (view.fitted h (r mapping.field) mapping.key = none ∧
        (view.value h mapping.key).kind ≠ .nil ∧ coercion = .strict) := by
      rintro ⟨hfitted, hkind, hstrict⟩
      refine free ⟨hfitted, .inr ⟨hstrict, fun hnil => hkind ?_⟩⟩
      rw [hnil]
      rfl
    simp only [Mapping.read, if_neg hrequired, TableView.mapped, if_neg hpassed]
    rfl

/-! ## What was written before makes no difference -/

theorem Mapping.alike_filling [DecidableEq ι] (mapping : Mapping ι) (view : TableView)
    (h : Heap β) (r : Record ι) : (mapping.filling view h r).Alike r := by
  intro i
  by_cases hi : i = mapping.field
  · subst hi
    have hset : mapping.filling view h r mapping.field =
        (mapping.conversion view h r).getD (r mapping.field) := if_pos rfl
    rw [hset]
    cases hconversion : mapping.conversion view h r with
    | none => exact ⟨fun _ _ => rfl, rfl⟩
    | some f => exact Field.alike_of_assign? hconversion
  · have hset : mapping.filling view h r i = r i := if_neg hi
    rw [hset]
    exact ⟨fun _ _ => rfl, rfl⟩

theorem Mapping.conversion_of_alike (mapping : Mapping ι) (view : TableView) (h : Heap β)
    (alike : r'.Alike r) : mapping.conversion view h r' = mapping.conversion view h r :=
  (alike mapping.field).assign _ _

theorem Mapping.blocked_iff_of_alike (alike : r'.Alike r) :
    mapping.Blocked view h coercion r' ↔ mapping.Blocked view h coercion r := by
  simp only [Mapping.Blocked, mapping.conversion_of_alike view h alike]

theorem Mapping.refusal_of_alike (alike : r'.Alike r) :
    mapping.refusal view h r' = mapping.refusal view h r := by
  simp only [Mapping.refusal, (alike mapping.field).expected]

end Reads

/-! ## Filled records -/

namespace Schema

variable [DecidableEq ι] {view : TableView} {h : Heap β} {coercion : Coercion}

/-- The record with every field that a schema names filled with what the last fitting value for it
converts to. -/
def filled (schema : Schema ι) (view : TableView) (h : Heap β) (r : Record ι) : Record ι :=
  fun i => ((schema.filter (·.field = i)).filterMap (·.conversion view h r)).getLast?.getD (r i)

/-- A field for which there is no fitting value stays as it is. -/
theorem filled_of_none {schema : Schema ι} {r : Record ι} {i : ι}
    (unfit : ∀ b ∈ schema, b.field = i → b.conversion view h r = none) :
    schema.filled view h r i = r i := by
  have hnil : (schema.filter (·.field = i)).filterMap (·.conversion view h r) = [] := by
    refine List.filterMap_eq_nil_iff.mpr fun b hb => ?_
    obtain ⟨hmem, hfield⟩ := List.mem_filter.mp hb
    exact unfit b hmem (of_decide_eq_true hfield)
  simp only [filled, hnil, List.getLast?_nil, Option.getD_none]

/-- A field that did not stay as it is holds what the value of one of its mappings converts to. -/
theorem exists_conversion_of_filled_ne {schema : Schema ι} {r : Record ι} {i : ι}
    (changed : schema.filled view h r i ≠ r i) :
    ∃ b ∈ schema, b.field = i ∧ b.conversion view h r = some (schema.filled view h r i) := by
  cases hlast : ((schema.filter (·.field = i)).filterMap (·.conversion view h r)).getLast? with
  | none =>
    refine absurd ?_ changed
    simp only [filled, hlast, Option.getD_none]
  | some f =>
    have hfilled : schema.filled view h r i = f := by simp only [filled, hlast, Option.getD_some]
    obtain ⟨b, hb, hconversion⟩ := List.mem_filterMap.mp (List.mem_of_getLast? hlast)
    obtain ⟨hmem, hfield⟩ := List.mem_filter.mp hb
    exact ⟨b, hmem, of_decide_eq_true hfield, by rw [hfilled, hconversion]⟩

theorem filled_cons (mapping : Mapping ι) (rest : Schema ι) (r : Record ι) :
    filled (mapping :: rest) view h r = filled rest view h (mapping.filling view h r) := by
  funext i
  have hconversion (other : Mapping ι) :
      other.conversion view h (mapping.filling view h r) = other.conversion view h r :=
    other.conversion_of_alike view h (mapping.alike_filling view h r)
  simp only [filled, hconversion]
  by_cases hi : mapping.field = i
  · have hset : mapping.filling view h r i = (mapping.conversion view h r).getD (r i) := by
      subst hi
      exact if_pos rfl
    rw [hset, List.filter_cons, if_pos (decide_eq_true hi)]
    cases hfit : mapping.conversion view h r with
    | none => simp only [List.filterMap_cons, hfit, Option.getD_none]
    | some f =>
      simp only [List.filterMap_cons, hfit, List.getLast?_cons, Option.getD_some]
  · have hset : mapping.filling view h r i = r i := if_neg fun h => hi h.symm
    rw [hset, List.filter_cons_of_neg (by simpa using hi)]

/-- A filled record takes the same values as before. -/
theorem alike_filled (schema : Schema ι) (view : TableView) (h : Heap β) (r : Record ι) :
    (schema.filled view h r).Alike r := by
  induction schema generalizing r with
  | nil => exact fun i => ⟨fun _ _ => rfl, rfl⟩
  | cons mapping rest ih =>
    rw [filled_cons]
    intro i
    have hrest := ih (mapping.filling view h r) i
    have hfirst := mapping.alike_filling view h r i
    exact ⟨fun site v => (hrest.assign site v).trans (hfirst.assign site v),
      hrest.expected.trans hfirst.expected⟩

/-- Plain reads go on after mappings that are not blocked, with the record that these filled. -/
theorem resolve_append {before : Schema ι} (after : Schema ι) {r : Record ι}
    (free : ∀ b ∈ before, ¬ b.Blocked view h coercion r) :
    resolve view h coercion (before ++ after) r =
      resolve view h coercion after (before.filled view h r) := by
  induction before generalizing r with
  | nil => rfl
  | cons mapping rest ih =>
    have halike := mapping.alike_filling view h r
    have hrest : ∀ b ∈ rest, ¬ b.Blocked view h coercion (mapping.filling view h r) := by
      intro b hb
      rw [Mapping.blocked_iff_of_alike halike]
      exact free b (List.mem_cons_of_mem mapping hb)
    simp only [List.cons_append, resolve,
      Mapping.read_of_not_blocked (free mapping List.mem_cons_self)]
    rw [filled_cons]
    exact ih hrest

/-- Without blocked mappings, plain reads fill the whole record. -/
theorem resolve_of_not_blocked {schema : Schema ι} {r : Record ι}
    (free : ∀ b ∈ schema, ¬ b.Blocked view h coercion r) :
    schema.resolve view h coercion r = (schema.filled view h r, .ok ()) := by
  have happend := resolve_append [] free
  rwa [List.append_nil] at happend

/-- Plain reads stop at the first blocked mapping. -/
theorem resolve_of_blocked {before after : Schema ι} {b : Mapping ι} {r : Record ι}
    (free : ∀ c ∈ before, ¬ c.Blocked view h coercion r) (blocked : b.Blocked view h coercion r) :
    resolve view h coercion (before ++ b :: after) r =
      (filled before view h r, .error (b.refusal view h r)) := by
  have halike := before.alike_filled view h r
  have hblocked := (Mapping.blocked_iff_of_alike halike).mpr blocked
  rw [resolve_append (b :: after) free]
  simp only [resolve, Mapping.read_of_blocked hblocked, Mapping.refusal_of_alike halike]

/-- Plain reads go through the whole schema, or they stop at the first mapping that is blocked. -/
theorem resolve_cases (schema : Schema ι) (view : TableView) (h : Heap β) (coercion : Coercion)
    (r : Record ι) :
    ((∀ b ∈ schema, ¬ b.Blocked view h coercion r) ∧
      schema.resolve view h coercion r = (schema.filled view h r, .ok ())) ∨
    ∃ before b after, schema = before ++ b :: after ∧
      (∀ c ∈ before, ¬ c.Blocked view h coercion r) ∧ b.Blocked view h coercion r ∧
      schema.resolve view h coercion r =
        (filled before view h r, .error (b.refusal view h r)) := by
  classical
  cases hfirst : schema.find? (fun b => decide (b.Blocked view h coercion r)) with
  | none =>
    have free : ∀ b ∈ schema, ¬ b.Blocked view h coercion r := by
      simpa using List.find?_eq_none.mp hfirst
    exact .inl ⟨free, resolve_of_not_blocked free⟩
  | some b =>
    obtain ⟨hblocked, before, after, rfl, hbefore⟩ := List.find?_eq_some_iff_append.mp hfirst
    have free : ∀ c ∈ before, ¬ c.Blocked view h coercion r := by simpa using hbefore
    have blocked : b.Blocked view h coercion r := of_decide_eq_true hblocked
    exact .inr ⟨before, b, after, rfl, free, blocked, resolve_of_blocked free blocked⟩

/-- What plain reads changed holds what the value of one of its mappings converts to. -/
theorem exists_conversion_of_resolve_ne {schema : Schema ι} {r : Record ι} {i : ι}
    (changed : (schema.resolve view h coercion r).1 i ≠ r i) :
    ∃ b ∈ schema, b.field = i ∧
      b.conversion view h r = some ((schema.resolve view h coercion r).1 i) := by
  obtain ⟨-, hresolve⟩ | ⟨before, b, after, rfl, -, -, hresolve⟩ :=
    schema.resolve_cases view h coercion r
  · rw [hresolve] at changed ⊢
    exact exists_conversion_of_filled_ne changed
  · rw [hresolve] at changed ⊢
    obtain ⟨c, hc, hconversion⟩ := exists_conversion_of_filled_ne changed
    exact ⟨c, List.mem_append_left _ hc, hconversion⟩

/-- A field that no mapping names is never written. -/
theorem resolve_apart {schema : Schema ι} {i : ι} (apart : ∀ b ∈ schema, b.field ≠ i)
    (r : Record ι) : (schema.resolve view h coercion r).1 i = r i := by
  induction schema generalizing r with
  | nil => rfl
  | cons mapping rest ih =>
    simp only [resolve]
    cases mapping.read view h coercion (r mapping.field) with
    | ok f =>
      have hset : r.set mapping.field f i = r i :=
        if_neg fun hi => apart mapping List.mem_cons_self hi.symm
      exact (ih (fun b hb => apart b (List.mem_cons_of_mem mapping hb)) _).trans hset
    | error e => rfl

/-- A fitting value that is reached stays in its field when no later mapping names that, wherever
the plain reads stop after it. -/
theorem resolve_of_last {before after : Schema ι} {b : Mapping ι} {r : Record ι} {f : Field}
    (free : ∀ c ∈ before, ¬ c.Blocked view h coercion r)
    (fits : b.conversion view h r = some f) (last : ∀ c ∈ after, c.field ≠ b.field) :
    (resolve view h coercion (before ++ b :: after) r).1 b.field = f := by
  have halike := before.alike_filled view h r
  have hfits : b.conversion view h (before.filled view h r) = some f := by
    rw [b.conversion_of_alike view h halike, fits]
  have hfree : ¬ b.Blocked view h coercion (before.filled view h r) := by
    rintro ⟨hnone, -⟩
    rw [hfits] at hnone
    cases hnone
  rw [resolve_append (b :: after) free]
  simp only [resolve, Mapping.read_of_not_blocked hfree, hfits, Option.getD_some]
  rw [resolve_apart last]
  exact if_pos rfl

end Schema

/-- Hydration from a table that is read plainly, with room for the table and a key. When no mapping
is blocked, it reports success, and every field holds what the last fitting value for it converts
to. Otherwise it is refused at the first blocked mapping, and the record is as the mappings before
that one leave it: a field for which none of them has a fitting value is as it was. -/
theorem hydrate_meaning [DecidableEq ι] (keep : Record ι → σ → σ) (site : Script.Site β σ)
    (schema : Schema ι) (r : Record ι) (tableName : String) (id : ObjectId) (m : Machine β σ)
    (found : m.world.heap.field Heap.globals tableName = .table id)
    (plain : schema.HydratesPlainly site m.world.heap tableName)
    (room : m.stack.size + 2 ≤ m.stack.config.capacity) :
    let view : TableView := ⟨tableName, id⟩
    let h := m.world.heap
    let coercion := m.stack.config.coercion
    (hydrateKeeping keep site schema r tableName).Ends m
      (fun result _ =>
        ((∀ b ∈ schema, ¬ b.Blocked view h coercion r) →
          result = (schema.filled view h r, .ok true)) ∧
        ∀ before b after, schema = before ++ b :: after →
          (∀ c ∈ before, ¬ c.Blocked view h coercion r) → b.Blocked view h coercion r →
          result = (Schema.filled before view h r, .error (b.refusal view h r)) ∧
          ∀ i, (∀ c ∈ before, c.field = i → c.conversion view h r = none) → result.1 i = r i)
      (fun _ _ => False) (fun _ => False) := by
  intro view h coercion
  refine (ends_hydrateKeeping site keep schema r tableName m).mono ?_ (fun _ _ h => h)
    (fun _ hnot => hnot plain)
  rintro result m' ⟨-, hresult⟩
  rw [hresult plain room, found]
  refine ⟨fun free => ?_, ?_⟩
  · have hresolve : schema.resolve ⟨tableName, id⟩ m.world.heap m.stack.config.coercion r =
        (schema.filled view h r, .ok ()) := Schema.resolve_of_not_blocked free
    simp only [hydrated, hresolve]
    rfl
  · rintro before b after rfl free blocked
    have hresolve : Schema.resolve ⟨tableName, id⟩ m.world.heap m.stack.config.coercion
        (before ++ b :: after) r = (Schema.filled before view h r, .error (b.refusal view h r)) :=
      Schema.resolve_of_blocked free blocked
    simp only [hydrated, hresolve]
    exact ⟨rfl, fun i unfit => Schema.filled_of_none unfit⟩

/-- A table holds the first of two required integers. -/
theorem hydrate_meaning_missing :
    let site : Script.Site Unit Unit := .outermost fun _ _ args => return args
    let globals : Table := Table.empty.set (.text "t") (.table 1)
    let h : Heap Unit := { Heap.initial with
      tables := #[globals, Table.empty.set (.text "a") (.integer 7)] }
    let m : Machine Unit Unit := ⟨.ofConfig (Config.standard.withCapacity 2), ⟨h, [], ()⟩⟩
    let schema : Schema Bool := [⟨"a", true, false⟩, ⟨"b", true, true⟩]
    let r : Record Bool := fun _ => .integer .signed64 0
    h.field Heap.globals "t" = .table 1 ∧ schema.HydratesPlainly site h "t" ∧
    m.stack.size + 2 ≤ m.stack.config.capacity ∧
    ∃ result m', hydrateKeeping (fun _ => id) site schema r "t" m = .ok result m' ∧
      result.2 = .error (.missingField "t" "b" "integer" .nil) ∧
      result.1 false = .integer .signed64 7 ∧ result.1 true = .integer .signed64 0 := by
  intro site globals h m schema r
  have found : h.field Heap.globals "t" = .table 1 := by decide
  have plain : schema.HydratesPlainly site h "t" := by
    refine ⟨.inl rfl, fun id hid mapping _ => ?_⟩
    rw [found] at hid
    cases hid
    exact .inl rfl
  have room : m.stack.size + 2 ≤ m.stack.config.capacity := by decide
  obtain ⟨result, m', hresult, -, hstops⟩ :=
    (hydrate_meaning (fun _ => id) site schema r "t" 1 m found plain room).exists_ok
  refine ⟨found, plain, room, result, m', hresult, ?_⟩
  have free : ∀ c ∈ [(⟨"a", true, false⟩ : Mapping Bool)],
      ¬ c.Blocked ⟨"t", 1⟩ h .permissive r := by
    intro c hc
    rw [List.mem_singleton.mp hc]
    rintro ⟨hnone, -⟩
    revert hnone
    decide
  have blocked : (⟨"b", true, true⟩ : Mapping Bool).Blocked ⟨"t", 1⟩ h .permissive r :=
    ⟨by decide, .inl rfl⟩
  obtain ⟨rfl, -⟩ := hstops _ _ [] rfl free blocked
  exact ⟨rfl, rfl, rfl⟩

end ScriptBridge
