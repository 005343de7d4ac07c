import ScriptBridge.Proofs.Record.Meaning

/-!
# Strict and permissive hydration

Two runs of the same hydration, on stacks that differ in nothing but their coercion, go the same way
up to the first optional mapping whose value does not fit. There the strict run stops and the
permissive one passes over: `strict_refines_permissive`.
-/

namespace ScriptBridge

open HostM

variable {β σ ι : Type}

/-! ## Mappings that only strict reads are stopped by -/

/-- The mapping need not fill its field, and there is a value under its key that does not fit. -/
structure Mapping.PassedOver (mapping : Mapping ι) (view : TableView) (h : Heap β) (r : Record ι) :
    Prop where
  optional : mapping.isRequired = false
  misfit : mapping.conversion view h r = none
  present : view.value h mapping.key ≠ .nil

namespace Mapping

variable {mapping : Mapping ι} {view : TableView} {h : Heap β} {coercion : Coercion}
  {r r' : Record ι}

theorem blocked_permissive_iff : mapping.Blocked view h .permissive r ↔
    mapping.conversion view h r = none ∧ mapping.isRequired = true := by
  simp [Blocked]

theorem blocked_strict_iff : mapping.Blocked view h .strict r ↔
    mapping.Blocked view h .permissive r ∨ mapping.PassedOver view h r := by
  constructor
  · rintro ⟨misfit, hreason⟩
    by_cases hrequired : mapping.isRequired = true
    · exact .inl (blocked_permissive_iff.mpr ⟨misfit, hrequired⟩)
    · obtain ⟨-, present⟩ := hreason.resolve_left hrequired
      exact .inr ⟨eq_false_of_ne_true hrequired, misfit, present⟩
  · rintro (blocked | passed)
    · obtain ⟨misfit, hrequired⟩ := blocked_permissive_iff.mp blocked
      exact ⟨misfit, .inl hrequired⟩
    · exact ⟨passed.misfit, .inr ⟨rfl, passed.present⟩⟩

theorem PassedOver.not_blocked (passed : mapping.PassedOver view h r) :
    ¬ mapping.Blocked view h .permissive r := by
  intro blocked
  have hrequired := (blocked_permissive_iff.mp blocked).2
  rw [passed.optional] at hrequired
  cases hrequired

theorem PassedOver.of_alike (passed : mapping.PassedOver view h r) (alike : r'.Alike r) :
    mapping.PassedOver view h r' :=
  ⟨passed.optional, (mapping.conversion_of_alike view h alike).trans passed.misfit, passed.present⟩

/-- What a permissive run passes over, a strict one reports as a value of another type. -/
theorem PassedOver.refusal_eq (passed : mapping.PassedOver view h r) :
    mapping.refusal view h r = .fieldType view.name mapping.key (r mapping.field).expected
      (view.value h mapping.key).kind := by
  simp [refusal, passed.optional]

end Mapping

/-- The error is that of a value that does not fit an optional mapping. -/
def RecordError.IsFieldType : RecordError → Prop
  | .fieldType _ _ _ _ => True
  | _ => False

theorem Mapping.not_isFieldType_refusal {mapping : Mapping ι} {view : TableView} {h : Heap β}
    {r : Record ι} (blocked : mapping.Blocked view h .permissive r) :
    ¬ (mapping.refusal view h r).IsFieldType := by
  simp [refusal, (blocked_permissive_iff.mp blocked).2, RecordError.IsFieldType]

namespace Schema

variable [DecidableEq ι] {view : TableView} {h : Heap β} {r : Record ι}

/-- A mapping that is passed over changes nothing. -/
theorem resolve_of_passedOver {b : Mapping ι} (passed : b.PassedOver view h r)
    (after : Schema ι) :
    resolve view h .permissive (b :: after) r = resolve view h .permissive after r := by
  have hfilling : r.set b.field (r b.field) = r := by
    funext i
    simp only [Record.set]
    split
    next hi => rw [hi]
    next => rfl
  have hmisfit : (b.conversion view h r).getD (r b.field) = r b.field := by
    rw [passed.misfit, Option.getD_none]
  simp only [resolve, Mapping.read_of_not_blocked passed.not_blocked, hmisfit, hfilling]

theorem resolve_permissive_not_fieldType (schema : Schema ι) {e : RecordError}
    (herror : (schema.resolve view h .permissive r).2 = .error e) : ¬ e.IsFieldType := by
  obtain ⟨-, hresolve⟩ | ⟨before, b, after, -, -, blocked, hresolve⟩ :=
    schema.resolve_cases view h .permissive r
  · rw [hresolve] at herror
    cases herror
  · rw [hresolve] at herror
    cases herror
    exact Mapping.not_isFieldType_refusal blocked

/-- The parts of a schema when strict reads stop at a mapping that permissive ones pass over. -/
structure Diverges (schema : Schema ι) (view : TableView) (h : Heap β) (r : Record ι)
    (before : Schema ι) (b : Mapping ι) (after : Schema ι) : Prop where
  schema_eq : schema = before ++ b :: after
  passed : b.PassedOver view h r
  strict : schema.resolve view h .strict r =
    (before.filled view h r, .error (b.refusal view h r))
  common : ∀ coercion, before.resolve view h coercion r = (before.filled view h r, .ok ())
  permissive : schema.resolve view h .permissive r =
    after.resolve view h .permissive (before.filled view h r)

/-- Strict and permissive reads come to the same, or the strict ones stop at a value that does not
fit. -/
theorem resolve_eq_or_diverges (schema : Schema ι) (view : TableView) (h : Heap β)
    (r : Record ι) :
    (schema.resolve view h .permissive r = schema.resolve view h .strict r ∧
      ∀ e, (schema.resolve view h .strict r).2 = .error e → ¬ e.IsFieldType) ∨
    ∃ before b after, schema.Diverges view h r before b after := by
  have hfree {part : Schema ι} (free : ∀ c ∈ part, ¬ c.Blocked view h .strict r) :
      ∀ c ∈ part, ¬ c.Blocked view h .permissive r :=
    fun c hc blocked => free c hc (Mapping.blocked_strict_iff.mpr (.inl blocked))
  have hagree (heq : schema.resolve view h .permissive r = schema.resolve view h .strict r) :
      ∀ e, (schema.resolve view h .strict r).2 = .error e → ¬ e.IsFieldType := by
    intro e he
    rw [← heq] at he
    exact schema.resolve_permissive_not_fieldType he
  obtain ⟨free, hstrict⟩ | ⟨before, b, after, hschema, free, blocked, hstrict⟩ :=
    schema.resolve_cases view h .strict r
  · have heq : schema.resolve view h .permissive r = schema.resolve view h .strict r := by
      rw [hstrict, resolve_of_not_blocked (hfree free)]
    exact .inl ⟨heq, hagree heq⟩
  · obtain blocked | passed := Mapping.blocked_strict_iff.mp blocked
    · have heq : schema.resolve view h .permissive r = schema.resolve view h .strict r := by
        rw [hstrict, hschema, resolve_of_blocked (hfree free) blocked]
      exact .inl ⟨heq, hagree heq⟩
    · refine .inr ⟨before, b, after, hschema, passed, hstrict, fun coercion => ?_, ?_⟩
      · cases coercion with
        | strict => exact resolve_of_not_blocked free
        | permissive => exact resolve_of_not_blocked (hfree free)
      · rw [hschema, resolve_append (b :: after) (hfree free),
          resolve_of_passedOver (passed.of_alike (before.alike_filled view h r))]

end Schema

/-! ## Two runs -/

/-- The machine whose stack has another coercion. -/
def Machine.withCoercion (m : Machine β σ) (coercion : Coercion) : Machine β σ :=
  { m with stack := { m.stack with config := m.stack.config.withCoercion coercion } }

section Runs

variable [DecidableEq ι] {site : Script.Site β σ} {schema : Schema ι} {tableName : String}
  {m : Machine β σ}

theorem hydratesTo_withCoercion (keep : Record ι → σ → σ) (r : Record ι) (coercion : Coercion)
    (plain : schema.HydratesPlainly site m.world.heap tableName) :
    (m.withCoercion coercion).HydratesTo keep site schema r tableName
      (hydratedOn (m.withCoercion coercion).stack m.world.heap schema r tableName) := by
  obtain ⟨m', hrun, -⟩ := hydrateKeeping_of_plain (m := m.withCoercion coercion) keep plain
  exact ⟨m', hrun⟩

theorem hydratesTo_of_room {id : ObjectId} (keep : Record ι → σ → σ) (r : Record ι)
    (coercion : Coercion) (plain : schema.HydratesPlainly site m.world.heap tableName)
    (found : m.world.heap.field Heap.globals tableName = .table id)
    (room : m.stack.size + 2 ≤ m.stack.config.capacity) :
    (m.withCoercion coercion).HydratesTo keep site schema r tableName
      ((schema.resolve ⟨tableName, id⟩ m.world.heap coercion r).1,
        (schema.resolve ⟨tableName, id⟩ m.world.heap coercion r).2.map fun _ => true) := by
  have hhydrates := hydratesTo_withCoercion keep r coercion plain
  rwa [hydratedOn_of_found (s := (m.withCoercion coercion).stack) room found] at hhydrates

theorem error_of_map_error {α γ : Type} {f : α → γ} {x : Except RecordError α} {e : RecordError}
    (h : x.map f = .error e) : x = .error e := by
  cases x with
  | ok a => cases h
  | error e' => exact congrArg Except.error (Except.error.inj h)

/-- Two runs come to the same, or they diverge at a value that does not fit. -/
theorem hydratesTo_same_or_diverges (keep : Record ι → σ → σ) (r : Record ι)
    (plain : schema.HydratesPlainly site m.world.heap tableName) :
    (∃ result, (m.withCoercion .strict).HydratesTo keep site schema r tableName result ∧
      (m.withCoercion .permissive).HydratesTo keep site schema r tableName result ∧
      ∀ e, result.2 = .error e → ¬ e.IsFieldType) ∨
    ∃ id before b after, m.world.heap.field Heap.globals tableName = .table id ∧
      m.stack.size + 2 ≤ m.stack.config.capacity ∧
      schema.Diverges ⟨tableName, id⟩ m.world.heap r before b after := by
  by_cases hreads : m.stack.size + 2 ≤ m.stack.config.capacity ∧
      ∃ id, m.world.heap.field Heap.globals tableName = .table id
  · obtain ⟨room, id, found⟩ := hreads
    obtain ⟨heq, hother⟩ | ⟨before, b, after, hdiverges⟩ :=
      schema.resolve_eq_or_diverges ⟨tableName, id⟩ m.world.heap r
    · have hstrict := hydratesTo_of_room keep r .strict plain found room
      have hpermissive := hydratesTo_of_room keep r .permissive plain found room
      rw [heq] at hpermissive
      exact .inl ⟨_, hstrict, hpermissive, fun e he => hother e (error_of_map_error he)⟩
    · exact .inr ⟨id, before, b, after, found, room, hdiverges⟩
  · obtain ⟨outcome, hstack, hhydrated⟩ := exists_outcome_of_early hreads schema
    have hruns (coercion : Coercion) :
        (m.withCoercion coercion).HydratesTo keep site schema r tableName (r, outcome) := by
      rw [← hhydrated (m.withCoercion coercion).stack r rfl rfl]
      exact hydratesTo_withCoercion keep r coercion plain
    refine .inl ⟨(r, outcome), hruns .strict, hruns .permissive, fun e he => ?_⟩
    obtain ⟨e', rfl⟩ := hstack e he
    exact id

end Runs

/-- Strict hydration refines permissive hydration. On stacks that differ in nothing but their
coercion, both end. When the strict run succeeds, or fails for another reason than a value that does
not fit an optional mapping, the permissive run does the same to the record. When it fails for that
reason, the permissive run comes to what the mappings after that one make of the record at which the
strict run stopped, and differs from it only in fields that these have written. The permissive run
never fails for that reason, and if it succeeds where the strict one fails, there is a mapping that
it passed over. -/
theorem strict_refines_permissive [DecidableEq ι] (keep : Record ι → σ → σ)
    (site : Script.Site β σ) (schema : Schema ι) (r : Record ι) (tableName : String)
    (m : Machine β σ) (plain : schema.HydratesPlainly site m.world.heap tableName) :
    let h := m.world.heap
    let strict := m.withCoercion .strict
    let permissive := m.withCoercion .permissive
    ∃ rs os rp op,
      strict.HydratesTo keep site schema r tableName (rs, os) ∧
      permissive.HydratesTo keep site schema r tableName (rp, op) ∧
      (∀ a, os = .ok a → op = .ok a ∧ rp = rs) ∧
      (∀ e, os = .error e → ¬ e.IsFieldType → op = .error e ∧ rp = rs) ∧
      (∀ e, os = .error e → e.IsFieldType → ∃ id before b after,
        h.field Heap.globals tableName = .table id ∧ schema = before ++ b :: after ∧
        b.PassedOver ⟨tableName, id⟩ h r ∧
        e = .fieldType tableName b.key (r b.field).expected (h.field id b.key).kind ∧
        strict.HydratesTo keep site before r tableName (rs, .ok true) ∧
        permissive.HydratesTo keep site before r tableName (rs, .ok true) ∧
        permissive.HydratesTo keep site after rs tableName (rp, op) ∧
        ∀ i, rp i ≠ rs i →
          ∃ c ∈ after, c.field = i ∧ c.conversion ⟨tableName, id⟩ h rs = some (rp i)) ∧
      (∀ e, op = .error e → ¬ e.IsFieldType) ∧
      (∀ a e, op = .ok a → os = .error e → ∃ id, h.field Heap.globals tableName = .table id ∧
        ∃ b ∈ schema, b.PassedOver ⟨tableName, id⟩ h r) := by
  intro h strict permissive
  obtain ⟨⟨r', outcome⟩, hs, hp, hother⟩ | ⟨id, before, b, after, found, room, hdiverges⟩ :=
    hydratesTo_same_or_diverges keep r plain
  · refine ⟨r', outcome, r', outcome, hs, hp, fun a ha => ⟨ha, rfl⟩,
      fun e he _ => ⟨he, rfl⟩, fun e he hfield => absurd hfield (hother e he), hother, ?_⟩
    intro a e ha he
    rw [ha] at he
    cases he
  · obtain ⟨rfl, passed, hstrict, hcommon, hpermissive⟩ := hdiverges
    have hbefore : before.HydratesPlainly site h tableName :=
      plain.of_subset (List.subset_append_left before (b :: after))
    have hafter : after.HydratesPlainly site h tableName :=
      plain.of_subset fun c hc => List.mem_append_right before (List.mem_cons_of_mem b hc)
    have hstart (coercion : Coercion) : (m.withCoercion coercion).HydratesTo keep site before r
        tableName (before.filled ⟨tableName, id⟩ h r, .ok true) := by
      have hhydrates := hydratesTo_of_room keep r coercion hbefore found room
      rwa [hcommon coercion] at hhydrates
    have hstopped := hydratesTo_of_room keep r .strict plain found room
    rw [hstrict] at hstopped
    have hpassed := hydratesTo_of_room keep r .permissive plain found room
    rw [hpermissive] at hpassed
    have hrest := hydratesTo_of_room keep (before.filled ⟨tableName, id⟩ h r) .permissive hafter
      found room
    have hfield : (b.refusal ⟨tableName, id⟩ h r).IsFieldType := by
      rw [passed.refusal_eq]
      trivial
    refine ⟨_, _, _, _, hstopped, hpassed, nofun, fun e he hother => ?_, fun e he _ => ?_,
      fun e he => after.resolve_permissive_not_fieldType (error_of_map_error he),
      fun _ _ _ _ => ⟨id, found, b, List.mem_append_right before List.mem_cons_self, passed⟩⟩
    · cases he
      exact absurd hfield hother
    · cases he
      exact ⟨id, before, b, after, found, rfl, passed, passed.refusal_eq, hstart .strict,
        hstart .permissive, hrest, fun i hi => Schema.exists_conversion_of_resolve_ne hi⟩

/-- A text is in the place of the first of two integers, which need not be there. -/
theorem strict_refines_permissive_mistyped :
    let site : Script.Site Unit Unit := .outermost fun _ _ args => return args
    let globals : Table := Table.empty.set (.text "t") (.table 1)
    let fields : Table := (Table.empty.set (.text "a") (.text "x")).set (.text "b") (.integer 7)
    let h : Heap Unit := { Heap.initial with tables := #[globals, fields] }
    let m : Machine Unit Unit := ⟨.ofConfig (Config.standard.withCapacity 2), ⟨h, [], ()⟩⟩
    let schema : Schema Bool := [⟨"a", false, false⟩, ⟨"b", true, true⟩]
    let r : Record Bool := fun _ => .integer .signed64 0
    schema.HydratesPlainly site h "t" ∧ ∃ rs os rp op,
      (m.withCoercion .strict).HydratesTo (fun _ => id) site schema r "t" (rs, os) ∧
      (m.withCoercion .permissive).HydratesTo (fun _ => id) site schema r "t" (rp, op) ∧
      os = .error (.fieldType "t" "a" "integer" .string) ∧
      (∀ i, rp i ≠ rs i → i = true) ∧ ∀ e, op = .error e → ¬ e.IsFieldType := by
  intro site globals fields h m schema r
  have found : h.field Heap.globals "t" = .table 1 := by decide
  have plain : schema.HydratesPlainly site h "t" := by
    refine ⟨.inl rfl, fun id hid mapping _ => ?_⟩
    rw [found] at hid
    cases hid
    exact .inl rfl
  obtain ⟨rs, os, rp, op, hs, hp, -, -, hpassed, hnever, -⟩ :=
    strict_refines_permissive (fun _ => id) site schema r "t" m plain
  have hstops : os = .error (.fieldType "t" "a" "integer" .string) := by
    obtain ⟨m', hrun⟩ := hs
    cases hrun
    rfl
  refine ⟨plain, rs, os, rp, op, hs, hp, hstops, fun i hi => ?_, hnever⟩
  obtain ⟨id, before, b, after, -, hschema, passed, -, -, -, -, hchanged⟩ :=
    hpassed _ hstops trivial
  obtain ⟨c, hc, rfl, -⟩ := hchanged i hi
  -- a mapping is left after the one that was passed over, so that was the first one
  have hlength : 2 = before.length + (after.length + 1) := by
    simpa [schema] using congrArg List.length hschema
  have hpos : 0 < after.length := List.length_pos_of_mem hc
  obtain rfl : before = [] := List.eq_nil_of_length_eq_zero (by omega)
  obtain ⟨-, rfl⟩ := List.cons.inj hschema
  rw [List.mem_singleton.mp hc]

end ScriptBridge
