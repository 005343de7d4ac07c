import ScriptBridge.Proofs.Record.Meaning

/-!
# Hydration again, and of other records

What a mapping makes of a value depends on the type of its field and not on what the field holds. So
hydration of the record that it gave gives it again, and two records of the same types end with the
same outcome and the same content in every field that was written: `hydrate_repeats`.
-/

namespace ScriptBridge

open HostM

variable {β σ ι : Type}

/-! ## Fields of one type -/

theorem Arg.accept?_of_type {a b : Arg} (h : a.type = b.type) (v : Value) :
    a.accept? v = b.accept? v := by
  cases a <;> cases b <;> first | (cases v <;> rfl) | cases h

namespace Field

/-- Two fields are of one type, and so are typed arguments in them. What handles to functions hold
makes no difference. -/
inductive SameShape : Field → Field → Prop
  | text (s t : String) : SameShape (.text s) (.text t)
  | integer (w : IntegerWidth) (i j : Int) : SameShape (.integer w i) (.integer w j)
  | double (d e : Double) : SameShape (.double d) (.double e)
  | single (s t : Single) : SameShape (.single s) (.single t)
  | boolean (a b : Bool) : SameShape (.boolean a) (.boolean b)
  | arg {a b : Arg} (type : a.type = b.type) : SameShape (.arg a) (.arg b)
  | function (f g : ScriptFunction) : SameShape (.function f) (.function g)

/-- What a field holds; of a handle to a function, where that is looked up. -/
def content : Field → Field
  | function f => function (.ofCounts 0 0 f.binding)
  | f => f

variable {f g : Field}

theorem expected_of_sameShape (same : f.SameShape g) : f.expected = g.expected := by
  cases same with
  | @arg a b type => cases a <;> cases b <;> first | rfl | cases type
  | _ => rfl

/-- Fields of one type take the same values, and then have the same content. -/
theorem assign?_of_sameShape (same : f.SameShape g) (site : FieldSite) (v : Value) :
    (f.assign? site v).map content = (g.assign? site v).map content := by
  cases same with
  | arg type => rw [assign?, assign?, Arg.accept?_of_type type]
  | _ => cases v <;> rfl

end Field

/-- The fields of two records are of one type. -/
def Record.SameShape (r r' : Record ι) : Prop := ∀ i, (r i).SameShape (r' i)

/-! ## What was written before makes no difference -/

namespace Mapping

variable {mapping : Mapping ι} {view : TableView} {h : Heap β} {coercion : Coercion}
  {r r' : Record ι}

theorem content_conversion (mapping : Mapping ι) (view : TableView) (h : Heap β)
    (same : r.SameShape r') :
    (mapping.conversion view h r).map Field.content =
      (mapping.conversion view h r').map Field.content :=
  Field.assign?_of_sameShape (same mapping.field) _ _

theorem conversion_eq_none_iff (same : r.SameShape r') :
    mapping.conversion view h r = none ↔ mapping.conversion view h r' = none := by
  rw [← Option.map_eq_none_iff (f := Field.content), mapping.content_conversion view h same,
    Option.map_eq_none_iff]

theorem blocked_iff_of_sameShape (same : r.SameShape r') :
    mapping.Blocked view h coercion r ↔ mapping.Blocked view h coercion r' := by
  simp only [Blocked, conversion_eq_none_iff same]

theorem refusal_of_sameShape (same : r.SameShape r') :
    mapping.refusal view h r = mapping.refusal view h r' := by
  simp only [refusal, Field.expected_of_sameShape (same mapping.field)]

end Mapping

/-- What is reached without a stop stands before the first stop. -/
theorem mem_of_reached {α : Type} {before first after rest : List α} {b stop : α} {P : α → Prop}
    (heq : first ++ stop :: rest = before ++ b :: after) (stops : P stop)
    (free : ∀ c ∈ before, ¬ P c) (goes : ¬ P b) : b ∈ first := by
  obtain ⟨between, hbefore, hstop⟩ | ⟨between, hfirst, hb⟩ := List.append_eq_append_iff.mp heq
  · cases between with
    | nil =>
      obtain ⟨rfl, -⟩ := List.cons.inj hstop
      exact absurd stops goes
    | cons c others =>
      obtain ⟨rfl, -⟩ := List.cons.inj hstop
      refine absurd stops (free stop ?_)
      rw [hbefore]
      exact List.mem_append_right first List.mem_cons_self
  · cases between with
    | nil =>
      obtain ⟨rfl, -⟩ := List.cons.inj hb
      exact absurd stops goes
    | cons c others =>
      obtain ⟨rfl, -⟩ := List.cons.inj hb
      rw [hfirst]
      exact List.mem_append_right before List.mem_cons_self

namespace Schema

variable [DecidableEq ι] {view : TableView} {h : Heap β} {coercion : Coercion}
  {r r' : Record ι}

/-- Filling a record again changes nothing. -/
theorem filled_filled (schema : Schema ι) (view : TableView) (h : Heap β) (r : Record ι) :
    schema.filled view h (schema.filled view h r) = schema.filled view h r := by
  funext i
  have hconversion (b : Mapping ι) :
      b.conversion view h (schema.filled view h r) = b.conversion view h r :=
    b.conversion_of_alike view h (schema.alike_filled view h r)
  simp only [filled, hconversion]
  -- the last fitting value is the same in both passes, and decides unless there is none
  cases ((schema.filter (·.field = i)).filterMap (·.conversion view h r)).getLast? <;> rfl

/-- Plain reads into the record that they gave, wherever they stopped, give it again. -/
theorem resolve_again (schema : Schema ι) (view : TableView) (h : Heap β) (coercion : Coercion)
    (r : Record ι) :
    schema.resolve view h coercion (schema.resolve view h coercion r).1 =
      schema.resolve view h coercion r := by
  have halike {part : Schema ι} : (part.filled view h r).Alike r := part.alike_filled view h r
  obtain ⟨free, hresolve⟩ | ⟨before, b, after, rfl, free, blocked, hresolve⟩ :=
    schema.resolve_cases view h coercion r
  · have hfree : ∀ b ∈ schema, ¬ b.Blocked view h coercion (schema.filled view h r) :=
      fun b hb => mt (Mapping.blocked_iff_of_alike halike).mp (free b hb)
    rw [hresolve, resolve_of_not_blocked hfree, filled_filled]
  · have hfree : ∀ c ∈ before, ¬ c.Blocked view h coercion (before.filled view h r) :=
      fun c hc => mt (Mapping.blocked_iff_of_alike halike).mp (free c hc)
    rw [hresolve, resolve_of_blocked hfree ((Mapping.blocked_iff_of_alike halike).mpr blocked),
      filled_filled, Mapping.refusal_of_alike halike]

/-- A field that was written has the same content in records of the same types. -/
theorem content_filled {schema : Schema ι} (same : r.SameShape r') {b : Mapping ι}
    (hmem : b ∈ schema) (fits : b.conversion view h r ≠ none) :
    (schema.filled view h r b.field).content = (schema.filled view h r' b.field).content := by
  let fitting (r : Record ι) : List Field :=
    (schema.filter (·.field = b.field)).filterMap (·.conversion view h r)
  have hcontents : (fitting r).map Field.content = (fitting r').map Field.content := by
    simp only [fitting, List.map_filterMap, Mapping.content_conversion _ view h same]
  have hlasts :
      (fitting r).getLast?.map Field.content = (fitting r').getLast?.map Field.content := by
    rw [← List.getLast?_map, ← List.getLast?_map, hcontents]
  obtain ⟨f, hf⟩ := Option.ne_none_iff_exists'.mp fits
  have hf : f ∈ fitting r :=
    List.mem_filterMap.mpr ⟨b, List.mem_filter.mpr ⟨hmem, decide_eq_true rfl⟩, hf⟩
  obtain ⟨g, hg⟩ : ∃ g, (fitting r).getLast? = some g :=
    Option.ne_none_iff_exists'.mp fun hnone =>
      List.ne_nil_of_mem hf (List.getLast?_eq_none_iff.mp hnone)
  rw [hg] at hlasts
  obtain ⟨g', hg', hcontent⟩ := Option.map_eq_some_iff.mp hlasts.symm
  change ((fitting r).getLast?.getD _).content = ((fitting r').getLast?.getD _).content
  rw [hg, hg']
  exact hcontent.symm

/-- Plain reads into records of the same types stop at the same mapping, for the same reason, and
what they have written up to there has the same content. -/
theorem resolve_of_sameShape (schema : Schema ι) (view : TableView) (h : Heap β)
    (coercion : Coercion) (same : r.SameShape r') :
    (schema.resolve view h coercion r').2 = (schema.resolve view h coercion r).2 ∧
    ∀ before b after, schema = before ++ b :: after →
      (∀ c ∈ before, ¬ c.Blocked view h coercion r) → b.conversion view h r ≠ none →
      ((schema.resolve view h coercion r).1 b.field).content =
        ((schema.resolve view h coercion r').1 b.field).content := by
  have hfree {part : Schema ι} (free : ∀ c ∈ part, ¬ c.Blocked view h coercion r) :
      ∀ c ∈ part, ¬ c.Blocked view h coercion r' :=
    fun c hc => mt (Mapping.blocked_iff_of_sameShape same).mpr (free c hc)
  obtain ⟨free, hresolve⟩ | ⟨first, stop, rest, hschema, free, blocked, hresolve⟩ :=
    schema.resolve_cases view h coercion r
  · rw [hresolve, resolve_of_not_blocked (hfree free)]
    refine ⟨rfl, fun before b after hschema _ fits => content_filled same ?_ fits⟩
    rw [hschema]
    exact List.mem_append_right before List.mem_cons_self
  · rw [hresolve, hschema,
      resolve_of_blocked (hfree free) ((Mapping.blocked_iff_of_sameShape same).mp blocked),
      ← Mapping.refusal_of_sameShape same]
    refine ⟨rfl, fun before b after heq reached fits => content_filled same ?_ fits⟩
    exact mem_of_reached heq blocked reached fun ⟨hnone, _⟩ => fits hnone

end Schema

/-! ## Hydration -/

section Hydrated

variable [DecidableEq ι] {s : Stack} {h : Heap β} {r r' : Record ι} {tableName : String}

/-- What hydration gave, it gives again. -/
theorem hydratedOn_again (s : Stack) (h : Heap β) (schema : Schema ι) (r : Record ι)
    (tableName : String) :
    hydratedOn s h schema (hydratedOn s h schema r tableName).1 tableName =
      hydratedOn s h schema r tableName := by
  by_cases hreads : s.size + 2 ≤ s.config.capacity ∧
      ∃ id, h.field Heap.globals tableName = .table id
  · obtain ⟨room, id, found⟩ := hreads
    simp only [hydratedOn_of_found room found, Schema.resolve_again]
  · obtain ⟨outcome, -, hhydrated⟩ := exists_outcome_of_early hreads schema
    simp only [hhydrated s _ rfl rfl]

theorem outcome_of_sameShape (same : r.SameShape r') (schema : Schema ι) :
    (hydratedOn s h schema r' tableName).2 = (hydratedOn s h schema r tableName).2 := by
  by_cases hreads : s.size + 2 ≤ s.config.capacity ∧
      ∃ id, h.field Heap.globals tableName = .table id
  · obtain ⟨room, id, found⟩ := hreads
    simp only [hydratedOn_of_found room found,
      (schema.resolve_of_sameShape ⟨tableName, id⟩ h s.config.coercion same).1]
  · obtain ⟨outcome, -, hhydrated⟩ := exists_outcome_of_early hreads schema
    simp only [hhydrated s _ rfl rfl]

end Hydrated

/-- Hydration of the record that a first hydration gave, on the same stack and heap, comes to the
same outcome and leaves the record as it is, also when the first one was refused on the way.
Hydration of another record of the same types comes to the same outcome, and gives the same content
to every field that was written up to where both stopped. -/
theorem hydrate_repeats [DecidableEq ι] (keep : Record ι → σ → σ) (site : Script.Site β σ)
    (schema : Schema ι) (r : Record ι) (tableName : String) (m : Machine β σ)
    (plain : schema.HydratesPlainly site m.world.heap tableName) :
    ∃ r' outcome m', hydrateKeeping keep site schema r tableName m = .ok (r', outcome) m' ∧
      m.Keeps True m' ∧
      (∀ n, m.Keeps True n → n.HydratesTo keep site schema r' tableName (r', outcome)) ∧
      ∀ r₂ : Record ι, r.SameShape r₂ → ∃ r₂',
        m.HydratesTo keep site schema r₂ tableName (r₂', outcome) ∧
        ∀ id before b after, m.world.heap.field Heap.globals tableName = .table id →
          m.stack.size + 2 ≤ m.stack.config.capacity → schema = before ++ b :: after →
          (∀ c ∈ before, ¬ c.Blocked ⟨tableName, id⟩ m.world.heap m.stack.config.coercion r) →
          b.conversion ⟨tableName, id⟩ m.world.heap r ≠ none →
          (r' b.field).content = (r₂' b.field).content := by
  let hydration (r : Record ι) : Record ι × Except RecordError Bool :=
    hydratedOn m.stack m.world.heap schema r tableName
  obtain ⟨m', hrun, hkeeps⟩ := hydrateKeeping_of_plain (r := r) keep plain
  refine ⟨(hydration r).1, (hydration r).2, m', hrun, hkeeps, fun n hn => ?_, fun r₂ same => ?_⟩
  · have hheap : n.world.heap = m.world.heap := hn.heap trivial
    obtain ⟨n', hagain, -⟩ := hydrateKeeping_of_plain (m := n) keep (hheap ▸ plain)
    rw [hn.stack, hheap, hydratedOn_again] at hagain
    exact ⟨n', hagain⟩
  · obtain ⟨m₂, hother, -⟩ := hydrateKeeping_of_plain (r := r₂) keep plain
    refine ⟨(hydration r₂).1, ⟨m₂, ?_⟩,
      fun id before b after found room hschema reached fits => ?_⟩
    · rw [hother, ← outcome_of_sameShape same]
    · simp only [hydration, hydratedOn_of_found room found]
      exact (schema.resolve_of_sameShape ⟨tableName, id⟩ m.world.heap m.stack.config.coercion
        same).2 before b after hschema reached fits

/-- A record is filled up to a required key that the table does not hold. -/
theorem hydrate_repeats_refused :
    let site : Script.Site Unit Unit := .outermost fun _ _ args => return args
    let globals : Table := Table.empty.set (.text "t") (.table 1)
    let h : Heap Unit := { Heap.initial with
      tables := #[globals, Table.empty.set (.text "a") (.integer 7)] }
    let m : Machine Unit Unit := ⟨.ofConfig (Config.standard.withCapacity 2), ⟨h, [], ()⟩⟩
    let schema : Schema Bool := [⟨"a", false, false⟩, ⟨"b", true, true⟩]
    let r : Record Bool := fun _ => .integer .signed64 0
    let r₂ : Record Bool := fun _ => .integer .signed64 1
    let refused : Except RecordError Bool := .error (.missingField "t" "b" "integer" .nil)
    schema.HydratesPlainly site h "t" ∧ r.SameShape r₂ ∧ ∃ r' r₂',
      m.HydratesTo (fun _ => id) site schema r "t" (r', refused) ∧
      m.HydratesTo (fun _ => id) site schema r' "t" (r', refused) ∧
      m.HydratesTo (fun _ => id) site schema r₂ "t" (r₂', refused) ∧
      (r' false).content = (r₂' false).content := by
  intro site globals h m schema r r₂ refused
  have found : h.field Heap.globals "t" = .table 1 := by decide
  have plain : schema.HydratesPlainly site h "t" := by
    refine ⟨.inl rfl, fun id hid mapping _ => ?_⟩
    rw [found] at hid
    cases hid
    exact .inl rfl
  have same : r.SameShape r₂ := fun _ => .integer .signed64 0 1
  obtain ⟨r', outcome, m', hrun, -, hagain, hothers⟩ :=
    hydrate_repeats (fun _ => id) site schema r "t" m plain
  have free : ∀ c ∈ [(⟨"a", false, false⟩ : Mapping Bool)],
      ¬ c.Blocked ⟨"t", 1⟩ h .permissive r := by
    intro c hc
    rw [List.mem_singleton.mp hc]
    rintro ⟨hnone, -⟩
    revert hnone
    decide
  have blocked : (⟨"b", true, true⟩ : Mapping Bool).Blocked ⟨"t", 1⟩ h .permissive r :=
    ⟨by decide, .inl rfl⟩
  have hrefused : outcome = refused := by
    obtain ⟨m₁, hrun₁, -⟩ := hydrateKeeping_of_plain (m := m) (r := r) (fun _ => id) plain
    rw [hrun, hydratedOn_of_found (s := m.stack) (by decide) found] at hrun₁
    have hresolve : schema.resolve ⟨"t", 1⟩ h m.stack.config.coercion r =
        (Schema.filled [⟨"a", false, false⟩] ⟨"t", 1⟩ h r, .error _) :=
      Schema.resolve_of_blocked free blocked
    have houtcome := congrArg Prod.snd (EStateM.Result.ok.inj hrun₁).1
    rw [hresolve] at houtcome
    exact houtcome
  obtain ⟨r₂', hother, hcontent⟩ := hothers r₂ same
  rw [hrefused] at hrun hagain hother
  refine ⟨plain, same, r', r₂', ⟨m', hrun⟩, hagain m (.refl True m), hother, ?_⟩
  exact hcontent 1 [] ⟨"a", false, false⟩ [⟨"b", true, true⟩] found (by decide) rfl nofun
    (by decide)

end ScriptBridge
