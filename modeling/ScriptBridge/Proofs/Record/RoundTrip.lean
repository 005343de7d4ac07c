import ScriptBridge.Proofs.Record.Echo
import ScriptBridge.Proofs.Record.Meaning
import ScriptBridge.Proofs.Stack.Writes

/-!
# Typed arguments on every way

An argument that crosses into the engine and back arrives as it was, whichever way it takes: over a
slot of the stack, over a global, over a field of a table that fills a field of a record, or through
the call of a function that gives its arguments back. `arg_round_trip` says so for all four.
-/

namespace ScriptBridge

open HostM StackM

variable {β σ : Type} {site : Script.Site β σ} {a b : Arg}

/-- An argument that was pushed is on top. -/
theorem fill_of_pushArg (same : b.type = a.type) {m : Machine β σ} (room : m.HasRoom) :
    ∃ m₁, (pushArg a : StackM β σ Unit) m = .ok () m₁ ∧ b.fill m₁.stack top = .ok (true, a) :=
  ⟨_, pushArg_apply a room, Arg.fill_pushed m.stack same⟩

/-- An argument that was bound to a global is the value of the global. -/
theorem fill_of_bindGlobal (same : b.type = a.type) {m : Machine β σ} {name : String}
    (room : m.HasRoom) (plain : site.WritesPlainly m.world.heap Heap.globals name) :
    ∃ m₁, (do pushArg a; bindGlobal site name; pushGlobal site name : StackM β σ Unit) m =
        .ok () m₁ ∧
      b.fill m₁.stack top = .ok (true, a) := by
  obtain ⟨hreads, hfield⟩ := Script.Site.readsPlainly_of_written plain a.toValue_ne_nil rfl
  let bound := m.storing Heap.globals name a.toValue
  have hbind := bindGlobal_of_plain (m := { m with stack := m.stack.extend [a.toValue] }) plain rfl
  have hpush := pushGlobal_of_plain (m := bound) hreads room
  refine ⟨_, (bind_of_ok (pushArg_apply a room)).trans ((bind_of_ok hbind).trans hpush), ?_⟩
  rw [show bound.world.heap.field Heap.globals name = a.toValue from
    hfield.trans a.detached_toValue]
  exact Arg.fill_pushed m.stack same

/-! ## Fields of tables -/

section Fields

variable {m : Machine β σ} {id : ObjectId} {key : String}

/-- The value under a key is that of an argument, and is read plainly. -/
structure Machine.Holds (m : Machine β σ) (site : Script.Site β σ) (id : ObjectId) (key : String)
    (a : Arg) : Prop where
  plain : site.ReadsPlainly m.world.heap id key
  field : m.world.heap.field id key = a.toValue

theorem Machine.Holds.fitted (view : TableView) (holds : m.Holds site view.table key a)
    (same : b.type = a.type) : view.fitted m.world.heap (.arg b) key = some (.arg a) := by
  simp only [TableView.fitted, TableView.value, holds.field, Field.assign?,
    Arg.accept?_toValue same, Option.map_some]

/-- A field of a typed argument takes what the table holds, whether it may stay as it is or not. -/
theorem mapField_of_holds (view : TableView) (holds : m.Holds site view.table key a)
    (same : b.type = a.type) (onTop : m.stack.peek top = some (.table view.table))
    (room : m.HasRoom) :
    (∃ m₁, view.mapField site (.arg b) key m = .ok (some (.arg a)) m₁) ∧
      ∃ m₁, view.requireField site (.arg b) key m = .ok (.arg a) m₁ := by
  have hfitted := holds.fitted view same
  constructor
  · have hmapped : view.mapped m.world.heap (.arg b) key m.stack.config.coercion =
        .ok (some (.arg a)) := by
      have hnone : ¬ (view.fitted m.world.heap (.arg b) key = none ∧
          (view.value m.world.heap key).kind ≠ .nil ∧ m.stack.config.coercion = .strict) := by
        rintro ⟨hnone, -⟩
        rw [hfitted] at hnone
        cases hnone
      rw [TableView.mapped, if_neg hnone, hfitted]
    have hcomes : (view.mapField site (.arg b) key).ComesTo m
        (site.ReadsPlainly m.world.heap view.table key) (.ok (some (.arg a))) := by
      rw [← hmapped]
      exact TableView.mapField_comesTo onTop
    exact hcomes.exists_ok holds.plain room
  · have hrequired : view.required m.world.heap (.arg b) key = .ok (.arg a) := by
      rw [TableView.required, hfitted]
    have hcomes : (view.requireField site (.arg b) key).ComesTo m
        (site.ReadsPlainly m.world.heap view.table key) (.ok (.arg a)) := by
      rw [← hrequired]
      exact TableView.requireField_comesTo onTop
    exact hcomes.exists_ok holds.plain room

/-- Hydration leaves the argument in the field of the last mapping that names that field. -/
theorem hydrate_of_holds {ι : Type} [DecidableEq ι] {keep : Record ι → σ → σ} {tableName : String}
    {before after : Schema ι} {isRequired : Bool} {i : ι} {r : Record ι}
    (holds : m.Holds site id key a) (same : b.type = a.type) (start : r i = .arg b)
    (found : m.world.heap.field Heap.globals tableName = .table id)
    (plain : Schema.HydratesPlainly (before ++ ⟨key, isRequired, i⟩ :: after) site m.world.heap
      tableName)
    (free : ∀ c ∈ before, ¬ c.Blocked ⟨tableName, id⟩ m.world.heap m.stack.config.coercion r)
    (last : ∀ c ∈ after, c.field ≠ i) (room : m.stack.size + 2 ≤ m.stack.config.capacity) :
    ∃ result m₁, hydrateKeeping keep site (before ++ ⟨key, isRequired, i⟩ :: after) r tableName m =
      .ok result m₁ ∧ result.1 i = .arg a := by
  obtain ⟨result, m₁, hrun, -, hresult⟩ := ((ends_hydrateKeeping site keep _ r tableName m).mono
    (fun _ _ h => h) (fun _ _ h => h) (fun _ hnot => hnot plain)).exists_ok
  refine ⟨result, m₁, hrun, ?_⟩
  have hfits : (⟨key, isRequired, i⟩ : Mapping ι).conversion ⟨tableName, id⟩ m.world.heap r =
      some (.arg a) := by
    change TableView.fitted ⟨tableName, id⟩ m.world.heap (r i) key = some (.arg a)
    rw [start]
    exact holds.fitted ⟨tableName, id⟩ same
  rw [hresult plain room, found]
  exact Schema.resolve_of_last free hfits last

end Fields

/-! ## Every way -/

/-- An argument arrives as it was in every argument of its type: pushed and taken from the top of
the stack; bound to a global whose value is then pushed; stored under a key of a table, which then
fills a field of a record, alone or in a schema; and given to a function that is bound to a callback
which gives its arguments back. Writes and look-ups run no metamethod, and there is room. -/
theorem arg_round_trip (site : Script.Site β σ) {a b : Arg} (same : b.type = a.type) :
    (∀ m : Machine β σ, m.HasRoom →
      ∃ m₁, (pushArg a : StackM β σ Unit) m = .ok () m₁ ∧
        b.fill m₁.stack top = .ok (true, a)) ∧
    (∀ (m : Machine β σ) (name : String), m.HasRoom →
      site.WritesPlainly m.world.heap Heap.globals name →
      ∃ m₁, (do pushArg a; bindGlobal site name; pushGlobal site name : StackM β σ Unit) m =
          .ok () m₁ ∧
        b.fill m₁.stack top = .ok (true, a)) ∧
    (∀ (m : Machine β σ) (index : Int) (id : ObjectId) (key : String), m.HasRoom →
      m.stack.table index = .ok id → m.stack.absolute index ≠ none →
      site.WritesPlainly m.world.heap id key →
      ∃ m₁, addMember site index key (pushArg a) m = .ok () m₁ ∧ m₁.stack = m.stack ∧
        ∀ m₂ : Machine β σ, m₂.world.heap.table id = m₁.world.heap.table id →
          (∀ name, m₂.stack.peek top = some (.table id) → m₂.HasRoom →
            (∃ m₃, TableView.mapField site ⟨name, id⟩ (.arg b) key m₂ =
              .ok (some (.arg a)) m₃) ∧
            ∃ m₃, TableView.requireField site ⟨name, id⟩ (.arg b) key m₂ =
              .ok (.arg a) m₃) ∧
          ∀ (ι : Type) [DecidableEq ι] (keep : Record ι → σ → σ) (before after : Schema ι)
            (isRequired : Bool) (i : ι) (r : Record ι) (tableName : String),
            r i = .arg b → m₂.world.heap.field Heap.globals tableName = .table id →
            Schema.HydratesPlainly (before ++ ⟨key, isRequired, i⟩ :: after) site m₂.world.heap
              tableName →
            (∀ c ∈ before,
              ¬ c.Blocked ⟨tableName, id⟩ m₂.world.heap m₂.stack.config.coercion r) →
            (∀ c ∈ after, c.field ≠ i) → m₂.stack.size + 2 ≤ m₂.stack.config.capacity →
            ∃ result m₃, hydrateKeeping keep site (before ++ ⟨key, isRequired, i⟩ :: after) r
              tableName m₂ = .ok result m₃ ∧ result.1 i = .arg a) ∧
    (∀ (run : BodyRunner β σ) (depth : Nat) (f : ScriptFunction) (inputs outputs : List Arg)
      (m : Machine β σ), f.Echoes run depth site m inputs.length →
      site.CanCall run depth inputs.length → outputs.map Arg.type = inputs.map Arg.type →
      ∃ w, f.call site inputs outputs m = .ok (inputs, .ok ()) { m with world := w }) := by
  refine ⟨fun m room => fill_of_pushArg same room,
    fun m name room plain => fill_of_bindGlobal same room plain, ?_,
    fun run depth f inputs outputs m echoes ready types =>
      ScriptFunction.call_of_echoes echoes ready types⟩
  intro m index id key room table located plain
  obtain ⟨position, hposition⟩ := Option.ne_none_iff_exists'.mp located
  refine ⟨_, addMember_of_plain plain hposition table room, rfl, ?_⟩
  intro m₂ unchanged
  obtain ⟨hreads, hfield⟩ := Script.Site.readsPlainly_of_written plain a.toValue_ne_nil unchanged
  have holds : m₂.Holds site id key a := ⟨hreads, hfield.trans a.detached_toValue⟩
  refine ⟨fun name onTop room₂ => ?_, ?_⟩
  · exact mapField_of_holds ⟨name, id⟩ holds same onTop room₂
  · intro ι _ keep before after isRequired i r tableName start found hydrates free last room₂
    exact hydrate_of_holds holds same start found hydrates free last room₂

/-- A text with a zero byte and a character of two bytes, on a machine with a table on the stack and
in a global, and with a callback that gives all of its frame back. -/
theorem arg_round_trip_text :
    let run : BodyRunner Unit Unit := fun _ _ => return (← stack).size
    let site : Script.Site Unit Unit := hostSite run
    let config := Config.standard.withCapacity 4
    let globals := (Table.empty.set (.text "echo") (.function 0)).set (.text "t") (.table 1)
    let heap : Heap Unit := { (Heap.initial : Heap Unit) with
      tables := #[globals, .empty], functions := #[.host ⟨"echo", 1, ()⟩ config] }
    let m : Machine Unit Unit := ⟨⟨[.table 1], config, false, []⟩, ⟨heap, [], ()⟩⟩
    let a : Arg := .text "\x00é"
    let b : Arg := .text "kept"
    (∃ m₁, (pushArg a : StackM Unit Unit Unit) m = .ok () m₁ ∧
      b.fill m₁.stack top = .ok (true, a)) ∧
    (∃ m₁, (do pushArg a; bindGlobal site "g"; pushGlobal site "g" : StackM Unit Unit Unit) m =
        .ok () m₁ ∧
      b.fill m₁.stack top = .ok (true, a)) ∧
    (∃ m₁, addMember site 1 "k" (pushArg a) m = .ok () m₁ ∧
      (∃ m₂, TableView.mapField site ⟨"t", 1⟩ (.arg b) "k" m₁ = .ok (some (.arg a)) m₂) ∧
      ∃ result m₂, hydrateKeeping (fun (_ : Record Unit) _ => ()) site [⟨"k", true, ()⟩]
        (fun _ => .arg b) "t" m₁ = .ok result m₂ ∧ result.1 () = .arg a) ∧
    ∃ w, (ScriptFunction.ofGlobal 2 2 "echo").call site [a, .integer 5] [b, .integer 0] m =
      .ok ([a, .integer 5], .ok ()) { m with world := w } := by
  intro run site config globals heap m a b
  obtain ⟨hslot, hglobal, hmember, hcall⟩ :=
    arg_round_trip site (show b.type = a.type from rfl)
  have room : m.HasRoom := show 1 < 4 by decide
  have writesGlobal : site.WritesPlainly m.world.heap Heap.globals "g" :=
    ⟨show 0 < 2 by decide, .inl rfl⟩
  have writesMember : site.WritesPlainly m.world.heap 1 "k" := ⟨show 1 < 2 by decide, .inl rfl⟩
  refine ⟨hslot m room, hglobal m "g" room writesGlobal, ?_, ?_⟩
  · obtain ⟨m₁, hrun, -, hreads⟩ := hmember m 1 1 "k" room rfl (by decide) writesMember
    have hm₁ : m₁ = m.storing 1 "k" a.toValue := by
      have located : m.stack.absolute 1 = some 1 := rfl
      rw [addMember_of_plain writesMember located rfl room] at hrun
      cases hrun
      rfl
    obtain ⟨hfield, hrecord⟩ := hreads m₁ rfl
    subst hm₁
    have found : (m.storing 1 "k" a.toValue).world.heap.field Heap.globals "t" = .table 1 := by
      decide
    refine ⟨_, hrun, (hfield "t" rfl room).1, ?_⟩
    refine hrecord Unit _ [] [] true () _ "t" rfl found ⟨.inl rfl, fun id hid mapping _ => ?_⟩
      (fun c hc => absurd hc List.not_mem_nil) (fun c hc => absurd hc List.not_mem_nil)
      (show 1 + 2 ≤ 4 by decide)
    rw [found] at hid
    cases hid
    exact .inl rfl
  · have echoes : (ScriptFunction.ofGlobal 2 2 "echo").Echoes run (Script.nestingLimit - 1) site m
        2 := by
      refine ⟨rfl, rfl, .inl rfl, ⟨⟨"echo", none⟩, 0, ⟨"echo", 1, ()⟩, config, rfl, .inl rfl,
        by decide, rfl, by decide, fun frame _ => ?_⟩, show 1 + 1 + 2 ≤ 4 by decide⟩
      exact ⟨_, frame, rfl, by rw [Stack.results_of_le (Nat.le_refl _), Nat.sub_self]; rfl⟩
    exact hcall run _ _ [a, .integer 5] [b, .integer 0] m echoes
      (hostSite_canCall (show 2 + 1 + 2 + 20 ≤ 1000000 by decide)) rfl

end ScriptBridge
