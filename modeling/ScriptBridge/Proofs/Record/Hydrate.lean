import ScriptBridge.Proofs.Record.Lookup

/-!
# Hydration leaves the stack

Filling a record from the table of a global leaves the stack as it found it, whatever the table
holds and wherever the schema stops; and it leaves the heap, as long as no read runs a metamethod:
`hydrate_leaves_stack`. Plain reads fill the record as `hydratedOn` says, given how much room there
is; with room for the table and a key, that is what `Schema.resolve` says without a stack. All of it
holds whatever is kept of the record on the way; `hydrate` is the case in which nothing is.
-/

namespace ScriptBridge

open HostM StackM

variable {β σ ι : Type}

namespace Schema

/-- Reading the keys of a schema from a table runs no metamethod. -/
def ReadsPlainly (schema : Schema ι) (site : Script.Site β σ) (h : Heap β) (id : ObjectId) :
    Prop :=
  ∀ mapping ∈ schema, site.ReadsPlainly h id mapping.key

/-- Filling a record from the table of a global runs no metamethod. -/
def HydratesPlainly (schema : Schema ι) (site : Script.Site β σ) (h : Heap β)
    (tableName : String) : Prop :=
  site.ReadsPlainly h Heap.globals tableName ∧
    ∀ id, h.field Heap.globals tableName = .table id → schema.ReadsPlainly site h id

theorem HydratesPlainly.of_subset {schema part : Schema ι} {site : Script.Site β σ} {h : Heap β}
    {tableName : String} (plain : schema.HydratesPlainly site h tableName)
    (subset : part ⊆ schema) : part.HydratesPlainly site h tableName :=
  ⟨plain.1, fun id hid mapping hmapping => plain.2 id hid mapping (subset hmapping)⟩

variable [DecidableEq ι]

/-- The record after plain reads of the keys, up to the first that does not give what it has to. -/
def resolve (view : TableView) (h : Heap β) (coercion : Coercion) :
    Schema ι → Record ι → Record ι × Except RecordError Unit
  | [], r => (r, .ok ())
  | mapping :: rest, r =>
    match mapping.read view h coercion (r mapping.field) with
    | .ok f => resolve view h coercion rest (r.set mapping.field f)
    | .error e => (r, .error e)

/-- The record after plain reads of the keys on a stack, where each of them needs room. -/
def resolveOn (s : Stack) (view : TableView) (h : Heap β) :
    Schema ι → Record ι → Record ι × Except RecordError Unit
  | [], r => (r, .ok ())
  | mapping :: rest, r =>
    match s.givenRoom (mapping.read view h s.config.coercion (r mapping.field)) with
    | .ok f => resolveOn s view h rest (r.set mapping.field f)
    | .error e => (r, .error e)

theorem resolveOn_of_lt {s : Stack} (room : s.size < s.config.capacity) (view : TableView)
    (h : Heap β) (schema : Schema ι) (r : Record ι) :
    schema.resolveOn s view h r = schema.resolve view h s.config.coercion r := by
  induction schema generalizing r with
  | nil => rfl
  | cons mapping rest ih => simp only [resolveOn, resolve, Stack.givenRoom, if_pos room, ih]

/-- Without room no key can be read, so the record is as it was. -/
theorem resolveOn_of_le {s : Stack} (full : s.config.capacity ≤ s.size) (view : TableView)
    (h : Heap β) (mapping : Mapping ι) (rest : Schema ι) (r : Record ι) :
    resolveOn s view h (mapping :: rest) r = (r, .error (.stack s.overflow)) := by
  simp only [resolveOn, Stack.givenRoom, if_neg (Nat.not_lt_of_le full)]

variable {site : Script.Site β σ} {view : TableView} {keep : Record ι → σ → σ}

/-- Reading every key, with the table on top of the stack before each of them. -/
theorem ends_applyKeeping (schema : Schema ι) (r : Record ι) (m : Machine β σ)
    (htop : m.stack.peek top = some (.table view.table)) :
    (schema.applyKeeping keep site view r).Ends m
      (fun result m' => m.Keeps (schema.ReadsPlainly site m.world.heap view.table) m' ∧
        (schema.ReadsPlainly site m.world.heap view.table →
          result = schema.resolveOn m.stack view m.world.heap r))
      (fun _ _ => False) (fun _ => ¬ schema.ReadsPlainly site m.world.heap view.table) := by
  -- the invariant of the induction: the stack, and so its top, is as it was at the start
  induction schema generalizing r m with
  | nil => exact ends_pure ⟨.refl _ m, fun _ => rfl⟩
  | cons mapping rest ih =>
    have hfirst (hplain : ReadsPlainly (mapping :: rest) site m.world.heap view.table) :
        site.ReadsPlainly m.world.heap view.table mapping.key :=
      hplain mapping List.mem_cons_self
    refine ends_bind (ends_attempt ((mapping.apply_comesTo htop).mono ?_ ?_ ?_))
    · rintro f m₁ ⟨hkeeps, hread⟩
      have hrest (hplain : ReadsPlainly (mapping :: rest) site m.world.heap view.table) :
          ReadsPlainly rest site m₁.world.heap view.table := by
        intro other hother
        rw [hkeeps.heap (hfirst hplain)]
        exact hplain other (List.mem_cons_of_mem mapping hother)
      refine ends_bind (ends_modifyMemory ?_)
      refine (ih (r.set mapping.field f) ⟨m₁.stack, { m₁.world with
        memory := keep (r.set mapping.field f) m₁.world.memory }⟩ ?_).mono ?_ (fun _ _ h => h)
        (fun _ hnot hplain => hnot (hrest hplain))
      · rw [hkeeps.stack, htop]
      · rintro result m₂ ⟨⟨hstack, hheap⟩, hresult⟩
        refine ⟨hkeeps.trans ⟨hstack, hheap⟩ hfirst hrest, fun hplain => ?_⟩
        rw [hresult (hrest hplain)]
        change resolveOn m₁.stack view m₁.world.heap rest _ = _
        rw [hkeeps.heap (hfirst hplain), hkeeps.stack]
        simp only [resolveOn, hread (hfirst hplain)]
    · rintro e m₁ ⟨hkeeps, hread⟩
      refine ends_pure ⟨hkeeps.mono hfirst, fun hplain => ?_⟩
      simp only [resolveOn, hread (hfirst hplain)]
    · exact fun _ hnot hplain => hnot (hfirst hplain)

end Schema

/-- What filling a record from the value of a global comes to, without a stack. -/
def hydrated [DecidableEq ι] (h : Heap β) (coercion : Coercion) (schema : Schema ι) (r : Record ι)
    (tableName : String) : Value → Record ι × Except RecordError Bool
  | .table id =>
    let (r, outcome) := schema.resolve ⟨tableName, id⟩ h coercion r
    (r, outcome.map fun _ => true)
  | _ => (r, .ok false)

/-- What filling a record from a table on top of a stack comes to. -/
def hydratedTop [DecidableEq ι] (s : Stack) (h : Heap β) (schema : Schema ι) (r : Record ι)
    (tableName : String) (id : ObjectId) : Record ι × Except RecordError Bool :=
  let (r, outcome) := schema.resolveOn s ⟨tableName, id⟩ h r
  (r, outcome.map fun _ => true)

/-- What filling a record from the value of a global comes to on a stack, which needs room for the
value and above it for the keys. -/
def hydratedOn [DecidableEq ι] (s : Stack) (h : Heap β) (schema : Schema ι) (r : Record ι)
    (tableName : String) : Record ι × Except RecordError Bool :=
  if s.size < s.config.capacity then
    match h.field Heap.globals tableName with
    | .table id => hydratedTop (s.extend [.table id]) h schema r tableName id
    | _ => (r, .ok false)
  else (r, .error (.stack s.overflow))

/-- Hydration on a machine ends with a record and an outcome. -/
def Machine.HydratesTo [DecidableEq ι] (m : Machine β σ) (keep : Record ι → σ → σ)
    (site : Script.Site β σ) (schema : Schema ι) (r : Record ι) (tableName : String)
    (result : Record ι × Except RecordError Bool) : Prop :=
  ∃ m', hydrateKeeping keep site schema r tableName m = .ok result m'

section Hydrate

variable [DecidableEq ι] {site : Script.Site β σ} {keep : Record ι → σ → σ} {schema : Schema ι}
  {r : Record ι} {tableName : String} {m : Machine β σ}

/-- There is room for the table and a key. -/
theorem hydratedOn_of_room {s : Stack} (room : s.size + 2 ≤ s.config.capacity) (h : Heap β)
    (schema : Schema ι) (r : Record ι) (tableName : String) :
    hydratedOn s h schema r tableName =
      hydrated h s.config.coercion schema r tableName (h.field Heap.globals tableName) := by
  have hlt : s.size < s.config.capacity := by omega
  rw [hydratedOn, if_pos hlt]
  cases h.field Heap.globals tableName with
  | table id =>
    have hkey : (s.extend [.table id]).size < (s.extend [.table id]).config.capacity := by
      rw [Stack.size_extend, Stack.config_extend, List.length_singleton]
      omega
    simp only [hydratedTop, hydrated, Schema.resolveOn_of_lt hkey]
    rfl
  | _ => rfl

theorem hydratedOn_of_found {id : ObjectId} (room : s.size + 2 ≤ s.config.capacity)
    (found : h.field Heap.globals tableName = .table id) (schema : Schema ι) (r : Record ι) :
    hydratedOn s h schema r tableName =
      ((schema.resolve ⟨tableName, id⟩ h s.config.coercion r).1,
        (schema.resolve ⟨tableName, id⟩ h s.config.coercion r).2.map fun _ => true) := by
  rw [hydratedOn_of_room room, found]
  rfl

theorem hydratedOn_of_full {s : Stack} (full : s.config.capacity ≤ s.size) (h : Heap β)
    (schema : Schema ι) (r : Record ι) (tableName : String) :
    hydratedOn s h schema r tableName = (r, .error (.stack s.overflow)) := by
  rw [hydratedOn, if_neg (Nat.not_lt_of_le full)]

theorem hydratedOn_of_no_table {s : Stack} {h : Heap β} (free : s.size < s.config.capacity)
    (other : ∀ id, h.field Heap.globals tableName ≠ .table id) (schema : Schema ι)
    (r : Record ι) : hydratedOn s h schema r tableName = (r, .ok false) := by
  rw [hydratedOn, if_pos free]
  split
  next id hid => exact absurd hid (other id)
  next => rfl

/-- The table takes the last slot, so that there is none for a key. -/
theorem hydratedOn_of_last {s : Stack} {h : Heap β} {id : ObjectId}
    (free : s.size < s.config.capacity) (last : s.config.capacity ≤ s.size + 1)
    (found : h.field Heap.globals tableName = .table id) (schema : Schema ι) (r : Record ι) :
    hydratedOn s h schema r tableName =
      (r, if schema.isEmpty then .ok true else .error (.stack s.overflow)) := by
  have hfull : (s.extend [.table id]).config.capacity ≤ (s.extend [.table id]).size := by
    rwa [Stack.size_extend, Stack.config_extend]
  simp only [hydratedOn, if_pos free, found, hydratedTop]
  cases schema with
  | nil => rfl
  | cons mapping rest =>
    rw [Schema.resolveOn_of_le hfull]
    rfl

/-- When no key is read, hydration comes to the same for every record, and on every stack with as
much room. -/
theorem exists_outcome_of_early {s : Stack} {h : Heap β}
    (early : ¬ (s.size + 2 ≤ s.config.capacity ∧ ∃ id, h.field Heap.globals tableName = .table id))
    (schema : Schema ι) :
    ∃ outcome : Except RecordError Bool, (∀ e, outcome = .error e → ∃ e', e = .stack e') ∧
      ∀ (t : Stack) (r : Record ι), t.size = s.size → t.config.capacity = s.config.capacity →
        hydratedOn t h schema r tableName = (r, outcome) := by
  have hoverflow (t : Stack) (hcapacity : t.config.capacity = s.config.capacity) :
      t.overflow = s.overflow := by
    rw [Stack.overflow, Stack.overflow, hcapacity]
  by_cases hlt : s.size < s.config.capacity
  · by_cases htable : ∃ id, h.field Heap.globals tableName = .table id
    · obtain ⟨id, hid⟩ := htable
      have hlast : s.config.capacity ≤ s.size + 1 :=
        Nat.le_of_lt_succ (Nat.lt_of_not_le fun room => early ⟨room, id, hid⟩)
      refine ⟨if schema.isEmpty then .ok true else .error (.stack s.overflow), fun e he => ?_,
        fun t r hsize hcapacity => ?_⟩
      · split at he <;> cases he
        exact ⟨_, rfl⟩
      · rw [hydratedOn_of_last (by omega) (by omega) hid, hoverflow t hcapacity]
    · refine ⟨.ok false, (fun _ he => by cases he), fun t r hsize hcapacity => ?_⟩
      exact hydratedOn_of_no_table (by omega) (fun id hid => htable ⟨id, hid⟩) schema r
  · refine ⟨.error (.stack s.overflow), fun e he => ⟨s.overflow, (Except.error.inj he).symm⟩,
      fun t r hsize hcapacity => ?_⟩
    rw [hydratedOn_of_full (by omega), hoverflow t hcapacity]

theorem ends_applyTopKeeping {id : ObjectId} (htop : m.stack.peek top = some (.table id)) :
    (schema.applyTopKeeping keep site tableName r).Ends m
      (fun result m' => m.Keeps (schema.ReadsPlainly site m.world.heap id) m' ∧
        (schema.ReadsPlainly site m.world.heap id →
          result = schema.resolveOn m.stack ⟨tableName, id⟩ m.world.heap r))
      (fun _ _ => False) (fun _ => ¬ schema.ReadsPlainly site m.world.heap id) := by
  refine ends_bind (ends_attempt (ends_mapError (TableView.ends_ofTop htop ?_)))
  exact Schema.ends_applyKeeping schema r m htop

/-- The table that was pushed above a stack is dropped again in every case. -/
theorem ends_hydrateTop {scope : BalanceScope} {s : Stack} {id : ObjectId}
    (hstack : m.stack = s.extend [.table id]) (hentry : scope.entry = s.size)
    (hbalanced : scope.expected = s.size) :
    (hydrateTop keep site scope schema r tableName).Ends m
      (fun result m' => m'.stack = s ∧
        (schema.ReadsPlainly site m.world.heap id → m'.world.heap = m.world.heap ∧
          result = hydratedTop m.stack m.world.heap schema r tableName id))
      (fun _ _ => False) (fun _ => ¬ schema.ReadsPlainly site m.world.heap id) := by
  have htop : m.stack.peek top = some (.table id) := by
    rw [hstack, Stack.peek_top_extend_singleton]
  refine ends_bind ((ends_applyTopKeeping htop).mono ?_ (fun _ _ h => h) (fun _ h => h))
  rintro ⟨r', outcome⟩ m₁ ⟨hkeeps, hresult⟩
  have hstack₁ : m₁.stack = s.extend [.table id] := hkeeps.stack.trans hstack
  have hhydrated (hplain : schema.ReadsPlainly site m.world.heap id) :
      m₁.world.heap = m.world.heap ∧ (r', outcome.map fun _ => true) =
        hydratedTop m.stack m.world.heap schema r tableName id := by
    rw [hydratedTop, ← hresult hplain]
    exact ⟨hkeeps.heap hplain, rfl⟩
  cases outcome with
  | error e =>
    exact ends_bind (ends_log (ends_bind (BalanceScope.ends_abandon [.table id] hstack₁ hentry
      fun _ => ends_pure ⟨rfl, hhydrated⟩)))
  | ok =>
    refine ends_bind (ends_mapError (ends_pop [.table id] hstack₁ ?_))
    exact ends_bind (BalanceScope.ends_finish hbalanced.symm (ends_pure ⟨rfl, hhydrated⟩))

theorem ends_hydrateKeepingOn (site : Script.Site β σ) (keep : Record ι → σ → σ)
    (schema : Schema ι) (r : Record ι) (tableName : String) (m : Machine β σ) :
    (hydrateKeeping keep site schema r tableName).Ends m
      (fun result m' => m.Keeps (schema.HydratesPlainly site m.world.heap tableName) m' ∧
        (schema.HydratesPlainly site m.world.heap tableName →
          result = hydratedOn m.stack m.world.heap schema r tableName))
      (fun _ _ => False)
      (fun _ => ¬ schema.HydratesPlainly site m.world.heap tableName) := by
  refine ends_bind (BalanceScope.ends_enter (ends_bind (ends_attempt (ends_mapError
    ((ends_pushGlobal site tableName m).mono ?_ ?_ fun _ hnot hplain => hnot hplain.1)))))
  · rintro _ m₁ ⟨v, hpushed⟩
    have hbalanced : (⟨"hydrate", 0, m.stack.size⟩ : BalanceScope).expected = m.stack.size :=
      Int.add_zero _
    have hkind : m₁.stack.kind top = v.kind := by rw [hpushed.stack, Stack.kind_top_extend]
    have hworld (hplain : schema.HydratesPlainly site m.world.heap tableName) :
        v = m.world.heap.field Heap.globals tableName ∧ m₁.world = m.world :=
      hpushed.plain hplain.1
    refine ends_stack (fun _ => rfl) ?_
    simp only [hkind]
    by_cases htable : v.kind = .table
    · rw [if_neg (fun h => h htable)]
      obtain ⟨id, rfl⟩ := eq_table_of_kind htable
      have hreads (hplain : schema.HydratesPlainly site m.world.heap tableName) :
          schema.ReadsPlainly site m₁.world.heap id := by
        rw [(hworld hplain).2]
        exact hplain.2 id (hworld hplain).1.symm
      refine (ends_hydrateTop hpushed.stack rfl hbalanced).mono ?_ (fun _ _ h => h)
        (fun _ hnot hplain => hnot (hreads hplain))
      rintro result m₂ ⟨hstack, hdone⟩
      refine ⟨⟨hstack, fun hplain => ?_⟩, fun hplain => ?_⟩
      · rw [(hdone (hreads hplain)).1, (hworld hplain).2]
      · rw [(hdone (hreads hplain)).2, hydratedOn, if_pos hpushed.room, ← (hworld hplain).1,
          (hworld hplain).2, hpushed.stack]
    · rw [if_pos htable]
      refine ends_bind (ends_log (ends_bind (ends_mapError (ends_pop [v] hpushed.stack ?_))))
      refine ends_bind (BalanceScope.ends_finish hbalanced.symm (ends_pure ⟨⟨rfl, ?_⟩, ?_⟩))
      · intro hplain
        change m₁.world.heap = m.world.heap
        rw [(hworld hplain).2]
      · intro hplain
        refine (hydratedOn_of_no_table hpushed.room (fun id hid => htable ?_) schema r).symm
        rw [(hworld hplain).1, hid]
        rfl
  · rintro e m₁ hunpushed
    refine ends_bind (BalanceScope.ends_abandon [] ?_ rfl fun journal => ?_)
    · rw [hunpushed.stack, Stack.extend_nil]
    · refine ends_pure ⟨⟨rfl, ?_⟩, ?_⟩
      · intro hplain
        change m₁.world.heap = m.world.heap
        rw [(hunpushed.plain hplain.1).2.2]
      · intro hplain
        obtain ⟨rfl, hfull, -⟩ := hunpushed.plain hplain.1
        rw [hydratedOn_of_full hfull]

/-- Hydration from a table that is read plainly comes to what `hydratedOn` says. -/
theorem hydrateKeeping_of_plain (keep : Record ι → σ → σ)
    (plain : schema.HydratesPlainly site m.world.heap tableName) :
    ∃ m', hydrateKeeping keep site schema r tableName m =
      .ok (hydratedOn m.stack m.world.heap schema r tableName) m' ∧ m.Keeps True m' := by
  obtain ⟨result, m', hrun, hkeeps, hresult⟩ :=
    ((ends_hydrateKeepingOn site keep schema r tableName m).mono (fun _ _ h => h) (fun _ _ h => h)
      (fun _ hnot => hnot plain)).exists_ok
  exact ⟨m', by rw [hrun, hresult plain], hkeeps.mono fun _ => plain⟩

/-- With room for the table and a key, hydration does not depend on the stack. -/
theorem ends_hydrateKeeping (site : Script.Site β σ) (keep : Record ι → σ → σ)
    (schema : Schema ι) (r : Record ι) (tableName : String) (m : Machine β σ) :
    (hydrateKeeping keep site schema r tableName).Ends m
      (fun result m' => m.Keeps (schema.HydratesPlainly site m.world.heap tableName) m' ∧
        (schema.HydratesPlainly site m.world.heap tableName →
          m.stack.size + 2 ≤ m.stack.config.capacity →
          result = hydrated m.world.heap m.stack.config.coercion schema r tableName
            (m.world.heap.field Heap.globals tableName)))
      (fun _ _ => False)
      (fun _ => ¬ schema.HydratesPlainly site m.world.heap tableName) := by
  refine (ends_hydrateKeepingOn site keep schema r tableName m).mono ?_ (fun _ _ h => h)
    (fun _ h => h)
  rintro result m' ⟨hkeeps, hresult⟩
  refine ⟨hkeeps, fun hplain room => ?_⟩
  rw [hresult hplain, hydratedOn_of_room room]

end Hydrate

/-- Hydration ends with the stack as it was, in all its slots and with the callbacks that were
registered through it, and reports its errors with its result; it does the same under every balance
policy, so its scope never ends at an unexpected size. When no read runs a metamethod, it does not
stop and the heap is as it was. The same holds of every single read of a field from the table on
top of a stack, whether it gives a field or fails. -/
theorem hydrate_leaves_stack [DecidableEq ι] (keep : Record ι → σ → σ) (site : Script.Site β σ)
    (schema : Schema ι) (r : Record ι) (tableName : String) (m : Machine β σ) :
    (hydrateKeeping keep site schema r tableName).Ends m
      (fun _ m' => m.Keeps (schema.HydratesPlainly site m.world.heap tableName) m')
      (fun _ _ => False)
      (fun _ => ¬ schema.HydratesPlainly site m.world.heap tableName) ∧
    ∀ (view : TableView) (f : Field) (key : String) (m₁ : Machine β σ),
      m₁.stack.peek top = some (.table view.table) →
      (view.mapField site f key).Ends m₁
        (fun _ m' => m₁.Keeps (site.ReadsPlainly m₁.world.heap view.table key) m')
        (fun _ m' => m₁.Keeps (site.ReadsPlainly m₁.world.heap view.table key) m')
        (fun _ => ¬ site.ReadsPlainly m₁.world.heap view.table key) ∧
      (view.requireField site f key).Ends m₁
        (fun _ m' => m₁.Keeps (site.ReadsPlainly m₁.world.heap view.table key) m')
        (fun _ m' => m₁.Keeps (site.ReadsPlainly m₁.world.heap view.table key) m')
        (fun _ => ¬ site.ReadsPlainly m₁.world.heap view.table key) := by
  refine ⟨?_, fun view f key m₁ htop => ⟨?_, ?_⟩⟩
  · exact (ends_hydrateKeeping site keep schema r tableName m).mono (fun _ _ h => h.1)
      (fun _ _ h => h) (fun _ h => h)
  · exact (TableView.mapField_comesTo htop).mono (fun _ _ h => h.1) (fun _ _ h => h.1)
      (fun _ h => h)
  · exact (TableView.requireField_comesTo htop).mono (fun _ _ h => h.1) (fun _ _ h => h.1)
      (fun _ h => h)

end ScriptBridge
