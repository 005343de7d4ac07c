import ScriptBridge.Proofs.Stack.Reads
import ScriptBridge.Record.Schema

/-!
# Reading fields from a table

A field is read from the table on top of the stack through a slot above it. Whatever a read comes
to, the stack ends as it was; and a plain read comes to what the table holds, as `TableView.mapped`,
`TableView.required` and `Mapping.read` say without a stack.
-/

namespace ScriptBridge

open HostM StackM

variable {β σ ι : Type}

/-- The stack is as it was, and so is the heap when reads are plain. -/
structure Machine.Keeps (plain : Prop) (m m' : Machine β σ) : Prop where
  stack : m'.stack = m.stack
  heap : plain → m'.world.heap = m.world.heap

theorem Machine.Keeps.refl (plain : Prop) (m : Machine β σ) : m.Keeps plain m :=
  ⟨rfl, fun _ => rfl⟩

theorem Machine.Keeps.trans {plain plain₁ plain₂ : Prop} {m m₁ m₂ : Machine β σ}
    (h₁ : m.Keeps plain₁ m₁) (h₂ : m₁.Keeps plain₂ m₂) (hplain₁ : plain → plain₁)
    (hplain₂ : plain → plain₂) : m.Keeps plain m₂ :=
  ⟨h₂.stack.trans h₁.stack, fun h => (h₂.heap (hplain₂ h)).trans (h₁.heap (hplain₁ h))⟩

theorem Machine.Keeps.mono {plain plain₁ : Prop} {m m₁ : Machine β σ} (h : m.Keeps plain₁ m₁)
    (hplain : plain → plain₁) : m.Keeps plain m₁ :=
  ⟨h.stack, fun hp => h.heap (hplain hp)⟩

/-- There is room for one more value. -/
def Machine.HasRoom (m : Machine β σ) : Prop := m.stack.size < m.stack.config.capacity

/-- What an action comes to that needs room for one more value. -/
def Stack.givenRoom {α : Type} (s : Stack) (expected : Except RecordError α) :
    Except RecordError α :=
  if s.size < s.config.capacity then expected else .error (.stack s.overflow)

theorem Stack.givenRoom_map {α γ : Type} (s : Stack) (f : α → γ) (expected : Except RecordError α) :
    s.givenRoom (expected.map f) = (s.givenRoom expected).map f := by
  unfold givenRoom
  split <;> rfl

theorem Machine.HasRoom.givenRoom {α : Type} {m : Machine β σ} (room : m.HasRoom)
    (expected : Except RecordError α) : m.stack.givenRoom expected = expected :=
  if_pos room

/-- An action leaves the stack, and the heap when its reads are plain. It comes to what is expected
of plain reads, or fails for want of room. -/
def RecordM.ComesTo {α : Type} (action : RecordM β σ α) (m : Machine β σ) (plain : Prop)
    (expected : Except RecordError α) : Prop :=
  action.Ends m (fun a m' => m.Keeps plain m' ∧ (plain → m.stack.givenRoom expected = .ok a))
    (fun e m' => m.Keeps plain m' ∧ (plain → m.stack.givenRoom expected = .error e))
    (fun _ => ¬ plain)

/-- A plain read that is expected to give something gives it, with room for a key. -/
theorem RecordM.ComesTo.exists_ok {α : Type} {action : RecordM β σ α} {m : Machine β σ}
    {plain : Prop} {a : α} (h : action.ComesTo m plain (.ok a)) (hplain : plain)
    (room : m.HasRoom) : ∃ m', action m = .ok a m' := by
  have hends : action.Ends m (fun b _ => b = a) (fun _ _ => False) (fun _ => False) := by
    refine h.mono (fun b m' hb => ?_) (fun e m' he => ?_) (fun _ hnot => hnot hplain)
    · have hexpected := hb.2 hplain
      rw [room.givenRoom] at hexpected
      exact (Except.ok.inj hexpected).symm
    · have hexpected := he.2 hplain
      rw [room.givenRoom] at hexpected
      cases hexpected
  obtain ⟨b, m', hrun, rfl⟩ := hends.exists_ok
  exact ⟨m', hrun⟩

theorem eq_table_of_kind {v : Value} (h : v.kind = .table) : ∃ id, v = .table id := by
  cases v <;> simp [Value.kind] at h
  exact ⟨_, rfl⟩

/-! ## What plain reads come to -/

namespace TableView

variable (view : TableView) (h : Heap β) (f : Field) (key : String)

/-- Where a key of the table is. -/
def siteOf : FieldSite := ⟨view.name, key, view.table⟩

/-- The value under a key. -/
def value : Value := h.field view.table key

/-- The field after it was offered the value under a key, if that fits. -/
def fitted : Option Field := f.assign? (view.siteOf key) (view.value h key)

/-- What a field that may stay as it is comes to. -/
def mapped (coercion : Coercion) : Except RecordError (Option Field) :=
  if view.fitted h f key = none ∧ (view.value h key).kind ≠ .nil ∧ coercion = .strict then
    .error (.fieldType view.name key f.expected (view.value h key).kind)
  else .ok (view.fitted h f key)

/-- What a field that has to be filled comes to. -/
def required : Except RecordError Field :=
  match view.fitted h f key with
  | some f => .ok f
  | none => .error (.missingField view.name key f.expected (view.value h key).kind)

end TableView

/-- What the field of a mapping comes to. -/
def Mapping.read (mapping : Mapping ι) (view : TableView) (h : Heap β) (coercion : Coercion)
    (f : Field) : Except RecordError Field :=
  if mapping.isRequired then view.required h f mapping.key
  else (view.mapped h f mapping.key coercion).map (·.getD f)

/-! ## How reads end -/

namespace TableView

variable {site : Script.Site β σ} {view : TableView} {f : Field} {key : String}
  {m : Machine β σ} {s : Stack}

theorem ends_ofTop {name : String} {id : ObjectId} {returns : TableView → Machine β σ → Prop}
    {fails : StackError → Machine β σ → Prop} {stops : Stop → Prop}
    (htop : m.stack.peek top = some (.table id)) (h : returns ⟨name, id⟩ m) :
    (ofTop name).Ends m returns fails stops := by
  refine ends_stack (fun _ => rfl) ?_
  simp only [htop]
  exact ends_pure h

theorem ends_lookup (htop : m.stack.peek top = some (.table view.table)) :
    (view.lookup site f key).Ends m
      (fun r m' => m.Keeps (site.ReadsPlainly m.world.heap view.table key) m' ∧
        (site.ReadsPlainly m.world.heap view.table key → m.HasRoom ∧
          r = (view.fitted m.world.heap f key, (view.value m.world.heap key).kind)))
      (fun e m' => m.Keeps (site.ReadsPlainly m.world.heap view.table key) m' ∧
        (site.ReadsPlainly m.world.heap view.table key → ¬ m.HasRoom ∧ e = m.stack.overflow))
      (fun _ => ¬ site.ReadsPlainly m.world.heap view.table key) := by
  obtain ⟨s, hs⟩ := Stack.exists_extend_of_peek_top htop
  have hkeyed : m.stack.extend [.text key] = s.extend [.table view.table, .text key] := by
    rw [hs, Stack.extend_extend]
    rfl
  refine ends_bind (ends_push (fun hroom => ?_) (fun hfull => ?_))
  · have htable : (m.stack.extend [.text key]).table (-2) = .ok view.table := by
      rw [hkeyed, Stack.table_second_extend]
    refine ends_bind (ends_bind (ends_view_table htable (ends_bind (ends_popValue rfl ?_))))
    refine ends_bind (ends_readField (fun v w hread => ?_) (fun hnot e w => ?_) fun hnot _ => hnot)
    · refine ends_push (fun _ => ?_) (fun hfull => absurd hroom (Nat.not_lt_of_le hfull))
      refine ends_stack (fun _ => rfl) ?_
      simp only [Stack.kind_top_extend, Stack.peek_top_extend_singleton, Option.bind_some]
      refine ends_bind (ends_pop [v] rfl (ends_bind (ends_log (ends_pure ⟨⟨rfl, ?_⟩, ?_⟩))))
      · intro hplain
        rw [(hread hplain).2]
      · intro hplain
        rw [(hread hplain).1]
        exact ⟨hroom, rfl⟩
    · exact ⟨⟨rfl, fun hplain => absurd hplain hnot⟩, fun hplain => absurd hplain hnot⟩
  · exact ⟨⟨rfl, fun _ => rfl⟩, fun _ => ⟨Nat.not_lt_of_le hfull, rfl⟩⟩

theorem givenRoom_of_overflow {α : Type} {expected : Except RecordError α} {e : StackError}
    (h : ¬ m.HasRoom ∧ e = m.stack.overflow) :
    m.stack.givenRoom expected = .error (.stack e) := by
  rw [h.2]
  exact if_neg h.1

theorem mapField_comesTo (htop : m.stack.peek top = some (.table view.table)) :
    (view.mapField site f key).ComesTo m (site.ReadsPlainly m.world.heap view.table key)
      (view.mapped m.world.heap f key m.stack.config.coercion) := by
  refine ends_bind (ends_mapError ((ends_lookup htop).mono ?_ ?_ (fun _ h => h)))
  · rintro ⟨assigned, found⟩ m' ⟨hkeeps, hread⟩
    refine ends_stack (fun _ => rfl) ?_
    rw [hkeeps.stack]
    by_cases hstrict : assigned.isNone ∧ found ≠ .nil ∧ m.stack.config.coercion = .strict
    · rw [if_pos hstrict]
      refine ends_fail ⟨hkeeps, fun hplain => ?_⟩
      obtain ⟨hroom, ⟨⟩⟩ := hread hplain
      rw [hroom.givenRoom, mapped, if_pos ⟨Option.isNone_iff_eq_none.mp hstrict.1, hstrict.2⟩]
    · rw [if_neg hstrict]
      refine ends_pure ⟨hkeeps, fun hplain => ?_⟩
      obtain ⟨hroom, ⟨⟩⟩ := hread hplain
      rw [hroom.givenRoom, mapped,
        if_neg fun h => hstrict ⟨Option.isNone_iff_eq_none.mpr h.1, h.2⟩]
  · exact fun e m' h => ⟨h.1, fun hplain => givenRoom_of_overflow (h.2 hplain)⟩

theorem requireField_comesTo (htop : m.stack.peek top = some (.table view.table)) :
    (view.requireField site f key).ComesTo m (site.ReadsPlainly m.world.heap view.table key)
      (view.required m.world.heap f key) := by
  refine ends_bind (ends_mapError ((ends_lookup htop).mono ?_ ?_ (fun _ h => h)))
  · rintro ⟨assigned, found⟩ m' ⟨hkeeps, hread⟩
    cases assigned with
    | some f' =>
      refine ends_pure ⟨hkeeps, fun hplain => ?_⟩
      obtain ⟨hroom, hread⟩ := hread hplain
      obtain ⟨hfitted, -⟩ := Prod.mk.inj hread
      rw [hroom.givenRoom, required, ← hfitted]
    | none =>
      refine ends_fail ⟨hkeeps, fun hplain => ?_⟩
      obtain ⟨hroom, hread⟩ := hread hplain
      obtain ⟨hfitted, hfound⟩ := Prod.mk.inj hread
      rw [hroom.givenRoom, required, ← hfitted, hfound]
  · exact fun e m' h => ⟨h.1, fun hplain => givenRoom_of_overflow (h.2 hplain)⟩

end TableView

theorem Mapping.apply_comesTo {site : Script.Site β σ} {view : TableView} {f : Field}
    {m : Machine β σ} (mapping : Mapping ι)
    (htop : m.stack.peek top = some (.table view.table)) :
    (mapping.apply site view f).ComesTo m
      (site.ReadsPlainly m.world.heap view.table mapping.key)
      (mapping.read view m.world.heap m.stack.config.coercion f) := by
  unfold Mapping.apply Mapping.read
  by_cases hrequired : mapping.isRequired
  · simp only [hrequired, if_true]
    exact TableView.requireField_comesTo htop
  · simp only [hrequired, Bool.false_eq_true, if_false]
    refine ends_bind ((TableView.mapField_comesTo htop).mono ?_ ?_ (fun _ h => h))
    · rintro r m' ⟨hkeeps, hread⟩
      exact ends_pure ⟨hkeeps, fun hplain => by rw [m.stack.givenRoom_map, hread hplain]; rfl⟩
    · rintro e m' ⟨hkeeps, hread⟩
      exact ⟨hkeeps, fun hplain => by rw [m.stack.givenRoom_map, hread hplain]; rfl⟩

end ScriptBridge
