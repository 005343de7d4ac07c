import ScriptBridge.Proofs.Stack.Ends

/-!
# Reads without metamethods

A host that reads a key of a table runs code of a script only if the table has a metatable, the
table does not hold the key, and the metatable says what to do then. `Script.Site.ReadsPlainly`
rules that out for a key that is a text: such a read gives what the table holds and changes nothing.
-/

namespace ScriptBridge

variable {α β σ : Type}

/-- Reading a key of a table runs no metamethod: there is no metatable, or a call can be made and
the table holds the key or its metatable has nothing to say. -/
def Script.Site.ReadsPlainly (site : Script.Site β σ) (h : Heap β) (id : ObjectId)
    (key : String) : Prop :=
  (h.table id).metatable = none ∨
    site.around.level + 1 < Script.nestingLimit ∧
      ((h.table id).get (.text key) ≠ .nil ∨ h.metamethod (.table id) "__index" = .nil)

/-! ## Looking a key up -/

namespace Heap

/-- A look-up changes no more of a table than its layout. -/
theorem table_read (h : Heap β) (id other : ObjectId) (key : Value) :
    (h.read id key).2.table other = h.table other ∨
      (h.read id key).2.table other = (h.table other).touched key := by
  simp only [read]
  split
  · by_cases hother : id = other
    · subst hother
      by_cases known : id < h.tables.size
      · simp [table, modifyTable, known, Array.getElem_modify]
      · simp [table, modifyTable, known]
    · simp [table, modifyTable, Array.getElem?_modify, hother]
  · exact .inl rfl

theorem get_read (h : Heap β) (id other : ObjectId) (key k : Value) :
    ((h.read id key).2.table other).get k = (h.table other).get k := by
  rcases h.table_read id other key with hsame | htouched
  · rw [hsame]
  · rw [htouched]
    rfl

theorem metamethod_read (h : Heap β) (id other : ObjectId) (key : Value) (event : String) :
    (h.read id key).2.metamethod (.table other) event = h.metamethod (.table other) event := by
  have hmetatable : ((h.read id key).2.table other).metatable = (h.table other).metatable := by
    rcases h.table_read id other key with hsame | htouched
    · rw [hsame]
    · rw [htouched]
      rfl
  simp only [metamethod, metatable, hmetatable, get_read]

theorem table_attach (h : Heap β) (v : Value) (id : ObjectId) :
    (h.attach v).2.table id = h.table id := by
  cases v <;> rfl

theorem metamethod_attach (h : Heap β) (v u : Value) (event : String) :
    (h.attach v).2.metamethod u event = h.metamethod u event := by
  cases v <;> rfl

end Heap

/-- The host hands a value to scripts and looks at the heap. -/
theorem ScriptM.attach_bind (v : Value) (next : Value → Heap β → ScriptM β σ α) (w : World β σ) :
    (do next (← ScriptM.allocate fun h => h.attach v) (← ScriptM.heap)) w =
      next (w.heap.attach v).1 (w.heap.attach v).2 { w with heap := (w.heap.attach v).2 } := rfl

theorem ScriptM.readTable_text (id : ObjectId) (key : String) (w : World β σ) :
    ScriptM.readTable id (.text key) w = .ok ((w.heap.table id).get (.text key)) w := rfl

/-- There may be one more call within the others. -/
theorem Script.Surroundings.deepened_of_lt {s : Script.Surroundings}
    (h : s.level + 1 < Script.nestingLimit) (w : World β σ) :
    s.deepened w = .ok { s with level := s.level + 1 } w := by
  simp only [deepened, if_neg (Nat.not_le_of_lt h)]
  rfl

namespace Script.Site

variable {site : Script.Site β σ} {w : World β σ} {id metatable : ObjectId} {key : String}

theorem guarded_of_lt (argCount : Nat) (h : site.around.level + 1 < nestingLimit)
    (w : World β σ) : ∃ inner, site.guarded argCount w = .ok inner w :=
  ⟨_, bind_of_ok (Surroundings.deepened_of_lt (s := site.reporting.around) h w)⟩

/-- The value under a key of a table, whatever its metatable says. -/
theorem present?_table (id : ObjectId) (key : Value) (w : World β σ) :
    present? (.table id) key w =
      .ok (if (w.heap.table id).get key = .nil then none else some ((w.heap.table id).get key))
        { w with heap := (w.heap.read id key).2 } := by
  have hread : (ScriptM.readTable id key : ScriptM β σ Value) w =
      .ok ((w.heap.table id).get key) { w with heap := (w.heap.read id key).2 } := rfl
  simp only [present?]
  rw [bind_of_ok hread]
  generalize (w.heap.table id).get key = v
  cases v <;> rfl

theorem indexBeyond_of_nil (limit : Nat) (place : Place) (key : Value)
    (h : w.heap.metamethod (.table id) "__index" = .nil) :
    site.indexBeyond (limit + 1) place (.table id) key w = .ok .nil w := by
  have hheap : (ScriptM.heap : ScriptM β σ (Heap β)) w = .ok w.heap w := rfl
  simp only [indexBeyond]
  rw [bind_of_ok hheap]
  simp only [h]
  rfl

/-- An access that needs no metamethod gives what the table holds. -/
theorem index_of_plain (place : Place) {key : Value}
    (h : (w.heap.table id).get key ≠ .nil ∨ w.heap.metamethod (.table id) "__index" = .nil) :
    site.index place (.table id) key w =
      .ok ((w.heap.table id).get key) { w with heap := (w.heap.read id key).2 } := by
  simp only [index]
  rw [bind_of_ok (present?_table id key w)]
  by_cases habsent : (w.heap.table id).get key = .nil
  · have hmeta : (w.heap.read id key).2.metamethod (.table id) "__index" = .nil := by
      rw [Heap.metamethod_read]
      exact h.resolve_left (fun hne => hne habsent)
    simp only [habsent, if_true]
    exact indexBeyond_of_nil (w := { w with heap := (w.heap.read id key).2 }) 1999 place key hmeta
  · simp only [if_neg habsent]
    rfl

/-- The host reads a table without a metatable as it is. -/
theorem readField_of_none (key : Value) (h : (w.heap.table id).metatable = none) :
    site.readField id key w =
      (ScriptM.readTable id (w.heap.attach key).1 >>= fun v => pure v.detached)
        { w with heap := (w.heap.attach key).2 } := by
  simp only [readField]
  rw [ScriptM.attach_bind, Heap.table_attach, h]
  rfl

/-- The host reads a table with a metatable as a call. -/
theorem readField_of_some (key : Value) (h : (w.heap.table id).metatable = some metatable) :
    site.readField id key w =
      (site.guarded 2 >>= fun inner =>
        inner.index .nowhere (.table id) (w.heap.attach key).1 >>= fun v => pure v.detached)
        { w with heap := (w.heap.attach key).2 } := by
  simp only [readField]
  rw [ScriptM.attach_bind, Heap.table_attach, h]
  rfl

/-- A plain read of the host. -/
theorem readField_of_plain (h : site.ReadsPlainly w.heap id key) :
    site.readField id (.text key) w = .ok ((w.heap.table id).get (.text key)).detached w := by
  cases hmeta : (w.heap.table id).metatable with
  | none =>
    rw [readField_of_none _ hmeta]
    exact bind_of_ok (ScriptM.readTable_text id key w)
  | some metatable =>
    obtain hnone | ⟨hlevel, hplain⟩ := h
    · rw [hmeta] at hnone
      cases hnone
    · obtain ⟨inner, hinner⟩ := guarded_of_lt 2 hlevel w
      rw [readField_of_some _ hmeta]
      exact (bind_of_ok hinner).trans (bind_of_ok (index_of_plain .nowhere hplain))

end Script.Site

end ScriptBridge
