import ScriptBridge.Proofs.Script.PlainRead
import ScriptBridge.Proofs.Stack.Reads
import ScriptBridge.Proofs.Table.Lookup

/-!
# Writes without metamethods

A host that writes a key of a table runs code of a script only if the table has a metatable, the
table does not hold the key, and the metatable says what to do then. `Script.Site.WritesPlainly`
rules that out: such a write files the value in the table, and `readsPlainly_of_written` says that
the key then gives it.
-/

namespace ScriptBridge

variable {β σ : Type}

/-- The heap with a value under a key of a table. -/
def Heap.storing (h : Heap β) (id : ObjectId) (key : String) (v : Value) : Heap β :=
  h.modifyTable id (·.set (.text key) v)

/-- Writing a key of a table runs no metamethod. There is such a table, and it has no metatable, or
a call can be made and the table holds the key or its metatable has nothing to say. -/
structure Script.Site.WritesPlainly (site : Script.Site β σ) (h : Heap β) (id : ObjectId)
    (key : String) : Prop where
  known : id < h.tables.size
  plain : (h.table id).metatable = none ∨
    site.around.level + 1 < Script.nestingLimit ∧
      ((h.table id).get (.text key) ≠ .nil ∨ h.metamethod (.table id) "__newindex" = .nil)

namespace Script.Site

variable {site : Script.Site β σ} {w : World β σ} {id metatable : ObjectId} {key : String}
  {v : Value}

theorem rawStore_text (site : Script.Site β σ) (id : ObjectId) (key : String) (v : Value)
    (w : World β σ) :
    site.rawStore id (.text key) v w = .ok () { w with heap := w.heap.storing id key v } := rfl

theorem storeBeyond_of_nil (limit : Nat) (place : Place)
    (h : w.heap.metamethod (.table id) "__newindex" = .nil) :
    site.storeBeyond (limit + 1) place (.table id) (.text key) v w =
      .ok () { w with heap := w.heap.storing id key v } := by
  have hheap : (ScriptM.heap : ScriptM β σ (Heap β)) w = .ok w.heap w := rfl
  simp only [storeBeyond]
  rw [bind_of_ok hheap]
  simp only [h]
  exact rawStore_text site id key v w

/-- A write that needs no metamethod files the value in the table. -/
theorem store_of_plain (place : Place)
    (h : (w.heap.table id).get (.text key) ≠ .nil ∨
      w.heap.metamethod (.table id) "__newindex" = .nil) :
    site.store place (.table id) (.text key) v w =
      .ok () { w with heap := w.heap.storing id key v } := by
  simp only [store]
  rw [bind_of_ok (present?_table id (.text key) w)]
  by_cases habsent : (w.heap.table id).get (.text key) = .nil
  · have hmeta := h.resolve_left (fun hne => hne habsent)
    simp only [habsent, if_true]
    exact storeBeyond_of_nil 1999 place hmeta
  · simp only [if_neg habsent]
    exact rawStore_text site id key v w

/-- The host writes to a table without a metatable as it is. -/
theorem writeField_of_none (key v : Value) (h : (w.heap.table id).metatable = none) :
    site.writeField id key v w =
      site.rawStore id key (w.heap.attach v).1 { w with heap := (w.heap.attach v).2 } := by
  simp only [writeField]
  rw [ScriptM.attach_bind, Heap.table_attach, h]
  rfl

/-- The host writes to a table with a metatable as a call. -/
theorem writeField_of_some (key v : Value) (h : (w.heap.table id).metatable = some metatable) :
    site.writeField id key v w =
      (site.guarded 3 >>= fun inner => inner.store .nowhere (.table id) key (w.heap.attach v).1)
        { w with heap := (w.heap.attach v).2 } := by
  simp only [writeField]
  rw [ScriptM.attach_bind, Heap.table_attach, h]
  rfl

/-- A plain write of the host. -/
theorem writeField_of_plain (h : site.WritesPlainly w.heap id key)
    (hattach : w.heap.attach v = (v, w.heap)) :
    site.writeField id (.text key) v w = .ok () { w with heap := w.heap.storing id key v } := by
  cases hmeta : (w.heap.table id).metatable with
  | none =>
    rw [writeField_of_none _ v hmeta, hattach]
    exact rawStore_text site id key v w
  | some metatable =>
    obtain hnone | ⟨hlevel, hplain⟩ := h.plain
    · rw [hmeta] at hnone
      cases hnone
    · obtain ⟨inner, hinner⟩ := guarded_of_lt 3 hlevel w
      rw [writeField_of_some _ v hmeta, hattach]
      exact (bind_of_ok hinner).trans (store_of_plain .nowhere hplain)

/-- What was written plainly is read plainly, as long as the table is as the write left it. -/
theorem readsPlainly_of_written {h h' : Heap β} (plain : site.WritesPlainly h id key)
    (hv : v ≠ .nil) (same : h'.table id = (h.storing id key v).table id) :
    site.ReadsPlainly h' id key ∧ h'.field id key = v.detached := by
  have htable : h'.table id = (h.table id).set (.text key) v :=
    same.trans (Heap.table_modifyTable_same plain.known _)
  have hget : (h'.table id).get (.text key) = v := by
    rw [htable, Table.get_set_same]
  refine ⟨?_, congrArg Value.detached hget⟩
  rcases plain.plain with hnone | ⟨hlevel, -⟩
  · left
    rw [htable, Table.metatable_set, hnone]
  · right
    exact ⟨hlevel, .inl (hget ▸ hv)⟩

end Script.Site

end ScriptBridge
