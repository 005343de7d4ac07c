import ScriptBridge.Proofs.Script.PlainWrite

/-!
# Accesses that find no metamethod

Whether a read or a write finds a metamethod is a fact of the heap alone: `Heap.ReadsRaw` and
`Heap.WritesRaw`, for keys and values of any kind. The host makes the access to a table with a
metatable as a call of its own, so where no further call may be made it can still fail. A table that
is reached gives or takes what is asked: `readField_of_raw`, `writeField_of_raw`.
-/

namespace ScriptBridge

variable {β σ : Type}

/-- One more call may be made within those that are running. -/
def Script.Site.CanNest (site : Script.Site β σ) : Prop :=
  site.around.level + 1 < Script.nestingLimit

/-- The host can access a table: there is no metatable, or one more call may be made. -/
def Script.Site.Reaches (site : Script.Site β σ) (h : Heap β) (id : ObjectId) : Prop :=
  (h.table id).metatable = none ∨ site.CanNest

namespace Heap

/-- Reading a key of a table finds no metamethod: there is no metatable, the table holds the key, or
the metatable has nothing to say. The key is looked up as scripts get it. -/
def ReadsRaw (h : Heap β) (id : ObjectId) (key : Value) : Prop :=
  (h.table id).metatable = none ∨ (h.table id).get (h.attach key).1 ≠ .nil ∨
    h.metamethod (.table id) "__index" = .nil

/-- Writing a key of a table finds no metamethod. -/
def WritesRaw (h : Heap β) (id : ObjectId) (key : String) : Prop :=
  (h.table id).metatable = none ∨ (h.table id).get (.text key) ≠ .nil ∨
    h.metamethod (.table id) "__newindex" = .nil

end Heap

/-! ## Reads and writes of the host -/

namespace Script.Site

variable {site : Script.Site β σ} {w w' : World β σ} {id : ObjectId} {key v : Value}
  {text : String}

theorem guarded_of_not_canNest (argCount : Nat) (h : ¬ site.CanNest) (w : World β σ) :
    ∃ failure, site.guarded argCount w = .error failure w := by
  have hdeepened : ∃ failure, (site.reporting.around.deepened : ScriptM β σ Surroundings) w =
      .error failure w := by
    have hdeepest : nestingLimit ≤ site.reporting.around.level + 1 := Nat.le_of_not_lt h
    simp only [Surroundings.deepened, if_pos hdeepest]
    exact ⟨_, rfl⟩
  obtain ⟨failure, hfailure⟩ := hdeepened
  exact ⟨failure, bind_of_error hfailure⟩

/-- A read that finds no metamethod comes to something, if it can be made. -/
theorem readField_of_raw (raw : w.heap.ReadsRaw id key) (reaches : site.Reaches w.heap id) :
    ∃ v w', site.readField id key w = .ok v w' := by
  let attached : World β σ := { w with heap := (w.heap.attach key).2 }
  cases hmeta : (w.heap.table id).metatable with
  | none => exact ⟨_, _, readField_of_none key hmeta⟩
  | some metatable =>
    have hplain : (attached.heap.table id).get (w.heap.attach key).1 ≠ .nil ∨
        attached.heap.metamethod (.table id) "__index" = .nil := by
      simp only [attached, Heap.table_attach, Heap.metamethod_attach]
      exact raw.resolve_left (by rw [hmeta]; exact Option.some_ne_none metatable)
    have nests : site.CanNest :=
      reaches.resolve_left (by rw [hmeta]; exact Option.some_ne_none metatable)
    obtain ⟨inner, hinner⟩ := guarded_of_lt 2 nests attached
    rw [readField_of_some key hmeta]
    exact ⟨_, _, (bind_of_ok hinner).trans (bind_of_ok (index_of_plain .nowhere hplain))⟩

/-- A read that came to something could be made. -/
theorem reaches_of_read (read : site.readField id key w = .ok v w') : site.Reaches w.heap id := by
  by_cases nests : site.CanNest
  · exact .inr nests
  · cases hmeta : (w.heap.table id).metatable with
    | none => exact .inl hmeta
    | some metatable =>
      -- reading a table with a metatable is a call, which could not be made
      obtain ⟨failure, hfailure⟩ :=
        guarded_of_not_canNest 2 nests { w with heap := (w.heap.attach key).2 }
      rw [readField_of_some key hmeta, bind_of_error hfailure] at read
      cases read

/-- A read of a text that found no metamethod and came to something was plain. -/
theorem readsPlainly_of_read (raw : w.heap.ReadsRaw id (.text text))
    (read : site.readField id (.text text) w = .ok v w') :
    site.ReadsPlainly w.heap id text := by
  obtain hnone | nests := reaches_of_read read
  · exact .inl hnone
  · exact raw.imp_right fun hplain => ⟨nests, hplain⟩

/-- A write that was done could be made. -/
theorem reaches_of_write (written : site.writeField id key v w = .ok () w') :
    site.Reaches w.heap id := by
  by_cases nests : site.CanNest
  · exact .inr nests
  · cases hmeta : (w.heap.table id).metatable with
    | none => exact .inl hmeta
    | some metatable =>
      obtain ⟨failure, hfailure⟩ :=
        guarded_of_not_canNest 3 nests { w with heap := (w.heap.attach v).2 }
      rw [writeField_of_some key v hmeta, bind_of_error hfailure] at written
      cases written

/-- A write that found no metamethod and was done was plain. -/
theorem writesPlainly_of_write (known : id < w.heap.tables.size) (raw : w.heap.WritesRaw id text)
    (written : site.writeField id (.text text) v w = .ok () w') :
    site.WritesPlainly w.heap id text := by
  refine ⟨known, ?_⟩
  obtain hnone | nests := reaches_of_write written
  · exact .inl hnone
  · exact raw.imp_right fun hplain => ⟨nests, hplain⟩

/-- A write that finds no metamethod is done, if it can be made. -/
theorem writeField_of_raw (raw : w.heap.WritesRaw id text) (reaches : site.Reaches w.heap id)
    (v : Value) :
    ∃ w', site.writeField id (.text text) v w = .ok () w' := by
  let attached : World β σ := { w with heap := (w.heap.attach v).2 }
  cases hmeta : (w.heap.table id).metatable with
  | none => exact ⟨_, writeField_of_none _ v hmeta⟩
  | some metatable =>
    have hplain : (attached.heap.table id).get (.text text) ≠ .nil ∨
        attached.heap.metamethod (.table id) "__newindex" = .nil := by
      simp only [attached, Heap.table_attach, Heap.metamethod_attach]
      exact raw.resolve_left (by rw [hmeta]; exact Option.some_ne_none metatable)
    have nests : site.CanNest :=
      reaches.resolve_left (by rw [hmeta]; exact Option.some_ne_none metatable)
    obtain ⟨inner, hinner⟩ := guarded_of_lt 3 nests attached
    rw [writeField_of_some _ v hmeta]
    exact ⟨_, (bind_of_ok hinner).trans (store_of_plain .nowhere hplain)⟩

end Script.Site

end ScriptBridge
