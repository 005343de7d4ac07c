import ScriptBridge.Heap
import ScriptBridge.Proofs.Text.Utf8

/-!
# Looking up what was filed

A key gives the value that was put under it last, whether the key is in the range of the items, is
the next one after it, or is filed among the entries: `Table.get_set_same`. The other keys give what
they gave before: `Table.get_set_ne`.
-/

namespace ScriptBridge

/-- Different texts are different keys. -/
theorem Value.text_inj {s t : String} (h : Value.text s = Value.text t) : s = t := by
  have hbytes : Bytes.ofString s = Bytes.ofString t := Value.string.inj h
  rw [← Bytes.toStringLossy_ofString s, hbytes, Bytes.toStringLossy_ofString]

namespace Table

/-! ## Entries -/

theorem lookup_replace_same {key : Value} {entries : List (Value × Value)} (value : Value)
    (known : entries.any (fun entry => entry.1 = key) = true) :
    lookup key (replace key value entries) = value := by
  induction entries with
  | nil => cases known
  | cons entry rest ih =>
    obtain ⟨k, v⟩ := entry
    by_cases hk : k = key
    · simp only [replace, if_pos hk, lookup, if_true]
    · have hrest : rest.any (fun entry => entry.1 = key) = true := by simpa [hk] using known
      simp only [replace, if_neg hk, lookup, ih hrest]

theorem lookup_filter_same (key : Value) (entries : List (Value × Value)) :
    lookup key (entries.filter fun entry => entry.1 ≠ key) = .nil := by
  induction entries with
  | nil => rfl
  | cons entry rest ih =>
    obtain ⟨k, v⟩ := entry
    by_cases hk : k = key
    · rw [List.filter_cons_of_neg (by simpa using hk)]
      exact ih
    · rw [List.filter_cons_of_pos (by simpa using hk)]
      simp only [lookup, if_neg hk]
      exact ih

theorem lookup_file_same (key value : Value) (entries : List (Value × Value)) :
    lookup key (file key value entries) = value := by
  simp only [file]
  by_cases hnil : value = .nil
  · rw [if_pos hnil, hnil]
    exact lookup_filter_same key entries
  · rw [if_neg hnil]
    by_cases hknown : entries.any (fun entry => entry.1 = key) = true
    · rw [if_pos hknown]
      exact lookup_replace_same value hknown
    · rw [if_neg hknown]
      exact if_pos rfl

theorem lookup_replace_ne {key other : Value} (ne : other ≠ key) (value : Value)
    (entries : List (Value × Value)) :
    lookup other (replace key value entries) = lookup other entries := by
  induction entries with
  | nil => rfl
  | cons entry rest ih =>
    obtain ⟨k, v⟩ := entry
    by_cases hk : k = key
    · have hother : ¬ k = other := fun h => ne (h.symm.trans hk)
      simp only [replace, if_pos hk, lookup, if_neg ne.symm, if_neg hother]
    · simp only [replace, if_neg hk, lookup, ih]

theorem lookup_filter_ne {key other : Value} (ne : other ≠ key) (entries : List (Value × Value)) :
    lookup other (entries.filter fun entry => entry.1 ≠ key) = lookup other entries := by
  induction entries with
  | nil => rfl
  | cons entry rest ih =>
    obtain ⟨k, v⟩ := entry
    by_cases hk : k = key
    · have hother : ¬ k = other := fun h => ne (h.symm.trans hk)
      rw [List.filter_cons_of_neg (by simpa using hk)]
      simp only [lookup, if_neg hother]
      exact ih
    · rw [List.filter_cons_of_pos (by simpa using hk)]
      simp only [lookup]
      rw [ih]

theorem lookup_file_ne {key other : Value} (ne : other ≠ key) (value : Value)
    (entries : List (Value × Value)) :
    lookup other (file key value entries) = lookup other entries := by
  simp only [file]
  by_cases hnil : value = .nil
  · rw [if_pos hnil]
    exact lookup_filter_ne ne entries
  · rw [if_neg hnil]
    by_cases hknown : entries.any (fun entry => entry.1 = key) = true
    · rw [if_pos hknown]
      exact lookup_replace_ne ne value entries
    · rw [if_neg hknown]
      exact if_neg ne.symm

/-! ## Tables -/

theorem find_put_same (t : Table) (key value : Value) : (t.put key value).find key = value := by
  cases key with
  | integer i =>
    by_cases hitem : 0 < i.toInt ∧ i.toInt ≤ t.items.size
    · have hlt : i.toInt.toNat - 1 < t.items.size := by omega
      simp only [put, find, if_pos hitem, Array.size_setIfInBounds]
      rw [Array.getD_eq_getD_getElem?, Array.getElem?_setIfInBounds_self_of_lt hlt,
        Option.getD_some]
    by_cases hnext : i.toInt = t.items.size + 1 ∧ value ≠ .nil
    · have hpushed : 0 < i.toInt ∧ i.toInt ≤ (t.items.push value).size := by
        rw [Array.size_push]
        omega
      have hlast : i.toInt.toNat - 1 = t.items.size := by omega
      simp only [put, find, if_neg hitem, if_pos hnext, if_pos hpushed, hlast]
      simp [Array.getD]
    · simp only [put, find, if_neg hitem, if_neg hnext]
      exact lookup_file_same _ value t.entries
  | _ => exact lookup_file_same _ value t.entries

theorem find_filed_ne {key other : Value} (ne : other ≠ key) (t : Table) (value : Value) :
    ({ t with entries := file key value t.entries } : Table).find other = t.find other := by
  cases other with
  | integer j => simp only [find, lookup_file_ne ne]
  | _ => exact lookup_file_ne ne value t.entries

theorem find_item_ne {i : Int64} {other : Value} (ne : other ≠ .integer i) (hpos : 0 < i.toInt)
    (t : Table) (value : Value) :
    ({ t with items := t.items.setIfInBounds (i.toInt.toNat - 1) value } : Table).find other =
      t.find other := by
  cases other with
  | integer j =>
    have hij : j.toInt ≠ i.toInt := fun h => ne (congrArg Value.integer (Int64.toInt_inj.mp h))
    simp only [find, Array.size_setIfInBounds]
    by_cases hj : 0 < j.toInt ∧ j.toInt ≤ t.items.size
    · have hplace : i.toInt.toNat - 1 ≠ j.toInt.toNat - 1 := by omega
      simp only [if_pos hj, Array.getD_eq_getD_getElem?, Array.getElem?_setIfInBounds_ne hplace]
    · simp only [if_neg hj]
  | _ => rfl

theorem find_push_ne {i : Int64} {other : Value} (ne : other ≠ .integer i) {t : Table}
    (next : i.toInt = t.items.size + 1) (value : Value) :
    ({ t with items := t.items.push value } : Table).find other = t.find other := by
  cases other with
  | integer j =>
    have hij : j.toInt ≠ i.toInt := fun h => ne (congrArg Value.integer (Int64.toInt_inj.mp h))
    simp only [find, Array.size_push]
    by_cases hj : 0 < j.toInt ∧ j.toInt ≤ t.items.size
    · have hpushed : 0 < j.toInt ∧ j.toInt ≤ ((t.items.size + 1 : Nat) : Int) := by omega
      have hplace : j.toInt.toNat - 1 < t.items.size := by omega
      simp only [if_pos hj, if_pos hpushed, Array.getD_eq_getD_getElem?,
        Array.getElem?_push_lt hplace, Array.getElem?_eq_getElem hplace]
    · have hpushed : ¬ (0 < j.toInt ∧ j.toInt ≤ ((t.items.size + 1 : Nat) : Int)) := by omega
      simp only [if_neg hj, if_neg hpushed]
  | _ => rfl

/-- The places of the other keys stay, even where a key becomes the one of a new item. -/
theorem find_put_ne {key other : Value} (ne : other ≠ key) (t : Table) (value : Value) :
    (t.put key value).find other = t.find other := by
  cases key with
  | integer i =>
    simp only [put]
    by_cases hitem : 0 < i.toInt ∧ i.toInt ≤ t.items.size
    · rw [if_pos hitem]
      exact find_item_ne ne hitem.1 t value
    · rw [if_neg hitem]
      by_cases hnext : i.toInt = t.items.size + 1 ∧ value ≠ .nil
      · rw [if_pos hnext]
        exact find_push_ne ne hnext.1 value
      · rw [if_neg hnext]
        exact find_filed_ne ne t value
  | _ => exact find_filed_ne ne t value

/-- A key gives the value that was put under it last. -/
theorem get_set_same (t : Table) (key value : Value) : (t.set key value).get key = value :=
  find_put_same t key.normalKey value

/-- The other keys give what they gave before. -/
theorem get_set_ne (t : Table) {key other : Value} (ne : other.normalKey ≠ key.normalKey)
    (value : Value) : (t.set key value).get other = t.get other :=
  find_put_ne ne t value

theorem metatable_set (t : Table) (key value : Value) :
    (t.set key value).metatable = t.metatable := by
  simp only [set]
  generalize key.normalKey = key
  cases key with
  | integer i =>
    simp only [put]
    split
    · rfl
    · split <;> rfl
  | _ => rfl

end Table

/-- A table of the heap that was changed. -/
theorem Heap.table_modifyTable_same {β : Type} {h : Heap β} {id : ObjectId}
    (known : id < h.tables.size) (f : Table → Table) :
    (h.modifyTable id f).table id = f (h.table id) := by
  simp [table, modifyTable, known, Array.getElem_modify]

/-- The other tables of the heap. -/
theorem Heap.table_modifyTable_ne {β : Type} {id other : ObjectId} (h : Heap β) (ne : other ≠ id)
    (f : Table → Table) : (h.modifyTable id f).table other = h.table other := by
  simp [table, modifyTable, Array.getElem?_modify, ne.symm]

end ScriptBridge
