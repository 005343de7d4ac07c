import ScriptBridge.Text.Search

/-!
# Text without a marker

`beforeFirst_cutBefore` says that the cut at a marker is the longest beginning of a text that ends
before the marker occurs for the first time. What is left holds no marker itself:
`beforeFirst_idem`, `not_infix_beforeFirst`. Text in which a marker cannot begin is kept in front of
any other: `beforeFirst_append`.
-/

namespace ScriptBridge

section Chars

variable {marker : List Char}

theorem beforeFirstChars_prefix (marker cs : List Char) : beforeFirstChars marker cs <+: cs := by
  induction cs with
  | nil => exact List.prefix_rfl
  | cons c cs ih =>
    unfold beforeFirstChars
    split
    · exact List.nil_prefix
    · exact List.cons_prefix_cons.mpr ⟨rfl, ih⟩

/-- What the cut leaves begins with exactly those beginnings of a text that end before the marker
occurs. -/
theorem prefix_beforeFirstChars_iff {p cs : List Char} :
    p <+: beforeFirstChars marker cs ↔
      p <+: cs ∧ ∀ before after, cs = before ++ (marker ++ after) → p.length ≤ before.length := by
  induction cs generalizing p with
  | nil =>
    constructor
    · intro h
      have hnil : p = [] := List.prefix_nil.mp h
      subst hnil
      exact ⟨List.nil_prefix, fun _ _ _ => Nat.zero_le _⟩
    · intro h
      exact h.1
  | cons c cs ih =>
    by_cases found : marker.isPrefixOf (c :: cs)
    · rw [beforeFirstChars, if_pos found]
      constructor
      · intro h
        have hnil : p = [] := List.prefix_nil.mp h
        subst hnil
        exact ⟨List.nil_prefix, fun _ _ _ => Nat.zero_le _⟩
      · rintro ⟨-, hends⟩
        obtain ⟨after, hafter⟩ := List.isPrefixOf_iff_prefix.mp found
        have hlength : p.length ≤ 0 := hends [] after hafter.symm
        have hnil : p = [] := List.length_eq_zero_iff.mp (Nat.le_zero.mp hlength)
        exact List.prefix_nil.mpr hnil
    · rw [beforeFirstChars, if_neg found]
      cases p with
      | nil => simp
      | cons d p =>
        simp only [List.cons_prefix_cons, ih, and_assoc]
        constructor
        · rintro ⟨hd, hp, hends⟩
          refine ⟨hd, hp, ?_⟩
          intro before after hcs
          cases before with
          | nil => exact absurd (List.isPrefixOf_iff_prefix.mpr ⟨after, hcs.symm⟩) found
          | cons b before =>
            have hlength := hends before after (List.cons.inj hcs).2
            exact Nat.succ_le_succ hlength
        · rintro ⟨hd, hp, hends⟩
          refine ⟨hd, hp, ?_⟩
          intro before after hcs
          have hlength := hends (c :: before) after (by rw [hcs, List.cons_append])
          exact Nat.le_of_succ_le_succ hlength

theorem beforeFirstChars_idem (marker cs : List Char) :
    beforeFirstChars marker (beforeFirstChars marker cs) = beforeFirstChars marker cs := by
  induction cs with
  | nil => rfl
  | cons c cs ih =>
    by_cases found : marker.isPrefixOf (c :: cs)
    · rw [beforeFirstChars, if_pos found]
      rfl
    · -- what is left is a prefix, so the marker does not stand at its beginning either
      have hkept : c :: beforeFirstChars marker cs <+: c :: cs :=
        List.cons_prefix_cons.mpr ⟨rfl, beforeFirstChars_prefix marker cs⟩
      have hfound : ¬ marker.isPrefixOf (c :: beforeFirstChars marker cs) := by
        intro h
        apply found
        rw [List.isPrefixOf_iff_prefix] at h ⊢
        exact h.trans hkept
      rw [beforeFirstChars, if_neg found, beforeFirstChars, if_neg hfound, ih]

/-- No marker is left before the first one. -/
theorem not_infix_beforeFirstChars (hmarker : marker ≠ []) (cs : List Char) :
    ¬ marker <:+: beforeFirstChars marker cs := by
  rintro ⟨before, after, hcut⟩
  -- the cut of the cut is the cut, so it ends before a marker within it
  have hwhole :
      beforeFirstChars marker cs <+: beforeFirstChars marker (beforeFirstChars marker cs) :=
    (beforeFirstChars_idem marker cs).symm ▸ List.prefix_rfl
  have hends := (prefix_beforeFirstChars_iff.mp hwhole).2 before after
    (by rw [← hcut, List.append_assoc])
  have hlength := congrArg List.length hcut
  have hpos : 0 < marker.length := List.length_pos_iff.mpr hmarker
  simp only [List.length_append] at hlength
  omega

/-- A marker that begins with a character does not begin before that character. -/
theorem beforeFirstChars_append {a : Char} {kept : List Char} (hkept : a ∉ kept)
    (cs : List Char) :
    beforeFirstChars (a :: marker) (kept ++ cs) = kept ++ beforeFirstChars (a :: marker) cs := by
  induction kept with
  | nil => rfl
  | cons c kept ih =>
    rw [List.mem_cons, not_or] at hkept
    obtain ⟨hc, hrest⟩ := hkept
    have hbegin : ¬ (a :: marker).isPrefixOf (c :: (kept ++ cs)) := by
      intro h
      rw [List.isPrefixOf_iff_prefix, List.cons_prefix_cons] at h
      exact hc h.1
    rw [List.cons_append, beforeFirstChars, if_neg hbegin, ih hrest, List.cons_append]

end Chars

/-- A beginning of a text that ends before a marker occurs anywhere. -/
def EndsBefore (marker text start : String) : Prop :=
  start.toList <+: text.toList ∧ ∀ before after,
    text.toList = before ++ (marker.toList ++ after) → start.toList.length ≤ before.length

/-- The longest beginning of a text that ends before a marker occurs. -/
structure CutBefore (marker text cut : String) : Prop where
  ends : EndsBefore marker text cut
  longest : ∀ start, EndsBefore marker text start → start.toList <+: cut.toList

/-- Nothing is cut off where there is no marker. -/
theorem CutBefore.eq_of_absent {marker text cut : String} (h : CutBefore marker text cut)
    (absent : ¬ marker.toList <:+: text.toList) : cut = text := by
  have hends : EndsBefore marker text text := by
    refine ⟨List.prefix_rfl, ?_⟩
    intro before after htext
    exact absurd ⟨before, after, by rw [htext, List.append_assoc]⟩ absent
  apply String.toList_inj.mp
  exact h.ends.1.eq_of_length_le (h.longest text hends).length_le

theorem beforeFirst_cutBefore (marker text : String) :
    CutBefore marker text (beforeFirst marker text) := by
  have hcut : ∀ start : String, start.toList <+: (beforeFirst marker text).toList ↔
      EndsBefore marker text start := by
    intro start
    rw [beforeFirst, String.toList_ofList]
    exact prefix_beforeFirstChars_iff
  constructor
  · exact (hcut _).mp List.prefix_rfl
  · intro start hends
    exact (hcut start).mpr hends

theorem not_infix_beforeFirst {marker : String} (hmarker : marker.toList ≠ []) (text : String) :
    ¬ marker.toList <:+: (beforeFirst marker text).toList := by
  rw [beforeFirst, String.toList_ofList]
  exact not_infix_beforeFirstChars hmarker text.toList

theorem beforeFirst_idem (marker text : String) :
    beforeFirst marker (beforeFirst marker text) = beforeFirst marker text := by
  simp only [beforeFirst, String.toList_ofList, beforeFirstChars_idem]

/-- Text without the character with which a marker begins is kept in front of other text. -/
theorem beforeFirst_append {marker kept : String} {a : Char} {rest : List Char}
    (hmarker : marker.toList = a :: rest) (hkept : a ∉ kept.toList) (text : String) :
    beforeFirst marker (kept ++ text) = kept ++ beforeFirst marker text := by
  apply String.toList_inj.mp
  simp only [beforeFirst, String.toList_append, String.toList_ofList, hmarker]
  exact beforeFirstChars_append hkept _

end ScriptBridge
