import ScriptBridge.Proofs.Number.Exact

/-!
# The integer views of numbers

A number has two integer views: the integer that it is, if it is one, and the integer that is left
when its fractional part is dropped. Both say of a double what its exact value says, wherever that
fits 64 bits, and nothing of what is not a finite number: `integer_views_exact`.
-/

namespace ScriptBridge

/-! ## Rounding toward zero -/

@[simp] theorem towardZero_intCast (k : ℤ) : towardZero k = k := by
  rw [towardZero]
  split
  · exact Int.floor_intCast k
  · exact Int.ceil_intCast k

theorem towardZero_mono {p q : ℚ} (hpq : p ≤ q) : towardZero p ≤ towardZero q := by
  simp only [towardZero]
  split
  next hp =>
    rw [if_pos (hp.trans hpq)]
    exact Int.floor_mono hpq
  next hp =>
    split
    next hq =>
      -- from below zero to above: the one is rounded up to zero at most, the other down to it
      have hceil : ⌈p⌉ ≤ 0 := Int.ceil_le.mpr (by exact_mod_cast (lt_of_not_ge hp).le)
      exact hceil.trans (Int.floor_nonneg.mpr hq)
    next => exact Int.ceil_mono hpq

/-- Nothing but a fractional part is dropped to zero. -/
theorem towardZero_eq_zero {q : ℚ} (low : -1 < q) (high : q < 1) : towardZero q = 0 := by
  rw [towardZero]
  split
  next hq => exact Int.floor_eq_zero_iff.mpr ⟨hq, high⟩
  next hq => exact Int.ceil_eq_zero_iff.mpr ⟨low, (lt_of_not_ge hq).le⟩

/-! ## Doubles -/

namespace Double

/-- Every double is a finite number, one of the two infinities, or not a number. -/
theorem isFinite_eq_false_iff {d : Double} :
    d.isFinite = false ↔ d.isNaN = true ∨ d = infinity ∨ d = infinity.neg := by
  have h52 : pow2 52 = 4503599627370496 := rfl
  have h11 : pow2 11 = 2048 := rfl
  constructor
  · intro h
    have hexponent : d.exponentField = 2047 := by
      simp only [isFinite, exponentField, h11, decide_eq_false_iff_not] at h ⊢
      omega
    by_cases hfraction : d.fraction = 0
    · refine .inr ?_
      -- no bit is left but the sign
      have hbits : d.bits.toNat = 0x7ff0000000000000 ∨ d.bits.toNat = 0xfff0000000000000 := by
        have hlt := d.bits.toNat_lt
        simp only [exponentField, fraction, h52, h11] at hexponent hfraction
        omega
      refine hbits.imp (fun hbits => ?_) fun hbits => ?_
      · exact congrArg Double.mk (UInt64.toNat.inj hbits)
      · exact congrArg Double.mk (UInt64.toNat.inj hbits)
    · exact .inl (by simp [isNaN, hexponent, hfraction])
  · rintro (h | rfl | rfl)
    · simp only [isNaN, Bool.and_eq_true, decide_eq_true_eq] at h
      simp [isFinite, h.1]
    · decide
    · decide

theorem isIntegral_iff {d : Double} :
    d.isIntegral = true ↔ d.isFinite = true ∧ d.exactValue = (d.truncated : ℚ) := by
  have hpos : (unitsPerOne : ℚ) ≠ 0 := by exact_mod_cast unitsPerOne_pos.ne'
  have hsplit := Int.tmod_add_tdiv_mul d.units unitsPerOne
  have hvalue : d.units.tmod unitsPerOne = 0 ↔ d.exactValue = (d.truncated : ℚ) := by
    rw [exactValue_eq, truncated, div_eq_iff hpos]
    constructor
    · intro hmod
      rw [hmod, zero_add] at hsplit
      exact_mod_cast hsplit.symm
    · intro hwhole
      have hwhole : d.units = d.units.tdiv unitsPerOne * unitsPerOne := by exact_mod_cast hwhole
      omega
  simp only [isIntegral, Bool.and_eq_true, decide_eq_true_eq, hvalue]

/-- The view of a double as the integer that it is, wherever that fits 64 bits. -/
theorem exactInteger?_eq_some_iff {d : Double} {k : Int64} :
    d.exactInteger? = some k ↔ d.isFinite = true ∧ d.exactValue = (k.toInt : ℚ) := by
  rw [exactInteger?_eq]
  constructor
  · intro h
    split at h
    next hintegral =>
      rw [isIntegral_iff] at hintegral
      rw [exactInt64?_eq_some_iff.mp h]
      exact hintegral
    next => cases h
  · rintro ⟨hfinite, hvalue⟩
    have htruncated : d.truncated = k.toInt := by rw [truncated_eq, hvalue, towardZero_intCast]
    rw [if_pos (isIntegral_iff.mpr ⟨hfinite, by rw [hvalue, htruncated]⟩)]
    exact exactInt64?_eq_some_iff.mpr htruncated.symm

/-- A number that is an integer has no fractional part to lose. -/
theorem truncatedInteger?_of_exactInteger? {d : Double} {k : Int64}
    (h : d.exactInteger? = some k) : d.truncatedInteger? = some k := by
  obtain ⟨hfinite, hvalue⟩ := exactInteger?_eq_some_iff.mp h
  exact truncatedInteger?_eq_some_iff.mpr ⟨hfinite, by rw [hvalue, towardZero_intCast]⟩

theorem views_of_not_finite {d : Double} (h : d.isFinite = false) :
    d.exactInteger? = none ∧ d.truncatedInteger? = none := by
  have hintegral : d.isIntegral = false := by rw [isIntegral, h, Bool.false_and]
  constructor
  · rw [exactInteger?_eq, hintegral]
    rfl
  · rw [truncatedInteger?_eq, h]
    rfl

end Double

/-! ## Values -/

/-- What a view by words says of the integers that they stand for. -/
theorem map_toInt_eq_some_iff {view : Option Int64} {P : ℤ → Prop} {k : ℤ}
    (h : ∀ word, view = some word ↔ P word.toInt) :
    view.map Int64.toInt = some k ↔ P k ∧ -2 ^ 63 ≤ k ∧ k < 2 ^ 63 := by
  simp only [Option.map_eq_some_iff, h, ← exists_toInt_eq_iff]
  constructor
  · rintro ⟨word, holds, rfl⟩
    exact ⟨holds, word, rfl⟩
  · rintro ⟨holds, word, rfl⟩
    exact ⟨word, holds, rfl⟩

/-- The exact view of a value is `k` exactly when the value is the integer `k`, or a finite double
whose exact value is `k`, for any `k` of 64 bits; the truncated view, when the exact value without
its fractional part is. What is not a number has neither view, nor have the infinities. Fractions
between minus one and one lose everything, as does negative zero. The truncated view is the exact
one where there is an exact one, and on doubles it keeps their order. -/
theorem integer_views_exact :
    (∀ (v : Value) (k : ℤ), v.exactInteger?.map Int64.toInt = some k ↔
      (∃ i, v = .integer i ∧ i.toInt = k) ∨
        ∃ d, v = .number d ∧ (d.isFinite = true ∧ d.exactValue = k) ∧ -2 ^ 63 ≤ k ∧ k < 2 ^ 63) ∧
    (∀ (v : Value) (k : ℤ), v.truncatedInteger?.map Int64.toInt = some k ↔
      (∃ i, v = .integer i ∧ i.toInt = k) ∨
        ∃ d, v = .number d ∧ (d.isFinite = true ∧ towardZero d.exactValue = k) ∧
          -2 ^ 63 ≤ k ∧ k < 2 ^ 63) ∧
    (∀ d : Double, d.isNaN = true ∨ d = .infinity ∨ d = Double.infinity.neg →
      (Value.number d).exactInteger? = none ∧ (Value.number d).truncatedInteger? = none) ∧
    (∀ v : Value, v.kind.isNumber = false →
      v.exactInteger? = none ∧ v.truncatedInteger? = none) ∧
    (Value.number Double.zero.neg).truncatedInteger? = some 0 ∧
    (∀ d : Double, d.isFinite = true → -1 < d.exactValue → d.exactValue < 1 →
      (Value.number d).truncatedInteger? = some 0) ∧
    (∀ (v : Value) (k : Int64), v.exactInteger? = some k → v.truncatedInteger? = some k) ∧
    (∀ (c d : Double) (j k : Int64), (Value.number c).truncatedInteger? = some j →
      (Value.number d).truncatedInteger? = some k → c.exactValue ≤ d.exactValue →
      j.toInt ≤ k.toInt) := by
  refine ⟨fun v k => ?_, fun v k => ?_, fun d hd => ?_, fun v hv => ?_, by decide +kernel,
    fun d hfinite low high => ?_, fun v k h => ?_, fun c d j k hc hd hle => ?_⟩
  · cases v with
    | integer i => simp [Value.exactInteger?]
    | number d =>
      have hview := map_toInt_eq_some_iff (P := fun k => d.isFinite = true ∧ d.exactValue = k)
        (k := k) fun _ => Double.exactInteger?_eq_some_iff
      simpa [Value.exactInteger?] using hview
    | _ => simp [Value.exactInteger?]
  · cases v with
    | integer i => simp [Value.truncatedInteger?]
    | number d =>
      have hview := map_toInt_eq_some_iff
        (P := fun k => d.isFinite = true ∧ towardZero d.exactValue = k) (k := k)
        fun _ => Double.truncatedInteger?_eq_some_iff
      simpa [Value.truncatedInteger?] using hview
    | _ => simp [Value.truncatedInteger?]
  · exact Double.views_of_not_finite (Double.isFinite_eq_false_iff.mpr hd)
  · cases v with
    | integer i => cases hv
    | number d => cases hv
    | _ => exact ⟨rfl, rfl⟩
  · exact Double.truncatedInteger?_eq_some_iff.mpr ⟨hfinite, towardZero_eq_zero low high⟩
  · cases v with
    | integer i => exact h
    | number d => exact Double.truncatedInteger?_of_exactInteger? h
    | _ => cases h
  · have hj := (Double.truncatedInteger?_eq_some_iff.mp hc).2
    have hk := (Double.truncatedInteger?_eq_some_iff.mp hd).2
    rw [← hj, ← hk]
    exact towardZero_mono hle

/-- The least integer of 64 bits is in both views, and the one after the greatest in neither. A
half below zero is cut off. -/
theorem integer_views_exact_limits :
    let least : Double := ⟨0xc3e0000000000000⟩
    let beyond : Double := ⟨0x43e0000000000000⟩
    let half : Double := ⟨0xbfe0000000000000⟩
    least.exactValue = -2 ^ 63 ∧ beyond.exactValue = 2 ^ 63 ∧ half.exactValue = -1 / 2 ∧
      (Value.number least).exactInteger?.map Int64.toInt = some (-2 ^ 63) ∧
      (Value.number beyond).truncatedInteger? = none ∧
      (Value.number half).truncatedInteger? = some 0 := by
  intro least beyond half
  have hleast : least.exactValue = -2 ^ 63 := by
    have hsign : least.negative = true := by decide
    have hexponent : least.exponentField = 1086 := by decide
    have hfraction : least.fraction = 0 := by decide
    norm_num [Double.exactValue, Double.exactSize, hsign, hexponent, hfraction]
  have hbeyond : beyond.exactValue = 2 ^ 63 := by
    have hsign : beyond.negative = false := by decide
    have hexponent : beyond.exponentField = 1086 := by decide
    have hfraction : beyond.fraction = 0 := by decide
    norm_num [Double.exactValue, Double.exactSize, hsign, hexponent, hfraction]
  have hhalf : half.exactValue = -1 / 2 := by
    have hsign : half.negative = true := by decide
    have hexponent : half.exponentField = 1022 := by decide
    have hfraction : half.fraction = 0 := by decide
    norm_num [Double.exactValue, Double.exactSize, hsign, hexponent, hfraction]
  obtain ⟨hexact, htruncated, -, -, -, hcut, -, -⟩ := integer_views_exact
  refine ⟨hleast, hbeyond, hhalf, ?_, ?_, ?_⟩
  · refine (hexact _ _).mpr (.inr ⟨least, rfl, ⟨by decide, ?_⟩, le_refl _, by norm_num⟩)
    rw [hleast]
    norm_num
  · cases hview : (Value.number beyond).truncatedInteger? with
    | none => rfl
    | some word =>
      obtain ⟨i, hi, -⟩ | ⟨d, hd, ⟨-, hvalue⟩, -, hlt⟩ :=
        (htruncated (.number beyond) word.toInt).mp (by rw [hview]; rfl)
      · cases hi
      · cases hd
        have hlimit : beyond.exactValue = ((2 ^ 63 : ℤ) : ℚ) := by rw [hbeyond]; norm_num
        rw [hlimit, towardZero_intCast] at hvalue
        omega
  · exact hcut half (by decide) (by rw [hhalf]; norm_num) (by rw [hhalf]; norm_num)

end ScriptBridge
