import Mathlib.Algebra.Ring.Nat
import ScriptBridge.Number.Double

/-!
# Dropping the fractional part

`Double.trunc` clears the bits after the point. Counted in units of the least positive number, that
is the division by the units of one which rounds toward zero: `Double.units_trunc`. The fractional
part is zero exactly where this division is exact, so the two integer views of a double are facts
of its units: `Double.exactInteger?_eq`, `Double.truncatedInteger?_eq`.
-/

namespace ScriptBridge

/-- An integer as a 64-bit word, when it fits. -/
def exactInt64? (i : Int) : Option Int64 :=
  if -(pow2 63 : Int) ≤ i ∧ i < pow2 63 then some (Int64.ofInt i) else none

/-- Nothing but zero is rounded to zero in units of the least positive number. -/
theorem BinaryFormat.round_pos {mantissa : Nat} (h : mantissa ≠ 0) :
    0 < double.round mantissa (-1074) := by
  have hprecision : double.precision = 53 := rfl
  have hexponent : double.minExponent = -1074 := rfl
  simp only [round, if_neg h, hprecision, hexponent]
  generalize hunit : max (-1074 + (mantissa.log2 : Int) + 1 - (53 : Nat)) (-1074) = unit
  refine Nat.lt_min.mpr ⟨?_, by decide⟩
  split
  next => exact Nat.add_pos_right _ (Nat.mul_pos (Nat.pos_of_ne_zero h) (Nat.two_pow_pos _))
  next habove => exact Nat.add_pos_left (Nat.mul_pos (by omega) (Nat.two_pow_pos _)) _

theorem BinaryFormat.round_le (format : BinaryFormat) (mantissa : Nat) (exponent : Int) :
    format.round mantissa exponent ≤ format.infinity := by
  rw [round]
  split
  · exact Nat.zero_le _
  · exact Nat.min_le_right _ _

namespace Double

/-- A finite number without its fractional part, rounded toward zero. -/
def truncated (d : Double) : Int := d.units.tdiv unitsPerOne

/-- A finite number without a fractional part. -/
def isIntegral (d : Double) : Bool := d.isFinite && d.units.tmod unitsPerOne = 0

/-- How many units the number one has, by an exponent under a name: the power is not computed. -/
theorem exists_unitsPerOne_eq : ∃ n, n = 1074 ∧ unitsPerOne = pow2 n := by
  refine ⟨1074, rfl, ?_⟩
  delta unitsPerOne
  exact Eq.refl _

theorem unitsPerOne_pos : 0 < unitsPerOne := by
  obtain ⟨n, -, hunits⟩ := exists_unitsPerOne_eq
  rw [hunits]
  exact Nat.two_pow_pos n

/-! ## Fields -/

variable {d : Double}

/-- The fields of a number, by the literals that they are cut at. -/
theorem exponentField_eq (d : Double) : d.exponentField = d.bits.toNat / 2 ^ 52 % 2 ^ 11 := rfl

theorem fraction_eq (d : Double) : d.fraction = d.bits.toNat % 2 ^ 52 := rfl

theorem fraction_lt (d : Double) : d.fraction < 2 ^ 52 := Nat.mod_lt _ (Nat.two_pow_pos 52)

/-- Clearing bits of the fraction changes nothing else. -/
theorem fields_cleared {low : Nat} (h : low ≤ d.fraction) :
    let cleared : Double := ⟨UInt64.ofNat (d.bits.toNat - low)⟩
    cleared.negative = d.negative ∧ cleared.exponentField = d.exponentField ∧
      cleared.fraction = d.fraction - low := by
  intro cleared
  have hlt := d.bits.toNat_lt
  have hbits : cleared.bits.toNat = d.bits.toNat - low :=
    UInt64.toNat_ofNat_of_lt' (Nat.lt_of_le_of_lt (Nat.sub_le _ _) hlt)
  have h63 : pow2 63 = 2 ^ 63 := rfl
  rw [fraction_eq] at h
  refine ⟨?_, ?_, ?_⟩
  · simp only [negative, hbits, h63, decide_eq_decide]
    omega
  · rw [exponentField_eq, exponentField_eq, hbits]
    omega
  · rw [fraction_eq, fraction_eq, hbits]
    omega

/-- The fields of a number that is given by a code. -/
theorem fields_ofCode (negative : Bool) {code : Nat} (h : code < 2 ^ 63) :
    (ofCode negative code).negative = negative ∧
      (ofCode negative code).exponentField = code / 2 ^ 52 ∧
      (ofCode negative code).fraction = code % 2 ^ 52 := by
  have h63 : pow2 63 = 2 ^ 63 := rfl
  have hbits : (ofCode negative code).bits.toNat =
      if negative then pow2 63 + code else code := by
    refine UInt64.toNat_ofNat_of_lt' ?_
    split
    · rw [h63, UInt64.size]
      omega
    · rw [UInt64.size]
      omega
  refine ⟨?_, ?_, ?_⟩
  · simp only [Double.negative, hbits, h63]
    cases negative with
    | false => exact decide_eq_false (Nat.not_le_of_lt h)
    | true => exact decide_eq_true (Nat.le_add_right _ _)
  · rw [exponentField_eq, hbits, h63]
    split <;> omega
  · rw [fraction_eq, hbits, h63]
    split <;> omega

/-! ## The whole part -/

theorem negative_trunc (d : Double) : d.trunc.negative = d.negative := by
  rw [trunc]
  split
  · exact (fields_ofCode d.negative (Nat.two_pow_pos 63)).1
  split
  · exact (fields_cleared (Nat.mod_le _ _)).1
  · rfl

/-- The size of a number with a hidden bit. -/
theorem magnitude_of_pos {d : Double} (h : 0 < d.exponentField) :
    d.magnitude = (2 ^ 52 + d.fraction) * 2 ^ (d.exponentField - 1) := by
  have hscale : d.scale = d.exponentField - 1 := by rw [scale, Nat.max_eq_left h]
  rw [magnitude, significand, if_neg (Nat.ne_of_gt h), hscale]
  rfl

theorem magnitude_trunc_of_lt (h : d.exponentField < 1023) :
    d.trunc.magnitude = d.magnitude / unitsPerOne * unitsPerOne := by
  obtain ⟨n, hn, hunits⟩ := exists_unitsPerOne_eq
  obtain ⟨-, hexponent, hfraction⟩ := fields_ofCode d.negative (Nat.two_pow_pos 63)
  have hzero : d.trunc.magnitude = 0 := by
    rw [trunc, if_pos h, magnitude, significand, hexponent, hfraction]
    exact Nat.zero_mul _
  have hsmall : d.magnitude < unitsPerOne := by
    have hfraction := d.fraction_lt
    have hsignificand : d.significand < 2 ^ 53 := by
      have h52 : pow2 52 = 2 ^ 52 := rfl
      rw [significand, h52]
      split <;> omega
    have hscale : 53 + d.scale ≤ n := by
      rw [scale]
      omega
    calc d.magnitude = d.significand * 2 ^ d.scale := rfl
      _ < 2 ^ 53 * 2 ^ d.scale := Nat.mul_lt_mul_of_pos_right hsignificand (Nat.two_pow_pos _)
      _ = 2 ^ (53 + d.scale) := (Nat.pow_add 2 53 d.scale).symm
      _ ≤ 2 ^ n := Nat.pow_le_pow_right Nat.two_pos hscale
      _ = unitsPerOne := hunits.symm
  rw [hzero, Nat.div_eq_of_lt hsmall, Nat.zero_mul]

theorem magnitude_trunc_of_between (hlow : 1023 ≤ d.exponentField)
    (hhigh : d.exponentField < 1075) :
    d.trunc.magnitude = d.magnitude / unitsPerOne * unitsPerOne := by
  obtain ⟨n, hn, hunits⟩ := exists_unitsPerOne_eq
  obtain ⟨after, hafter⟩ : ∃ after, after = 1075 - d.exponentField := ⟨_, rfl⟩
  obtain ⟨scale, hscale⟩ : ∃ scale, scale = d.exponentField - 1 := ⟨_, rfl⟩
  obtain ⟨-, hexponent, hfraction⟩ := fields_cleared (d := d) (Nat.mod_le d.fraction (pow2 after))
  have hsize : d.magnitude = (2 ^ 52 + d.fraction) * 2 ^ scale := by
    rw [hscale, magnitude_of_pos (by omega)]
  have hcleared : d.trunc.magnitude =
      (2 ^ 52 + (d.fraction - d.fraction % 2 ^ after)) * 2 ^ scale := by
    rw [trunc, if_neg (Nat.not_lt_of_le hlow), if_pos hhigh, ← hafter,
      magnitude_of_pos (by rw [hexponent]; omega), hexponent, hfraction, hscale]
    rfl
  -- the hidden bit lies before the point
  have hbefore : (2 ^ 52 + d.fraction) % 2 ^ after = d.fraction % 2 ^ after := by
    obtain ⟨k, hk⟩ : 2 ^ after ∣ 2 ^ 52 := Nat.pow_dvd_pow 2 (by omega)
    rw [hk, Nat.mul_add_mod]
  have hwhole := Nat.div_add_mod (2 ^ 52 + d.fraction) (2 ^ after)
  have hle := Nat.mod_le d.fraction (2 ^ after)
  rw [hbefore] at hwhole
  have hunit : unitsPerOne = 2 ^ after * 2 ^ scale := by
    have hsplit : n = after + scale := by omega
    rw [hunits, hsplit]
    exact Nat.pow_add 2 after scale
  have hquotient : d.magnitude / unitsPerOne = (2 ^ 52 + d.fraction) / 2 ^ after := by
    rw [hsize, hunit, Nat.mul_div_mul_right _ _ (Nat.two_pow_pos scale)]
  have hcut : 2 ^ 52 + (d.fraction - d.fraction % 2 ^ after) =
      (2 ^ 52 + d.fraction) / 2 ^ after * 2 ^ after := by
    rw [Nat.mul_comm]
    omega
  rw [hcleared, hquotient, hunit, hcut, Nat.mul_assoc]

theorem magnitude_trunc_of_le (h : 1075 ≤ d.exponentField) :
    d.trunc.magnitude = d.magnitude / unitsPerOne * unitsPerOne := by
  obtain ⟨n, hn, hunits⟩ := exists_unitsPerOne_eq
  have hsame : d.trunc = d := by rw [trunc, if_neg (by omega), if_neg (by omega)]
  have hdvd : unitsPerOne ∣ d.magnitude := by
    rw [hunits, magnitude_of_pos (by omega)]
    exact Nat.dvd_mul_left_of_dvd (Nat.pow_dvd_pow 2 (by omega)) _
  rw [hsame, Nat.div_mul_cancel hdvd]

/-- The whole part of a number counts in ones. -/
theorem units_trunc (d : Double) : d.trunc.units = d.truncated * unitsPerOne := by
  have hmagnitude : d.trunc.magnitude = d.magnitude / unitsPerOne * unitsPerOne := by
    by_cases hlow : d.exponentField < 1023
    · exact magnitude_trunc_of_lt hlow
    by_cases hhigh : d.exponentField < 1075
    · exact magnitude_trunc_of_between (Nat.le_of_not_lt hlow) hhigh
    · exact magnitude_trunc_of_le (Nat.le_of_not_lt hhigh)
  rw [truncated, units, units, negative_trunc, hmagnitude]
  split
  · rw [Int.neg_tdiv, Int.neg_mul]
    rfl
  · rfl

theorem isFinite_trunc (d : Double) : d.trunc.isFinite = d.isFinite := by
  rw [isFinite, isFinite, decide_eq_decide, trunc]
  split
  · rw [(fields_ofCode d.negative (Nat.two_pow_pos 63)).2.1]
    omega
  split
  · rw [(fields_cleared (Nat.mod_le _ _)).2.1]
  · exact Iff.rfl

/-! ## Places on the number line -/

theorem place_of_finite (h : d.isFinite = true) : d.place = some d.units := if_pos h

/-- Only the two zeros are in the middle of the number line. -/
theorem place_eq_some_zero_iff : d.place = some 0 ↔ d.exponentField = 0 ∧ d.fraction = 0 := by
  by_cases hfinite : d.isFinite = true
  · have hunits : d.units = 0 ↔ d.significand = 0 := by
      have hpos : 0 < pow2 d.scale := Nat.two_pow_pos _
      have hmagnitude : d.magnitude = 0 ↔ d.significand = 0 := by
        rw [magnitude, Nat.mul_eq_zero]
        exact or_iff_left (Nat.ne_of_gt hpos)
      rw [units, ← hmagnitude]
      split <;> omega
    have hsignificand : d.significand = 0 ↔ d.exponentField = 0 ∧ d.fraction = 0 := by
      have hpos : 0 < pow2 52 := by decide
      rw [significand]
      split <;> omega
    rw [place_of_finite hfinite, Option.some.injEq, hunits, hsignificand]
  · have hpos (n : Nat) : (0 : Int) < (pow2 n : Nat) := Int.natCast_pos.mpr (Nat.two_pow_pos n)
    have hfar := hpos 2100
    have hexponent : ¬ (d.exponentField = 0 ∧ d.fraction = 0) := by
      simp only [isFinite, decide_eq_true_eq] at hfinite
      omega
    rw [place, if_neg hfinite]
    generalize ((pow2 2100 : Nat) : Int) = far at hfar
    refine iff_of_false ?_ hexponent
    split
    · exact fun h => by cases h
    · split <;> simp <;> omega

/-- A whole number of units is zero only if it is none. -/
theorem ofUnits_same_zero_iff {i : Int} : (ofUnits i).same zero = true ↔ i = 0 := by
  have hsame : (ofUnits i).same zero = true ↔ (ofUnits i).place = some 0 := by
    have hzero : zero.place = some 0 := place_eq_some_zero_iff.mpr (by decide)
    rw [same, hzero]
    cases (ofUnits i).place <;> simp
  rw [hsame, place_eq_some_zero_iff]
  refine ⟨fun hfields => Decidable.byContradiction fun hne => ?_, ?_⟩
  · have hpos := BinaryFormat.round_pos (Int.natAbs_ne_zero.mpr hne)
    have hle : BinaryFormat.double.round i.natAbs (-1074) ≤ 2047 * 2 ^ 52 :=
      BinaryFormat.double.round_le _ _
    rw [ofUnits, ofScaled] at hfields
    generalize BinaryFormat.double.round i.natAbs (-1074) = code at hfields hpos hle
    have hlt : code < 2 ^ 63 := by omega
    obtain ⟨-, hexponent, hfraction⟩ := fields_ofCode (decide (i < 0)) hlt
    omega
  · rintro rfl
    decide

/-! ## The integers of 64 bits -/

/-- How many units the number after the greatest integer of 64 bits has. -/
def limitUnits : Nat := 2 ^ 63 * unitsPerOne

theorem place_limit (negative : Bool) : (ofCode negative (1086 * 2 ^ 52)).place =
    some (if negative then -(limitUnits : Int) else limitUnits) := by
  obtain ⟨n, hn, hunits⟩ := exists_unitsPerOne_eq
  have hlt : 1086 * 2 ^ 52 < 2 ^ 63 := by decide
  obtain ⟨hnegative, hexponent, hfraction⟩ := fields_ofCode negative hlt
  have hmagnitude : (ofCode negative (1086 * 2 ^ 52)).magnitude = limitUnits := by
    have hscale : 1086 * 2 ^ 52 / 2 ^ 52 - 1 = 11 + n := by omega
    have hlimit : 2 ^ 52 * 2 ^ (11 + n) = 2 ^ 63 * 2 ^ n := by
      rw [← Nat.pow_add, ← Nat.pow_add, ← Nat.add_assoc]
    rw [magnitude_of_pos (by rw [hexponent]; decide), hexponent, hfraction, hscale, limitUnits,
      hunits]
    exact hlimit
  have hfinite : (ofCode negative (1086 * 2 ^ 52)).isFinite = true := by
    rw [isFinite, hexponent]
    decide
  rw [place_of_finite hfinite, units, hnegative, hmagnitude]

theorem place_int64Limit : int64Limit.place = some (limitUnits : Int) := place_limit false

theorem place_neg_int64Limit : int64Limit.neg.place = some (-(limitUnits : Int)) :=
  place_limit true

theorem inInt64Range_iff (finite : d.isFinite = true) :
    d.inInt64Range = true ↔ -(limitUnits : Int) ≤ d.units ∧ d.units < limitUnits := by
  rw [inInt64Range, atMost, less, place_neg_int64Limit, place_int64Limit, place_of_finite finite]
  simp only [Bool.and_eq_true, decide_eq_true_eq]

/-- A number that counts in ones has as many units as ones. -/
theorem inInt64Range_iff_of_units {i : Int} (finite : d.isFinite = true)
    (h : d.units = i * unitsPerOne) :
    d.inInt64Range = true ↔ -(pow2 63 : Int) ≤ i ∧ i < pow2 63 := by
  have hpos : (0 : Int) < unitsPerOne := Int.natCast_pos.mpr unitsPerOne_pos
  have hlimit : (limitUnits : Int) = 2 ^ 63 * unitsPerOne := Int.natCast_mul _ _
  rw [inInt64Range_iff finite, h, hlimit, ← Int.neg_mul]
  exact and_congr (Int.mul_le_mul_right hpos) (Int.mul_lt_mul_right hpos)

/-- A number that counts in ones is converted to its count, or is out of range. -/
theorem convert_of_units {i : Int} (finite : d.isFinite = true) (h : d.units = i * unitsPerOne) :
    (if d.inInt64Range then some d.toInt64 else none) = exactInt64? i := by
  have hrange := inInt64Range_iff_of_units finite h
  by_cases hfits : -(pow2 63 : Int) ≤ i ∧ i < pow2 63
  · have hone : (unitsPerOne : Int) ≠ 0 := Int.natCast_ne_zero.mpr (Nat.ne_of_gt unitsPerOne_pos)
    have hclamped : max (-(pow2 63 : Int)) (min i ((pow2 63 : Int) - 1)) = i := by omega
    have hword : d.toInt64 = Int64.ofInt i := by
      simp only [toInt64, place_of_finite finite, h, Int.mul_tdiv_cancel _ hone, hclamped]
    rw [exactInt64?, if_pos hfits, if_pos (hrange.mpr hfits), hword]
  · rw [exactInt64?, if_neg hfits, if_neg (mt hrange.mp hfits)]

/-! ## The two views -/

/-- A finite number has no fractional part exactly when it counts in ones. -/
theorem fract_same_zero_iff (finite : d.isFinite = true) :
    d.fract.same zero = true ↔ d.units.tmod unitsPerOne = 0 := by
  have hsplit := Int.tmod_add_tdiv_mul d.units unitsPerOne
  rw [fract, if_pos finite, ofUnits_same_zero_iff, units_trunc, truncated]
  omega

/-- The view of a double as the integer that it is: what it counts in ones, if nothing is left. -/
theorem exactInteger?_eq (d : Double) :
    d.exactInteger? = if d.isIntegral then exactInt64? d.truncated else none := by
  by_cases hfinite : d.isFinite = true
  · have hfract := fract_same_zero_iff hfinite
    rw [exactInteger?, isIntegral, hfinite, Bool.true_and]
    by_cases hwhole : d.units.tmod unitsPerOne = 0
    · have hunits : d.units = d.truncated * unitsPerOne := by
        have hsplit := Int.tmod_add_tdiv_mul d.units unitsPerOne
        rw [truncated]
        omega
      rw [hfract.mpr hwhole, Bool.true_and, convert_of_units hfinite hunits, hwhole]
      rfl
    · rw [Bool.eq_false_iff.mpr (mt hfract.mp hwhole), Bool.false_and, decide_eq_false hwhole]
      rfl
  · have hfract : d.fract = indefinite := if_neg hfinite
    have hnone : indefinite.same zero = false := by decide
    rw [exactInteger?, isIntegral, hfract, hnone, Bool.eq_false_iff.mpr hfinite]
    rfl

/-- The view of a double as the integer that is left: what it counts in ones. -/
theorem truncatedInteger?_eq (d : Double) :
    d.truncatedInteger? = if d.isFinite then exactInt64? d.truncated else none := by
  simp only [truncatedInteger?, isFinite_trunc]
  by_cases hfinite : d.isFinite = true
  · have htrunc : d.trunc.isFinite = true := d.isFinite_trunc.trans hfinite
    rw [hfinite, Bool.true_and, convert_of_units htrunc d.units_trunc]
    rfl
  · rw [Bool.eq_false_iff.mpr hfinite]
    rfl

end Double

end ScriptBridge
