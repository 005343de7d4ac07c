import Mathlib.Data.Rat.Floor
import Mathlib.Tactic.Ring
import Mathlib.Tactic.FieldSimp
import ScriptBridge.Proofs.Number.Truncation
import ScriptBridge.Value

/-!
# The exact values of numbers

`Double.exactValue` is the rational number that the three fields of a finite double stand for, and
`towardZero` drops the fractional part of a rational number. The integer view of a number that
loses its fractional part is what these two say, wherever that fits 64 bits:
`Double.truncatedInteger?_eq_some_iff`.
-/

namespace ScriptBridge

/-- A rational number without its fractional part. -/
def towardZero (q : ℚ) : ℤ := if 0 ≤ q then ⌊q⌋ else ⌈q⌉

/-- A quotient of integers loses its fractional part by the division that rounds toward zero. -/
theorem towardZero_div (n : ℤ) {d : ℕ} (pos : 0 < d) : towardZero (n / d) = n.tdiv d := by
  have hd : (0 : ℚ) < d := by exact_mod_cast pos
  by_cases hn : 0 ≤ n
  · have hq : (0 : ℚ) ≤ n / d := div_nonneg (by exact_mod_cast hn) hd.le
    rw [towardZero, if_pos hq, Rat.floor_intCast_div_natCast, Int.tdiv_eq_ediv_of_nonneg hn]
  · have hq : ¬ (0 : ℚ) ≤ n / d := by
      have hneg : (n : ℚ) < 0 := by exact_mod_cast Int.lt_of_not_ge hn
      exact not_le.mpr (div_neg_of_neg_of_pos hneg hd)
    have hflip : n.tdiv d = -(-n).tdiv d := by rw [Int.neg_tdiv, Int.neg_neg]
    rw [towardZero, if_neg hq, Rat.ceil_intCast_div_natCast, hflip,
      Int.tdiv_eq_ediv_of_nonneg (by omega)]

theorem cast_pow2 (n : ℕ) : ((pow2 n : ℕ) : ℚ) = 2 ^ n := by
  rw [show pow2 n = 2 ^ n from rfl, Nat.cast_pow, Nat.cast_ofNat]

theorem two_zpow_sub (k n : ℕ) : (2 : ℚ) ^ ((k : ℤ) - n) = 2 ^ k / (pow2 n : ℕ) := by
  rw [zpow_sub₀ two_ne_zero, zpow_natCast, zpow_natCast, cast_pow2]

namespace Double

/-- The size of the number that the fields of a double stand for. A number with the least exponent
has no hidden bit. -/
def exactSize (d : Double) : ℚ :=
  if d.exponentField = 0 then d.fraction / 2 ^ 52 * 2 ^ (-1022 : ℤ)
  else (1 + d.fraction / 2 ^ 52) * 2 ^ ((d.exponentField : ℤ) - 1023)

/-- The number that the fields of a finite double stand for. -/
def exactValue (d : Double) : ℚ := if d.negative then -d.exactSize else d.exactSize

/-- The size counted in units of the least positive number. -/
theorem exactSize_eq (d : Double) : d.exactSize = (d.magnitude : ℚ) / unitsPerOne := by
  have hshift (k : ℤ) : (2 : ℚ) ^ k = 2 ^ 52 * 2 ^ (k - 52) := by
    rw [← zpow_natCast 2 52, ← zpow_add₀ two_ne_zero]
    congr 1
    push_cast
    omega
  obtain ⟨n, hn, hunits⟩ := exists_unitsPerOne_eq
  rw [exactSize, magnitude, significand, scale, hunits, Nat.cast_mul, cast_pow2]
  by_cases hleast : d.exponentField = 0
  · have hexponent : (-1022 : ℤ) - 52 = (0 : ℕ) - n := by omega
    have hscale : max 0 1 - 1 = 0 := rfl
    rw [if_pos hleast, if_pos hleast, hleast, hshift, hexponent, two_zpow_sub, hscale]
    field_simp
  · obtain ⟨e, he⟩ : ∃ e, d.exponentField = e + 1 := Nat.exists_eq_succ_of_ne_zero hleast
    have hexponent : ((e + 1 : ℕ) : ℤ) - 1023 - 52 = e - n := by omega
    have hscale : max (e + 1) 1 - 1 = e := by omega
    rw [if_neg hleast, if_neg hleast, he, hshift, hexponent, two_zpow_sub, hscale, Nat.cast_add,
      cast_pow2 52]
    field_simp

/-- The exact value counted in units of the least positive number. -/
theorem exactValue_eq (d : Double) : d.exactValue = (d.units : ℚ) / unitsPerOne := by
  rw [exactValue, exactSize_eq, units]
  split
  · push_cast
    ring
  · push_cast
    rfl

theorem truncated_eq (d : Double) : d.truncated = towardZero d.exactValue := by
  rw [exactValue_eq, towardZero_div _ unitsPerOne_pos, truncated]

end Double

/-- The integers of 64 bits. -/
theorem exists_toInt_eq_iff {k : Int} :
    (∃ word : Int64, word.toInt = k) ↔ -2 ^ 63 ≤ k ∧ k < 2 ^ 63 := by
  constructor
  · rintro ⟨word, rfl⟩
    exact ⟨word.le_toInt, word.toInt_lt⟩
  · rintro ⟨hlow, hhigh⟩
    exact ⟨Int64.ofInt k, Int64.toInt_ofInt_of_le hlow hhigh⟩

/-- An integer fits 64 bits when there is a word for it. -/
theorem exactInt64?_eq_some_iff {i : Int} {k : Int64} : exactInt64? i = some k ↔ k.toInt = i := by
  have hpow : (pow2 63 : Int) = 2 ^ 63 := by norm_num [pow2]
  rw [exactInt64?, hpow]
  constructor
  · intro h
    split at h
    next hfits =>
      cases h
      exact Int64.toInt_ofInt_of_le hfits.1 hfits.2
    next => cases h
  · rintro rfl
    rw [if_pos ⟨k.le_toInt, k.toInt_lt⟩, Int64.ofInt_toInt]

/-- The view of a double as an integer without a fractional part, wherever that fits 64 bits. -/
theorem Double.truncatedInteger?_eq_some_iff {d : Double} {k : Int64} :
    d.truncatedInteger? = some k ↔ d.isFinite = true ∧ towardZero d.exactValue = k.toInt := by
  rw [truncatedInteger?_eq]
  by_cases hfinite : d.isFinite = true
  · rw [if_pos hfinite, exactInt64?_eq_some_iff, truncated_eq, eq_comm]
    exact (and_iff_right hfinite).symm
  · rw [if_neg hfinite]
    simp [hfinite]

end ScriptBridge
