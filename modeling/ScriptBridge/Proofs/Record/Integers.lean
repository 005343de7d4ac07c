import ScriptBridge.Proofs.Number.Exact
import ScriptBridge.Record.Field

/-!
# What integer fields take

An integer field takes a number whose exact value, without its fractional part, fits the width of
the field, and nothing else: `integer_field_takes`. On the way the integer is a signed one of 64
bits. Three of the widths lie within these; the unsigned width of 64 bits does not, so such a field
refuses the upper half of the numbers that fit it: `integer_field_takes_halved`.
-/

namespace ScriptBridge

/-- The integer that a number is without its fractional part, by its exact value. What is not a
number has none, and neither have the infinities. -/
def Value.integerPart : Value → Option ℤ
  | .integer i => some i.toInt
  | .number d => if d.isFinite then some (towardZero d.exactValue) else none
  | _ => none

namespace Value

/-- The integer view of a value is a word for its integer part. -/
theorem truncatedInteger?_eq_some_iff {v : Value} {k : Int64} :
    v.truncatedInteger? = some k ↔ v.integerPart = some k.toInt := by
  cases v with
  | integer i =>
    simp only [truncatedInteger?, integerPart, Option.some.injEq]
    exact Int64.toInt_inj.symm
  | number d => simp [truncatedInteger?, integerPart, Double.truncatedInteger?_eq_some_iff]
  | _ => simp [truncatedInteger?, integerPart]

end Value

namespace IntegerWidth

/-- Whatever the width is, an integer of it has a signed word of 64 bits, unless it is one of the
greater integers of the unsigned width of 64 bits. -/
theorem exists_word_iff {w : IntegerWidth} {k : Int} (least : w.least ≤ k)
    (greatest : k ≤ w.greatest) :
    (∃ word : Int64, word.toInt = k) ↔ (w = .unsigned64 → k ≤ signed64.greatest) := by
  rw [exists_toInt_eq_iff]
  cases w <;> simp [IntegerWidth.least, IntegerWidth.greatest, pow2] at * <;> omega

end IntegerWidth

/-- An integer field takes exactly the numbers whose integer part fits its width, and it becomes
that integer; it refuses infinities, what is not a number, and values of other kinds. But of the
integers of the unsigned width of 64 bits it takes only those that are signed ones of 64 bits too,
because every number goes through these. -/
theorem integer_field_takes (site : FieldSite) (w : IntegerWidth) (i : Int) (v : Value) (f : Field) :
    (Field.integer w i).assign? site v = some f ↔
      ∃ k, v.integerPart = some k ∧ w.least ≤ k ∧ k ≤ w.greatest ∧
        (w = .unsigned64 → k ≤ IntegerWidth.signed64.greatest) ∧ f = .integer w k := by
  have hassign : (Field.integer w i).assign? site v = some f ↔
      ∃ word : Int64, v.integerPart = some word.toInt ∧ w.least ≤ word.toInt ∧
        word.toInt ≤ w.greatest ∧ f = .integer w word.toInt := by
    simp only [Field.assign?, Option.bind_eq_some_iff, Value.truncatedInteger?_eq_some_iff,
      IntegerWidth.holds]
    refine exists_congr fun word => and_congr_right fun _ => ?_
    by_cases hholds : w.least ≤ word.toInt ∧ word.toInt ≤ w.greatest
    · simp [hholds, eq_comm]
    · simp only [Bool.and_eq_true, decide_eq_true_eq, hholds, if_false]
      exact ⟨nofun, fun h => absurd ⟨h.1, h.2.1⟩ hholds⟩
  rw [hassign]
  constructor
  · rintro ⟨word, hpart, hleast, hgreatest, rfl⟩
    have hword := (IntegerWidth.exists_word_iff hleast hgreatest).mp ⟨word, rfl⟩
    exact ⟨word.toInt, hpart, hleast, hgreatest, hword, rfl⟩
  · rintro ⟨k, hpart, hleast, hgreatest, hword, rfl⟩
    obtain ⟨word, rfl⟩ := (IntegerWidth.exists_word_iff hleast hgreatest).mpr hword
    exact ⟨word, hpart, hleast, hgreatest, rfl⟩

/-- A negative fraction has the integer part zero, which fits unsigned fields. -/
example : (Field.integer .unsigned32 7).assign? ⟨"t", "k", 0⟩ (.number ⟨0xbfe0000000000000⟩) =
    some (.integer .unsigned32 0) := by decide +kernel

/-- The least number that fits an unsigned field of 64 bits and is refused. -/
theorem integer_field_takes_halved :
    let v : Value := .number ⟨0x43e0000000000000⟩
    v.integerPart = some 9223372036854775808 ∧
    IntegerWidth.unsigned64.least ≤ 9223372036854775808 ∧
    9223372036854775808 ≤ IntegerWidth.unsigned64.greatest ∧
    (Field.integer .unsigned64 0).assign? ⟨"t", "k", 0⟩ v = none := by
  intro v
  have hpart : (⟨0x43e0000000000000⟩ : Double).truncated = 9223372036854775808 := by
    decide +kernel
  have hfinite : (⟨0x43e0000000000000⟩ : Double).isFinite = true := by decide
  refine ⟨?_, by decide, by decide, by decide +kernel⟩
  simp only [v, Value.integerPart, hfinite, if_true, ← Double.truncated_eq, hpart]

end ScriptBridge
