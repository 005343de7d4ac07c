import ScriptBridge.Number.Power

/-!
# Rounding a scaled integer to a binary format

A binary floating-point format is fixed by its precision and by the exponent of its least positive
number. `BinaryFormat.round` gives the word of the number of a format that lies nearest to
`mantissa · 2 ^ exponent`, a tie going to the even neighbour. In such a word consecutive numbers
have consecutive codes, so a carry out of the fraction needs no case of its own.
-/

namespace ScriptBridge

/-- A binary format without its sign: `precision` bits of significand, the hidden one included,
`minExponent`, the power of two of the least positive number, and `infinity`, the code after that of
the greatest finite number. -/
structure BinaryFormat where
  precision : Nat
  minExponent : Int
  infinity : Nat

namespace BinaryFormat

/-- The 64-bit format. -/
def double : BinaryFormat := ⟨53, -1074, 2047 * pow2 52⟩

/-- The 32-bit format. -/
def single : BinaryFormat := ⟨24, -149, 255 * pow2 23⟩

/-- A quotient by `2 ^ shift`, rounded to the nearest integer, ties to even. -/
def roundedShift (mantissa shift : Nat) : Nat :=
  let quotient := mantissa / pow2 shift
  let twice := 2 * (mantissa % pow2 shift)
  if twice > pow2 shift then quotient + 1
  else if twice = pow2 shift then quotient + quotient % 2
  else quotient

/-- The code of the number nearest to `mantissa · 2 ^ exponent`. -/
def round (format : BinaryFormat) (mantissa : Nat) (exponent : Int) : Nat :=
  if mantissa = 0 then 0
  else
    let top : Int := exponent + (mantissa.log2 : Int) + 1
    let unit := max (top - format.precision) format.minExponent
    let significand :=
      if unit ≤ exponent then mantissa * pow2 (exponent - unit).toNat
      else roundedShift mantissa (unit - exponent).toNat
    let code := (unit - format.minExponent).toNat * pow2 (format.precision - 1) + significand
    min code format.infinity

end BinaryFormat

end ScriptBridge
