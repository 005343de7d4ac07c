import ScriptBridge.Number.Rounding

/-!
# Numbers of the binary formats, by their bits

A `Double` is a 64-bit floating-point number given by its word, so that equality of doubles is
equality of bits and every question about the value is a question about integers. A finite double
is `± significand · 2 ^ exponent`; `units` counts it in the least positive number `2 ^ -1074`, of
which every finite double is a whole multiple. The comparisons, the two integer views and the
rounding conversions are all read off `units`; only the arithmetic of scripts uses the machine's
operations.
-/

namespace ScriptBridge

/-- A 64-bit floating-point number, by its bits. -/
structure Double where
  bits : UInt64
deriving DecidableEq, Repr, Inhabited

/-- A 32-bit floating-point number, by its bits. -/
structure Single where
  bits : UInt32
deriving DecidableEq, Repr, Inhabited

namespace Double

/-- The sign bit. -/
def negative (d : Double) : Bool := pow2 63 ≤ d.bits.toNat

/-- The biased exponent, `2047` for the infinities and for what is not a number. -/
def exponentField (d : Double) : Nat := d.bits.toNat / pow2 52 % pow2 11

/-- The stored bits of the significand. -/
def fraction (d : Double) : Nat := d.bits.toNat % pow2 52

/-- A finite number. -/
def isFinite (d : Double) : Bool := d.exponentField < 2047

/-- Not a number. -/
def isNaN (d : Double) : Bool := d.exponentField = 2047 && d.fraction ≠ 0

/-- The whole significand, the hidden bit included. -/
def significand (d : Double) : Nat :=
  if d.exponentField = 0 then d.fraction else pow2 52 + d.fraction

/-- The power of two that the significand is multiplied by, above the least one. -/
def scale (d : Double) : Nat := max d.exponentField 1 - 1

/-- The size of a finite number in units of `2 ^ -1074`. -/
def magnitude (d : Double) : Nat := d.significand * pow2 d.scale

/-- A finite number in units of `2 ^ -1074`. -/
def units (d : Double) : Int := if d.negative then -(d.magnitude : Int) else d.magnitude

/-- How many units the number one has. -/
def unitsPerOne : Nat := pow2 1074

/-- The place on the number line in units of `2 ^ -1074`, where the infinities lie beyond every
finite number; what is not a number has no place. -/
def place (d : Double) : Option Int :=
  if d.isFinite then some d.units
  else if d.isNaN then none
  else if d.negative then some (-(pow2 2100 : Int)) else some (pow2 2100)

/-- A number from a sign and a code of the format. -/
def ofCode (negative : Bool) (code : Nat) : Double :=
  ⟨UInt64.ofNat (if negative then pow2 63 + code else code)⟩

/-- The number nearest to `± mantissa · 2 ^ exponent`. -/
def ofScaled (negative : Bool) (mantissa : Nat) (exponent : Int) : Double :=
  ofCode negative (BinaryFormat.double.round mantissa exponent)

/-- The number nearest to an integer. -/
def ofInt (i : Int) : Double := ofScaled (i < 0) i.natAbs 0

/-- Positive zero. -/
def zero : Double := ⟨0⟩

/-- Positive infinity. -/
def infinity : Double := ⟨0x7ff0000000000000⟩

/-- The number nearest to `digits · 10 ^ exponent`. For a negative exponent the quotient is taken to
more bits than a significand has, and its last bit tells that there is a remainder, so rounding the
quotient rounds the fraction. Powers beyond every number are not computed. -/
def ofDecimal (digits : Nat) (exponent : Int) : Double :=
  let power := exponent.natAbs
  if digits = 0 then zero
  else if 0 ≤ exponent then
    if 400 < power then infinity else ofScaled false (digits * pow10 power) 0
  else if digits.log2 + 1200 < 3 * power then zero
  else
    let divisor := pow10 power
    let shift := 70 + divisor.log2 - digits.log2
    let scaled := digits * pow2 shift
    let last := if scaled % divisor = 0 then 0 else 1
    ofScaled false (2 * (scaled / divisor) + last) (-(shift : Int) - 1)

/-- What arithmetic gives where there is no number. -/
def indefinite : Double := ⟨0xfff8000000000000⟩

/-- The number with the opposite sign. -/
def neg (d : Double) : Double := ⟨d.bits ^^^ 0x8000000000000000⟩

/-- Equality of numbers: the two zeros are equal, and what is not a number equals nothing. -/
def same (a b : Double) : Bool :=
  match a.place, b.place with
  | some x, some y => x = y
  | _, _ => false

/-- The order of numbers, false when one side is not a number. -/
def less (a b : Double) : Bool :=
  match a.place, b.place with
  | some x, some y => x < y
  | _, _ => false

/-- The reflexive order of numbers, false when one side is not a number. -/
def atMost (a b : Double) : Bool :=
  match a.place, b.place with
  | some x, some y => x ≤ y
  | _, _ => false

/-- The number nearest to an integer of units of `2 ^ -1074`. -/
def ofUnits (i : Int) : Double := ofScaled (i < 0) i.natAbs (-1074)

/-- The number without its fractional part, rounded toward zero. Of a significand that is cut at the
point, the bits after the point are cleared; the sign stays, also of zero. -/
def trunc (d : Double) : Double :=
  if d.exponentField < 1023 then ofCode d.negative 0
  else if d.exponentField < 1075 then
    ⟨UInt64.ofNat (d.bits.toNat - d.fraction % pow2 (1075 - d.exponentField))⟩
  else d

/-- The fractional part: what the whole part leaves. What is not finite has none. -/
def fract (d : Double) : Double :=
  if d.isFinite then ofUnits (d.units - d.trunc.units) else indefinite

/-- The number after the greatest integer of 64 bits. -/
def int64Limit : Double := ofScaled false 1 63

/-- The number lies among the integers of 64 bits, as comparisons of numbers tell. -/
def inInt64Range (d : Double) : Bool := int64Limit.neg.atMost d && d.less int64Limit

/-- The integer of 64 bits that a number is converted to: toward zero, and the nearest one for what
lies beyond them all. What is not a number becomes zero. -/
def toInt64 (d : Double) : Int64 :=
  match d.place with
  | none => 0
  | some units =>
    .ofInt (max (-(pow2 63 : Int)) (min (units.tdiv unitsPerOne) ((pow2 63 : Int) - 1)))

/-- The integer that a number is, if it is one and fits 64 bits. -/
def exactInteger? (d : Double) : Option Int64 :=
  if d.fract.same zero && d.inInt64Range then some d.toInt64 else none

/-- The integer left when the fractional part is dropped, if it fits 64 bits. -/
def truncatedInteger? (d : Double) : Option Int64 :=
  let whole := d.trunc
  if whole.isFinite && whole.inInt64Range then some whole.toInt64 else none

end Double

namespace Single

/-- The sign bit. -/
def negative (s : Single) : Bool := pow2 31 ≤ s.bits.toNat

/-- The biased exponent. -/
def exponentField (s : Single) : Nat := s.bits.toNat / pow2 23 % pow2 8

/-- The stored bits of the significand. -/
def fraction (s : Single) : Nat := s.bits.toNat % pow2 23

/-- A number from a sign and a code of the format. -/
def ofCode (negative : Bool) (code : Nat) : Single :=
  ⟨UInt32.ofNat (if negative then pow2 31 + code else code)⟩

/-- The number nearest to an integer, rounded once. -/
def ofInt (i : Int) : Single :=
  ofCode (i < 0) (BinaryFormat.single.round i.natAbs 0)

/-- The same number in 64 bits; what is not a number stays so and becomes quiet. -/
def widen (s : Single) : Double :=
  if s.exponentField = 255 then
    if s.fraction = 0 then .ofCode s.negative BinaryFormat.double.infinity
    else .ofCode s.negative
      (BinaryFormat.double.infinity + pow2 51 + s.fraction % pow2 22 * pow2 29)
  else
    let significand := if s.exponentField = 0 then s.fraction else pow2 23 + s.fraction
    .ofScaled s.negative significand ((max s.exponentField 1 : Int) - 150)

end Single

/-- The nearest 32-bit number; what is not a number stays so and becomes quiet. -/
def Double.narrow (d : Double) : Single :=
  if d.isNaN then
    .ofCode d.negative (BinaryFormat.single.infinity + pow2 22 + d.fraction / pow2 29 % pow2 22)
  else if d.isFinite then
    .ofCode d.negative
      (BinaryFormat.single.round d.significand ((d.scale : Int) - 1074))
  else .ofCode d.negative BinaryFormat.single.infinity

end ScriptBridge
