import ScriptBridge.Number.Double

/-!
# Decimal text of numbers

A finite double is a fraction of whole numbers, so its decimal digits are found by exact
arithmetic. `Double.shortest?` gives the fewest digits that still round to the number, and of the
decimals with that many digits the nearest one; `Decimal.nearest` gives a fixed count of digits. A
`DecimalLayout` says how such digits are written: where positional notation ends, how an exponent
is written, and what stands for the numbers without digits.
-/

namespace ScriptBridge

/-- The number `digits · 10 ^ exponent`. -/
structure Decimal where
  digits : Nat
  exponent : Int
deriving DecidableEq, Repr

namespace Decimal

/-- How many decimal digits a positive number has. -/
def digitCount (n : Nat) : Nat := (Nat.toDigits 10 n).length

/-- The exponent `k` with `10 ^ k ≤ numerator / denominator < 10 ^ (k + 1)`, for a positive
fraction. -/
def decade (numerator denominator : Nat) : Int :=
  if denominator ≤ numerator then (digitCount (numerator / denominator) : Int) - 1
  else -(digitCount ((denominator + numerator - 1) / numerator - 1) : Int)

/-- The fraction divided by `10 ^ exponent`, as a fraction. -/
def scaled (numerator denominator : Nat) (exponent : Int) : Nat × Nat :=
  if 0 ≤ exponent then (numerator, denominator * pow10 exponent.toNat)
  else (numerator * pow10 (-exponent).toNat, denominator)

/-- Removes the zeros at the end of the digits, of which there are at most `limit`. -/
def trimZeros : Nat → Decimal → Decimal
  | 0, d => d
  | limit + 1, d =>
    if d.digits ≠ 0 ∧ d.digits % 10 = 0 then trimZeros limit ⟨d.digits / 10, d.exponent + 1⟩
    else d

/-- The decimal without zeros at its end. -/
def trimmed (d : Decimal) : Decimal := d.trimZeros (digitCount d.digits)

/-- The decimal of `count` digits nearest to a positive fraction, ties to even. -/
def nearest (count numerator denominator : Nat) : Decimal :=
  let exponent := decade numerator denominator - ((count : Int) - 1)
  let (n, d) := scaled numerator denominator exponent
  let quotient := n / d
  let twice := 2 * (n % d)
  let digits :=
    if twice > d then quotient + 1
    else if twice = d then quotient + quotient % 2
    else quotient
  trimmed ⟨digits, exponent⟩

end Decimal

/-- The real numbers that round to a double, as fractions over a common denominator: `lower` and
`upper` belong to them when `closed` says so, and `value` is the double itself. -/
structure RoundingInterval where
  lower : Nat
  value : Nat
  upper : Nat
  denominator : Nat
  closed : Bool

namespace RoundingInterval

/-- The interval of the size of a finite double: half a unit of the last place to both sides, a
quarter below a power of two. A tie goes to the even significand, so only there the ends belong
to it. -/
def ofDouble (d : Double) : RoundingInterval :=
  let unit := pow2 d.scale
  let below := if d.fraction = 0 ∧ 1 < d.exponentField then unit else 2 * unit
  ⟨4 * d.magnitude - below, 4 * d.magnitude, 4 * d.magnitude + 2 * unit,
    4 * Double.unitsPerOne, d.significand % 2 = 0⟩

/-- The fraction `numerator / denominator` of the given denominator lies in the interval. -/
def holds (interval : RoundingInterval) (digits : Nat) (exponent : Int) : Bool :=
  let (point, scale) :=
    if 0 ≤ exponent then (digits * pow10 exponent.toNat * interval.denominator, 1)
    else (digits * interval.denominator, pow10 (-exponent).toNat)
  if interval.closed then interval.lower * scale ≤ point && point ≤ interval.upper * scale
  else interval.lower * scale < point && point < interval.upper * scale

/-- The decimal of `count` digits in the interval that lies nearest to the value, if there is one;
an exact tie goes to the even digits. -/
def onGrid? (interval : RoundingInterval) (count : Nat) : Option Decimal :=
  let exponent := Decimal.decade interval.value interval.denominator - ((count : Int) - 1)
  let (n, d) := Decimal.scaled interval.value interval.denominator exponent
  let floor := n / d
  let twice := 2 * (n % d)
  let floorFirst := twice < d || (twice = d && floor % 2 = 0)
  let candidates := if floorFirst then [floor, floor + 1] else [floor + 1, floor]
  (candidates.find? fun digits => interval.holds digits exponent).map fun digits =>
    Decimal.trimmed ⟨digits, exponent⟩

/-- The decimal with the fewest digits in the interval. Seventeen digits always suffice. -/
def shortest? (interval : RoundingInterval) : Option Decimal :=
  (List.range 17).findSome? fun n => interval.onGrid? (n + 1)

end RoundingInterval

/-- How decimal digits are written. With the decimal point after `k` digits, the notation is
positional for `leastPoint < k ≤ greatestPoint` and otherwise has an exponent. -/
structure DecimalLayout where
  leastPoint : Int
  greatestPoint : Int
  exponentPlus : String
  exponentWidth : Nat
  notANumber : Bool → String

namespace DecimalLayout

/-- Digits with a point after the first `point` of them. -/
def positional (digits : List Char) (point : Int) : String :=
  let count : Int := digits.length
  if point ≤ 0 then
    "0." ++ String.ofList (List.replicate (-point).toNat '0' ++ digits)
  else if count ≤ point then
    String.ofList (digits ++ List.replicate (point - count).toNat '0') ++ ".0"
  else
    String.ofList (digits.take point.toNat) ++ "." ++ String.ofList (digits.drop point.toNat)

/-- The exponent of ten with its sign, filled up with zeros. -/
def exponentText (layout : DecimalLayout) (exponent : Int) : String :=
  let digits := Nat.toDigits 10 exponent.natAbs
  let padding := List.replicate (layout.exponentWidth - digits.length) '0'
  (if exponent < 0 then "-" else layout.exponentPlus) ++ String.ofList (padding ++ digits)

/-- The text of a positive decimal. -/
def decimal (layout : DecimalLayout) (d : Decimal) : String :=
  let digits := Nat.toDigits 10 d.digits
  let point := d.exponent + digits.length
  if layout.leastPoint < point ∧ point ≤ layout.greatestPoint then positional digits point
  else
    let tail := digits.drop 1
    let mantissa := digits.take 1 ++ (if tail.isEmpty then [] else '.' :: tail)
    String.ofList mantissa ++ "e" ++ layout.exponentText (point - 1)

/-- The text of a double whose digits are chosen by `digits`. -/
def double (layout : DecimalLayout) (digits : Double → Option Decimal) (d : Double) : String :=
  if d.isNaN then layout.notANumber d.negative
  else
    let sign := if d.negative then "-" else ""
    if !d.isFinite then sign ++ "inf"
    else if d.magnitude = 0 then sign ++ "0.0"
    else sign ++ ((digits d).map layout.decimal).getD ""

end DecimalLayout

namespace Double

/-- The fewest digits that read back as a finite number other than zero. -/
def shortest? (d : Double) : Option Decimal := (RoundingInterval.ofDouble d).shortest?

/-- Shortest digits are positional up to sixteen digits before the point and up to four zeros after
it; an exponent has no sign when it is positive. -/
def shortestLayout : DecimalLayout := ⟨-5, 16, "", 1, fun _ => "NaN"⟩

/-- The text of a double in dumps and for typed arguments. -/
def text (d : Double) : String := shortestLayout.double shortest? d

/-- Fourteen digits are positional up to fourteen digits before the point and up to three zeros
after it; an exponent has a sign and two digits at least. -/
def scriptLayout : DecimalLayout :=
  ⟨-4, 14, "+", 2, fun negative => if negative then "-nan" else "nan"⟩

/-- The text that a script sees of a double. -/
def scriptText (d : Double) : String :=
  scriptLayout.double (fun d => some (Decimal.nearest 14 d.magnitude unitsPerOne)) d

end Double

end ScriptBridge
