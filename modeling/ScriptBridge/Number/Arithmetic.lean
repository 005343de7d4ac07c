import ScriptBridge.Number.Double

/-!
# Arithmetic of script numbers

The operations that scripts apply to numbers. Doubles are added, subtracted, multiplied, divided
and raised to powers by the machine; an operand that is not a number passes through with its sign,
and a result that is not a number is always the same one. Floor division and the remainder follow
the sign of the divisor, for integers as for doubles.
-/

namespace ScriptBridge

namespace Double

/-- The machine's number. -/
def toFloat (d : Double) : Float := Float.ofBits d.bits

/-- A result of the machine. -/
def ofFloat (f : Float) : Double :=
  let d : Double := ⟨f.toBits⟩
  if d.isNaN then indefinite else d

/-- An operation of the machine on two numbers. -/
def lift (f : Float → Float → Float) (a b : Double) : Double :=
  if a.isNaN then a else if b.isNaN then b else ofFloat (f a.toFloat b.toFloat)

/-- The sum. -/
def add : Double → Double → Double := lift (· + ·)

/-- The difference. -/
def sub : Double → Double → Double := lift (· - ·)

/-- The product. -/
def mul : Double → Double → Double := lift (· * ·)

/-- The quotient. -/
def div : Double → Double → Double := lift (· / ·)

/-- The power. -/
def pow : Double → Double → Double := lift Float.pow

/-- The greatest integral number not above a number. -/
def floor (d : Double) : Double :=
  if d.isNaN then d else ofFloat d.toFloat.floor

/-- The quotient rounded to the floor. -/
def floorDiv (a b : Double) : Double := (a.div b).floor

/-- The remainder that has the sign of the divisor. The remainder toward zero of two finite
numbers is exact, since both are whole multiples of the least positive number. -/
def modulo (a b : Double) : Double :=
  if a.isNaN then a
  else if b.isNaN then b
  else if !a.isFinite || b.units = 0 then indefinite
  else if !b.isFinite then
    if a.units = 0 || a.negative = b.negative then a else b
  else
    let r := a.units.tmod b.units
    if r = 0 then ofCode a.negative 0
    else if (r < 0) = (b.units < 0) then ofUnits r
    else (ofUnits r).add b

end Double

end ScriptBridge
