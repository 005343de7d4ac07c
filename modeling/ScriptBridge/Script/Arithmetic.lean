import ScriptBridge.Number.Arithmetic
import ScriptBridge.Script.Instruction

/-!
# Operators on plain values

What the arithmetic and bitwise operators make of numbers, without regard to metatables. Scripts
apply them when they run, and to constants already when they are read.
-/

namespace ScriptBridge.Script

/-- The integer that a number is, without loss. -/
def integral? : Value → Option Int64
  | .integer i => some i
  | .number d => d.exactInteger?
  | _ => none

/-- A word shifted to the left by any count, to the right by a negative one. -/
def shifted (i : Int64) (count : Int) : Int64 :=
  let word := i.toUInt64
  if count ≤ -64 ∨ 64 ≤ count then 0
  else if 0 ≤ count then Int64.ofUInt64 (word <<< UInt64.ofNat count.toNat)
  else Int64.ofUInt64 (word >>> UInt64.ofNat (-count).toNat)

namespace ArithmeticOp

/-- The metamethod of an arithmetic operator. -/
def event : ArithmeticOp → String
  | add => "__add"
  | sub => "__sub"
  | mul => "__mul"
  | div => "__div"
  | mod => "__mod"
  | pow => "__pow"
  | floorDiv => "__idiv"
  | and => "__band"
  | or => "__bor"
  | xor => "__bxor"
  | shiftLeft => "__shl"
  | shiftRight => "__shr"

/-- An operator on the bits of integers. -/
def isBitwise : ArithmeticOp → Bool
  | and | or | xor | shiftLeft | shiftRight => true
  | _ => false

/-- What an operator makes of two integers, or the reason why it fails. -/
def integers (op : ArithmeticOp) (a b : Int64) : Except String Value :=
  match op with
  | add => .ok (.integer (a + b))
  | sub => .ok (.integer (a - b))
  | mul => .ok (.integer (a * b))
  | div => .ok (.number ((Double.ofInt a.toInt).div (.ofInt b.toInt)))
  | pow => .ok (.number ((Double.ofInt a.toInt).pow (.ofInt b.toInt)))
  | floorDiv =>
    if b = 0 then .error "attempt to divide by zero"
    else .ok (.integer (Int64.ofInt (a.toInt.fdiv b.toInt)))
  | mod =>
    if b = 0 then .error "attempt to perform 'n%%0'"
    else .ok (.integer (Int64.ofInt (a.toInt.fmod b.toInt)))
  | and => .ok (.integer (Int64.ofUInt64 (a.toUInt64 &&& b.toUInt64)))
  | or => .ok (.integer (Int64.ofUInt64 (a.toUInt64 ||| b.toUInt64)))
  | xor => .ok (.integer (Int64.ofUInt64 (a.toUInt64 ^^^ b.toUInt64)))
  | shiftLeft => .ok (.integer (shifted a b.toInt))
  | shiftRight => .ok (.integer (shifted a (-b.toInt)))

/-- What an operator makes of two doubles; the bitwise ones take integers only. -/
def doubles (op : ArithmeticOp) (a b : Double) : Double :=
  match op with
  | add => a.add b
  | sub => a.sub b
  | mul => a.mul b
  | div => a.div b
  | pow => a.pow b
  | floorDiv => a.floorDiv b
  | mod => a.modulo b
  | _ => .indefinite

/-- What an operator makes of two values without metatables, if they have it. -/
def plain? (op : ArithmeticOp) (a b : Value) : Option (Except String Value) :=
  if op.isBitwise then
    match integral? a, integral? b with
    | some x, some y => some (op.integers x y)
    | _, _ => none
  else
    match a, b with
    | .integer x, .integer y => some (op.integers x y)
    | _, _ =>
      match a.toDouble?, b.toDouble? with
      | some x, some y => some (.ok (.number (op.doubles x y)))
      | _, _ => none

end ArithmeticOp

end ScriptBridge.Script
