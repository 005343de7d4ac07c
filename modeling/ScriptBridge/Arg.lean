import ScriptBridge.Value

/-!
# Typed arguments

A typed argument holds one primitive, and its type decides both how it is pushed and which values
it accepts: a text takes strings, an integer takes integers, a double takes any number, a boolean
takes booleans. `accept?` is that rule; no numeric string is taken for a number.
-/

namespace ScriptBridge

/-- A primitive with its type. -/
inductive Arg where
  | text (s : String)
  | integer (i : Int64)
  | double (d : Double)
  | boolean (b : Bool)
deriving DecidableEq, Repr, Inhabited

namespace Arg

/-- The type of the payload. -/
def type : Arg → ArgType
  | text _ => .text
  | integer _ => .integer
  | double _ => .double
  | boolean _ => .boolean

/-- The zero value of a type. -/
def placeholder : ArgType → Arg
  | .text => text ""
  | .integer => integer 0
  | .double => double .zero
  | .boolean => boolean false

/-- The argument of a 32-bit integer. -/
def ofInt32 (i : Int32) : Arg := integer i.toInt64

/-- The argument of a 32-bit number. -/
def ofSingle (s : Single) : Arg := double s.widen

/-- The value that is pushed for an argument. -/
def toValue : Arg → Value
  | text s => .text s
  | integer i => .integer i
  | double d => .number d
  | boolean b => .boolean b

/-- The argument after it took a value, when the type of the value fits. -/
def accept? : Arg → Value → Option Arg
  | text _, .string bytes => some (text bytes.toStringLossy)
  | integer _, .integer i => some (integer i)
  | double _, .integer i => some (double (.ofInt i.toInt))
  | double _, .number d => some (double d)
  | boolean _, .boolean b => some (boolean b)
  | _, _ => none

/-- The argument after it was offered a value, which it keeps only if the type fits. -/
def offer (a : Arg) (v : Value) : Arg := (a.accept? v).getD a

/-- The text payload. -/
def toText? : Arg → Option String
  | text s => some s
  | _ => none

/-- The integer payload. -/
def toInteger? : Arg → Option Int64
  | integer i => some i
  | _ => none

/-- The double payload. -/
def toDouble? : Arg → Option Double
  | double d => some d
  | _ => none

/-- The boolean payload. -/
def toBoolean? : Arg → Option Bool
  | boolean b => some b
  | _ => none

/-- The payload as text. -/
def display : Arg → String
  | text s => s
  | integer i => toString i.toInt
  | double d => d.text
  | boolean b => if b then "true" else "false"

/-- Equality of arguments, where doubles are equal as numbers. -/
def same : Arg → Arg → Bool
  | text a, text b => a = b
  | integer a, integer b => a = b
  | double a, double b => a.same b
  | boolean a, boolean b => a = b
  | _, _ => false

end Arg

end ScriptBridge
