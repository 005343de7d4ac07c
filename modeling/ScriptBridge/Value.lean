import ScriptBridge.Error
import ScriptBridge.Number.Decimal
import ScriptBridge.Text.Utf8

/-!
# Values of the script engine

A value is a primitive or the name of an object of the heap: tables, functions, userdata and
threads are shared, and two values are the same object exactly when their numbers agree. An error
of the host that a script holds is an object too: every time the host hands an error over, the
script gets it with a mark of its own, while those that the host holds are all marked `0`.
-/

namespace ScriptBridge

/-- The number of an object of the heap. -/
abbrev ObjectId : Type := Nat

/-- A value of the script engine. -/
inductive Value where
  | nil
  | boolean (b : Bool)
  | integer (i : Int64)
  | number (d : Double)
  | string (bytes : Bytes)
  | table (id : ObjectId)
  | function (id : ObjectId)
  | userdata (id : ObjectId)
  | lightUserdata (id : ObjectId)
  | thread (id : ObjectId)
  | failure (e : LuaError) (mark : ObjectId)
deriving DecidableEq, Repr, Inhabited

namespace Value

/-- A text as a script string. -/
def text (s : String) : Value := .string (Bytes.ofString s)

/-- The kind of a value. -/
def kind : Value → Kind
  | nil => .nil
  | boolean _ => .boolean
  | integer _ => .integer
  | number _ => .number
  | string _ => .string
  | table _ => .table
  | function _ => .function
  | userdata _ => .userdata
  | lightUserdata _ => .userdata
  | thread _ => .thread
  | failure _ _ => .other

/-- The value as the host holds it: an error without a mark of its own. -/
def detached : Value → Value
  | failure e _ => .failure e 0
  | v => v

/-- Only nil and false are false. -/
def isTrue : Value → Bool
  | nil => false
  | boolean b => b
  | _ => true

/-- The integer that a value is: integers, and doubles without a fractional part that fit. -/
def exactInteger? : Value → Option Int64
  | integer i => some i
  | number d => d.exactInteger?
  | _ => none

/-- The integer view of a number: doubles lose their fractional part. -/
def truncatedInteger? : Value → Option Int64
  | integer i => some i
  | number d => d.truncatedInteger?
  | _ => none

/-- The number that a value is, as a double. -/
def toDouble? : Value → Option Double
  | integer i => some (.ofInt i.toInt)
  | number d => some d
  | _ => none

/-- The text of a string. -/
def toText? : Value → Option String
  | string bytes => some bytes.toStringLossy
  | _ => none

/-- The value in a dump of the stack: primitives by their text, objects by their type name. -/
def dump : Value → String
  | integer i => toString i.toInt
  | number d => d.text
  | boolean b => if b then "true" else "false"
  | string bytes => "\"" ++ bytes.toStringLossy ++ "\""
  | v => v.kind.typeName

end Value

end ScriptBridge
