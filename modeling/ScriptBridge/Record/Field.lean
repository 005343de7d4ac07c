import ScriptBridge.Arg
import ScriptBridge.Config

/-!
# Fields of host records

A field holds text, an integer of some width, a number, a boolean, a typed argument, or a handle to
a script function. `Field.assign?` says which values a field takes and what it becomes: strings and
numbers are kept apart, an integer field takes any number that fits it when its fractional part is
dropped, and a function field takes a function by noting where it was found.
-/

namespace ScriptBridge

/-- The widths of integer fields. -/
inductive IntegerWidth where
  | signed64
  | signed32
  | unsigned32
  | unsigned64
deriving DecidableEq, Repr

namespace IntegerWidth

/-- The least integer of a width. -/
def least : IntegerWidth → Int
  | signed64 => -(pow2 63 : Int)
  | signed32 => -(pow2 31 : Int)
  | unsigned32 => 0
  | unsigned64 => 0

/-- The greatest integer of a width. -/
def greatest : IntegerWidth → Int
  | signed64 => (pow2 63 : Int) - 1
  | signed32 => (pow2 31 : Int) - 1
  | unsigned32 => (pow2 32 : Int) - 1
  | unsigned64 => (pow2 64 : Int) - 1

/-- An integer of the width. -/
def holds (w : IntegerWidth) (i : Int) : Bool := w.least ≤ i && i ≤ w.greatest

end IntegerWidth

/-- Where a script function is looked up: by its name among the globals, or in a table that has a
name in messages. -/
structure FunctionBinding where
  name : String
  table : Option (String × ObjectId)
deriving DecidableEq, Repr

/-- A handle to a script function of fixed counts of inputs and outputs. Failures of its calls go
through the function at the stack index `handler`, unless that is `0`. Results are read by their
index, so there are no more outputs than an index can count. -/
structure ScriptFunction where
  inputs : Nat
  outputs : Nat
  binding : Option FunctionBinding
  handler : Int
  outputs_le : outputs ≤ maxIndex
deriving DecidableEq, Repr

namespace ScriptFunction

/-- A handle of given counts, so bounded that an index can name every result. -/
def ofCounts (inputs outputs : Nat) (binding : Option FunctionBinding) : ScriptFunction :=
  ⟨inputs, min outputs maxIndex, binding, 0, Nat.min_le_right _ _⟩

/-- A handle that is bound to nothing. -/
def unbound (inputs outputs : Nat) : ScriptFunction := ofCounts inputs outputs none

/-- A handle to a global. Nothing is looked up before the first call. -/
def ofGlobal (inputs outputs : Nat) (name : String) : ScriptFunction :=
  ofCounts inputs outputs (some ⟨name, none⟩)

/-- The handle with failures routed through the function at an index. -/
def withHandler (f : ScriptFunction) (index : Int) : ScriptFunction := { f with handler := index }

/-- The handle is bound. -/
def isBound (f : ScriptFunction) : Bool := f.binding.isSome

/-- The name under which the function is looked up. -/
def name? (f : ScriptFunction) : Option String := f.binding.map FunctionBinding.name

/-- The name of the table in which the function is looked up. -/
def tableName? (f : ScriptFunction) : Option String :=
  f.binding.bind fun b => b.table.map Prod.fst

end ScriptFunction

/-- The type of a field. -/
inductive FieldType where
  | text
  | integer (w : IntegerWidth)
  | double
  | single
  | boolean
  | arg
  | function (inputs outputs : Nat)
deriving DecidableEq, Repr

/-- A field with its content. -/
inductive Field where
  | text (s : String)
  | integer (w : IntegerWidth) (i : Int)
  | double (d : Double)
  | single (s : Single)
  | boolean (b : Bool)
  | arg (a : Arg)
  | function (f : ScriptFunction)
deriving DecidableEq, Repr

/-- The field of a type before anything was written to it. -/
def FieldType.blank : FieldType → Field
  | text => .text ""
  | integer w => .integer w 0
  | double => .double .zero
  | single => .single ⟨0⟩
  | boolean => .boolean false
  | arg => .arg (.integer 0)
  | function inputs outputs => .function (.unbound inputs outputs)

/-- Where a value was found: the name of the table in messages, the key and the table itself. -/
structure FieldSite where
  tableName : String
  key : String
  table : ObjectId
deriving DecidableEq, Repr

namespace Field

/-- The type that messages name for a field. -/
def expected : Field → String
  | text _ => "string"
  | integer _ _ => "integer"
  | double _ => "number"
  | single _ => "number"
  | boolean _ => "boolean"
  | arg (.text _) => "string"
  | arg (.integer _) => "integer"
  | arg (.double _) => "number"
  | arg (.boolean _) => "boolean"
  | function _ => "function"

/-- The field after it took a value, when the value fits. -/
def assign? (site : FieldSite) : Field → Value → Option Field
  | text _, .string bytes => some (text bytes.toStringLossy)
  | integer w _, v =>
    v.truncatedInteger?.bind fun i =>
      if w.holds i.toInt then some (integer w i.toInt) else none
  | double _, .integer i => some (double (.ofInt i.toInt))
  | double _, .number d => some (double d)
  | single _, .integer i => some (single (.ofInt i.toInt))
  | single _, .number d => some (single d.narrow)
  | boolean _, .boolean b => some (boolean b)
  | arg a, v => (a.accept? v).map arg
  | function f, .function _ =>
    some (function { f with binding := some ⟨site.key, some (site.tableName, site.table)⟩ })
  | _, _ => none

end Field

end ScriptBridge
