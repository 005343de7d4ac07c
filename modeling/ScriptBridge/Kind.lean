/-!
# Kinds of values

A kind is the dynamic type seen at a slot. The two kinds of numbers share one type name.
-/

namespace ScriptBridge

/-- The dynamic type of a slot, `none` where there is no slot. -/
inductive Kind where
  | none
  | nil
  | boolean
  | integer
  | number
  | string
  | table
  | function
  | userdata
  | thread
  | other
deriving DecidableEq, Repr, Inhabited

namespace Kind

/-- The type name as scripts know it. -/
def typeName : Kind → String
  | none => "no value"
  | nil => "nil"
  | boolean => "boolean"
  | integer => "number"
  | number => "number"
  | string => "string"
  | table => "table"
  | function => "function"
  | userdata => "userdata"
  | thread => "thread"
  | other => "value"

/-- The name in messages, which tells the two kinds of numbers apart. -/
def text : Kind → String
  | integer => "number (integer)"
  | number => "number (float)"
  | kind => kind.typeName

/-- A number of either kind. -/
def isNumber : Kind → Bool
  | integer | number => true
  | _ => false

end Kind

end ScriptBridge
