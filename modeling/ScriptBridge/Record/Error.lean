import ScriptBridge.Error

/-!
# Errors of records and script functions

Why a field could not be filled from a table, or a script function could not be called. What fails
on the stack on the way is passed on as it is.
-/

namespace ScriptBridge

/-- The side of a call on which the counts disagree. -/
inductive CallSide where
  | inputs
  | outputs
deriving DecidableEq, Repr

/-- The name of a side in messages. -/
def CallSide.message : CallSide → String
  | inputs => "inputs"
  | outputs => "outputs"

/-- Why an operation on records or script functions failed. -/
inductive RecordError where
  | missingField (table key expected : String) (found : Kind)
  | fieldType (table key expected : String) (found : Kind)
  | arity (name : String) (side : CallSide) (declared supplied : Nat)
  | notCallable (name : String) (found : Kind)
  | unbound
  | call (name : String) (source : ScriptError)
  | stack (e : StackError)
deriving DecidableEq, Repr

/-- The text of an error. -/
def RecordError.message : RecordError → String
  | missingField table key expected found =>
    "required field \x60" ++ key ++ "\x60 of \x60" ++ table ++ "\x60 is missing or not a "
      ++ expected ++ " (found " ++ found.text ++ ")"
  | fieldType table key expected found =>
    "field \x60" ++ key ++ "\x60 of \x60" ++ table ++ "\x60 is not a " ++ expected ++ " (found "
      ++ found.text ++ ")"
  | arity name side declared supplied =>
    "\x60" ++ name ++ "\x60 declares " ++ toString declared ++ " " ++ side.message ++ " but "
      ++ toString supplied ++ " were supplied"
  | notCallable name found =>
    "\x60" ++ name ++ "\x60 is not callable (found " ++ found.text ++ ")"
  | unbound => "table function is not bound"
  | call name source => "call to \x60" ++ name ++ "\x60 failed: " ++ source.message
  | stack e => e.message

end ScriptBridge
