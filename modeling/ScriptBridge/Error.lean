import ScriptBridge.Kind
import ScriptBridge.Text.Search

/-!
# Errors of the stack and of the script engine

The two kinds of errors contain each other: an error of a host callback travels through the engine
as an external error, and an error of the engine can be the error of a stack operation.
`StackError.message` and `LuaError.message` give the texts; `LuaError.diagnostic` is the engine's
own message without the wrappers around it and without the traceback after it.
-/

namespace ScriptBridge

/-- The four primitive types that a typed argument can have. -/
inductive ArgType where
  | text
  | integer
  | double
  | boolean
deriving DecidableEq, Repr, Inhabited

/-- The name of a primitive type in messages. -/
def ArgType.message : ArgType → String
  | .text => "string"
  | .integer => "integer"
  | .double => "double"
  | .boolean => "boolean"

/-- Whether a script failed before it ran or while it ran. -/
inductive ScriptPhase where
  | load
  | runtime
deriving DecidableEq, Repr, Inhabited

/-- The name of a phase in messages. -/
def ScriptPhase.message : ScriptPhase → String
  | .load => "load"
  | .runtime => "runtime"

/-- A failure that the engine reported, with its diagnostic. -/
structure ScriptError where
  phase : ScriptPhase
  text : String
deriving DecidableEq, Repr

/-- The text of a script failure. -/
def ScriptError.message (e : ScriptError) : String := e.phase.message ++ " error: " ++ e.text

mutual

/-- Why an operation of a stack failed. -/
inductive StackError where
  | underflow (requested available : Nat)
  | overflow (capacity : Nat)
  | invalidIndex (index : Int)
  | notATable (index : Int) (found : Kind)
  | typeMismatch (index : Int) (expected : ArgType) (found : Kind)
  | callback (name text : String)
  | script (e : ScriptError)
  | engine (e : LuaError)

/-- An error as the script engine hands it to the host. -/
inductive LuaError where
  | runtime (text : String)
  | memory (text : String)
  | syntaxError (text : String)
  | callback (traceback : String) (cause : LuaError)
  | context (text : String) (cause : LuaError)
  | external (e : StackError)
  | externalText (text : String)
  | stack
  | unresumable
  | conversion (target : String) (detail : Option String)

end

deriving instance DecidableEq for StackError, LuaError
deriving instance Repr for StackError, LuaError

instance : Inhabited StackError := ⟨.invalidIndex 0⟩
instance : Inhabited LuaError := ⟨.stack⟩

/-- The messages that several operations share. -/
def callNonFunction : String := "attempt to call a"

/-- The diagnostic of a failure whose handler is not a function. -/
def errorInHandler : String := "error in error handling"

/-- The warning about a callback that is called with too few arguments. -/
def notEnoughArgs : String := "not enough arguments"

/-- The failure of a callback that promises more results than its frame holds. -/
def tooManyResults : String := "callback promised more results than it pushed"

/-- What a traceback begins with. -/
def tracebackMarker : String := "\nstack traceback:"

/-- The text without the blanks at its end. -/
def trimEnd (text : String) : String :=
  String.ofList (text.toList.reverse.dropWhile Char.isWhitespace).reverse

mutual

/-- The text of a stack error. -/
def StackError.message : StackError → String
  | .underflow requested available =>
    "stack underflow: requested " ++ toString requested ++ " values, " ++ toString available
      ++ " available"
  | .overflow capacity =>
    "stack overflow: capacity of " ++ toString capacity ++ " values reached"
  | .invalidIndex index => "invalid stack index " ++ toString index
  | .notATable index found =>
    "value at index " ++ toString index ++ " is not a table (found " ++ found.text ++ ")"
  | .typeMismatch index expected found =>
    "type mismatch at index " ++ toString index ++ ": expected " ++ expected.message
      ++ ", found " ++ found.text
  | .callback name text => "callback \x60" ++ name ++ "\x60: " ++ text
  | .script e => e.message
  | .engine e => e.message

/-- The text of an engine error. -/
def LuaError.message : LuaError → String
  | .runtime text => "runtime error: " ++ text
  | .memory text => "memory error: " ++ text
  | .syntaxError text => "syntax error: " ++ text
  | .callback traceback cause => cause.message ++ "\n" ++ trimEnd traceback ++ "\n"
  | .context text cause => text ++ "\n" ++ cause.message
  | .external e => e.message
  | .externalText text => text
  | .stack =>
    "out of Lua stack, too many arguments to a Lua function or too many return values from "
      ++ "a callback"
  | .unresumable => "coroutine is non-resumable"
  | .conversion target detail =>
    "error converting Lua nil to " ++ target
      ++ (match detail with
        | some text => " (" ++ text ++ ")"
        | none => "")

end

namespace LuaError

/-- The innermost error, without the wrappers of callbacks and contexts. -/
def innermost : LuaError → LuaError
  | .callback _ cause => cause.innermost
  | .context _ cause => cause.innermost
  | e => e

/-- The bare message of an error that has one, the full text otherwise. -/
def bareText : LuaError → String
  | .runtime text => text
  | .memory text => text
  | .syntaxError text => text
  | e => e.message

/-- The engine's own message: the innermost text up to the traceback. -/
def diagnostic (e : LuaError) : String := beforeFirst tracebackMarker e.innermost.bareText

end LuaError

/-- The error that the engine sees when a host operation fails: its own errors as they are. -/
def StackError.toLua : StackError → LuaError
  | .engine e => e
  | e => .external e

end ScriptBridge
