import ScriptBridge.Record.Schema

/-!
# Steps of a session

A session drives one stack by steps. Steps are also what the bodies of its callbacks consist of:
those run on the frame of a call. Nested steps run up to the first that fails, unless that one is
tolerated. Arguments, records and functions that are kept under names are shared by all steps of a
session.
-/

namespace ScriptBridge.Session

/-- A field of a session's records: its type, and which of the fields of this type it is. -/
structure Slot where
  type : FieldType
  index : Nat
deriving DecidableEq, Repr

/-- The record before anything was written to it. -/
def blankRecord : Record Slot := fun slot => slot.type.blank

/-- A value to push: one that is given, or a new object. -/
inductive Operand where
  | given (v : Value)
  | newTable
  | newFunction
  | newUserdata
  | newLightUserdata
  | newThread
  | newFailure
deriving DecidableEq, Repr

/-- How many results the body of a callback promises: a count, or all that is on its frame. -/
inductive Promise where
  | count (n : Nat)
  | all
deriving DecidableEq, Repr

/-- A script function that a step uses: one kept under a name, or one in a record's field. -/
inductive FunctionSource where
  | named (name : String)
  | inRecord (record : String) (slot : Slot)
deriving DecidableEq, Repr

/-- A script function that a step uses, perhaps with another handler. -/
structure FunctionUse where
  source : FunctionSource
  handler : Option Int
deriving DecidableEq, Repr

/-- An argument that a step fills: one kept under a name, or a fresh one. -/
inductive ArgSource where
  | named (name : String)
  | fresh (a : Arg)
deriving DecidableEq, Repr

/-- A field of its own that is filled from a key of the table on top. -/
structure SingleMapping where
  start : Field
  key : String
  isRequired : Bool
deriving Repr

/-- How a scope ends. -/
inductive ScopeEnd where
  | finished
  | dropped
deriving DecidableEq, Repr

mutual

/-- A step. -/
inductive Step where
  | push (operand : Operand)
  | pushArgs (args : List Arg)
  | pushMany (count : Nat)
  | pushCopy (index : Int)
  | pushCallback (callback : Callback Body)
  | pop (count : Nat)
  | popValue
  | remove (index : Int)
  | clear
  | inspect (index : Int)
  | describe
  | pushGlobal (name : String)
  | bindGlobal (name : String)
  | pushTable
  | storeField (index : Int) (key : String)
  | swapField (index : Int)
  | pushField (index : Int) (key : String)
  | addMember (index : Int) (key : String) (a : Arg)
  | addCallback (index : Int) (key : String) (callback : Callback Body)
  | register (callback : Callback Body)
  | install (batch : List (Callback Body))
  | runSource (source name : String)
  | runFile (path : String) (contents : Option Bytes)
  | invoke (inputs outputs : Nat) (handler : Int)
  | inScope (label : String) (delta : Int) (steps : List Nested) (ending : ScopeEnd)
  | keepArg (name : String) (a : Arg)
  | pushNamedArg (name : String)
  | fill (index : Int) (source : ArgSource)
  | keepFunction (name : String) (f : ScriptFunction)
  | describeFunction (use : FunctionUse)
  | callFunction (use : FunctionUse) (inputs outputs : List Arg)
  | callTyped (use : FunctionUse) (inputs : List Arg) (types : List ArgType)
  | keepRecord (name : String) (start : List (Slot × Field))
  | hydrate (record table : String) (schema : Schema Slot)
  | applySchema (record table : String) (schema : Schema Slot)
  | mapFields (table : String) (mappings : List SingleMapping)
  | sum (a b : Int)
  | difference (a b : Int)
  | double (a : Int)
  | greet (a : Int) (greeting : String)
  | pushSize
  | raise (e : StackError)
  | panic (text : String)

/-- A step among those of a body or a scope. A tolerated one may fail without ending them. -/
inductive Nested where
  | mk (step : Step) (tolerated : Bool)

/-- The body of a callback: a label for reports, its steps, and how many results it promises. -/
inductive Body where
  | mk (label : String) (steps : List Nested) (promise : Promise)

end

end ScriptBridge.Session
