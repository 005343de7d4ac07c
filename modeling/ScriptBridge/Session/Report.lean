import ScriptBridge.Session.Step
import ScriptBridge.World

/-!
# Reports of sessions

What a step gives, how it ended, and what the stack looked like after it.
-/

namespace ScriptBridge.Session

/-- What a stack says about the value at an index. -/
structure Inspection where
  kind : Kind
  absolute : Option Int
  value : Option Value
  number : Option Double
  integer : Option Int64
  text : Option String
  isTrue : Bool
deriving Repr

/-- What a stack says about itself. -/
structure Description where
  size : Nat
  isFrame : Bool
  callbacks : List String
  config : Config
deriving Repr

/-- What became of a field of its own: how it was filled, or why not, and its content. -/
structure MappingReport where
  outcome : Except RecordError (Option Bool)
  field : Field

/-- The fields of a record that a schema names. -/
abbrev Fields : Type := List (Slot × Field)

/-- What a step gives. The refused ones failed, but not so that the steps around them end. -/
inductive Gain where
  | nothing
  | value (v : Value)
  | position (i : Int)
  | inspection (i : Inspection)
  | description (d : Description)
  | names (names : List String)
  | entered (size : Nat)
  | filled (changed : Bool) (a : Arg)
  | fillRefused (e : StackError) (a : Arg)
  | function (f : ScriptFunction)
  | outputs (outputs : List Arg)
  | callRefused (e : RecordError) (outputs : List Arg)
  | args (args : List Arg)
  | hydrated (found : Bool) (fields : Fields)
  | applied (fields : Fields)
  | recordRefused (e : RecordError) (fields : Fields)
  | mapped (table : String) (reports : List MappingReport)

/-- How a step ended. -/
inductive Ending where
  | gave (gain : Gain)
  | failed (e : RecordError)
  | panicked (text : String)
  | exhausted

/-- What a stack holds. -/
structure Snapshot where
  kinds : List Kind
  dump : String
deriving Repr

/-- The content of a stack. -/
def Snapshot.ofStack (s : Stack) : Snapshot := ⟨s.slots.map Value.kind, s.dump⟩

/-- A nested step that ended, with where it ran and the stack it ran on. -/
structure TraceEntry where
  place : String
  ending : Ending
  after : Snapshot

/-- A step of a session that ended: the stack after it, its nested steps in the order they ended,
and the records of the journal that it made. -/
structure StepReport where
  ending : Ending
  after : Snapshot
  trace : List TraceEntry
  journal : List LogRecord

/-- A session that ended. -/
structure SessionReport where
  opened : List LogRecord
  steps : List StepReport
  closed : List LogRecord

/-- What the steps of a session keep under names, and the nested steps that ended. -/
structure Memory where
  args : List (String × Arg)
  functions : List (String × ScriptFunction)
  records : List (String × Record Slot)
  trace : List TraceEntry

namespace Memory

/-- The memory at the start. -/
def empty : Memory := ⟨[], [], [], []⟩

/-- The argument of a name. -/
def arg (m : Memory) (name : String) : Arg := (m.args.lookup name).getD (.integer 0)

/-- The record of a name. -/
def record (m : Memory) (name : String) : Record Slot := (m.records.lookup name).getD blankRecord

/-- The function that a step uses. -/
def function (m : Memory) (use : FunctionUse) : ScriptFunction :=
  let f := match use.source with
    | .named name => (m.functions.lookup name).getD (.unbound 0 0)
    | .inRecord name slot =>
      match m.record name slot with
      | .function f => f
      | _ => .unbound 0 0
  match use.handler with
  | some index => f.withHandler index
  | none => f

/-- The memory with an argument under a name. -/
def keepArg (m : Memory) (name : String) (a : Arg) : Memory :=
  { m with args := (name, a) :: m.args }

/-- The memory with a function under a name. -/
def keepFunction (m : Memory) (name : String) (f : ScriptFunction) : Memory :=
  { m with functions := (name, f) :: m.functions }

/-- The memory with a record under a name. -/
def keepRecord (m : Memory) (name : String) (r : Record Slot) : Memory :=
  { m with records := (name, r) :: m.records }

end Memory

end ScriptBridge.Session
