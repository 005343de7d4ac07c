import ScriptBridge.Arg
import ScriptBridge.Config

/-!
# Value stacks

A stack is a list of slots, bottom first, with a configuration and the names of the callbacks that
were registered through it. Positions count from `1` at the bottom and from `-1` at the top; `0` is
none. Every operation here either changes the slots as its name says or fails and gives no new
stack, so a failure cannot leave half of a change.
-/

namespace ScriptBridge

/-- A value stack. A frame is the stack that a callback gets for its arguments. -/
structure Stack where
  slots : List Value
  config : Config
  isFrame : Bool
  callbacks : List (String × Nat)
deriving Repr

namespace Stack

/-- The empty stack of a configuration. -/
def ofConfig (config : Config) : Stack := ⟨[], config, false, []⟩

/-- The frame of a call: exactly its arguments. -/
def frame (args : List Value) (config : Config) : Stack := ⟨args, config, true, []⟩

/-- How many slots there are. -/
def size (s : Stack) : Nat := s.slots.length

/-- How many slots below the one that an index names. -/
def offset? (s : Stack) (index : Int) : Option Nat :=
  if 0 < index then
    if index ≤ s.size then some (index.toNat - 1) else none
  else if index < 0 then
    if index.natAbs ≤ s.size then some (s.size - index.natAbs) else none
  else none

/-- The positive form of an index, which stays good while values are pushed above it. -/
def absolute (s : Stack) (index : Int) : Option Int :=
  (s.offset? index).bind fun offset =>
    if offset + 1 ≤ maxIndex then some ((offset : Int) + 1) else none

/-- The value at an index. -/
def peek (s : Stack) (index : Int) : Option Value :=
  (s.offset? index).bind fun offset => s.slots[offset]?

/-- The kind of the value at an index. -/
def kind (s : Stack) (index : Int) : Kind := (s.peek index).elim .none Value.kind

/-- The number at an index. -/
def toDouble? (s : Stack) (index : Int) : Option Double := (s.peek index).bind Value.toDouble?

/-- The integer at an index. -/
def toInteger? (s : Stack) (index : Int) : Option Int64 :=
  (s.peek index).bind Value.exactInteger?

/-- The text at an index. -/
def toText? (s : Stack) (index : Int) : Option String := (s.peek index).bind Value.toText?

/-- The value at an index is there and is true. -/
def isTrue (s : Stack) (index : Int) : Bool := (s.peek index).elim false Value.isTrue

/-- Every slot with its position, bottom first. -/
def dump (s : Stack) : String :=
  let slots := (s.slots.zipIdx 1).map fun (v, position) => toString position ++ "=" ++ v.dump
  "[" ++ ", ".intercalate slots ++ "]"

/-- The stack is full. -/
def isFull (s : Stack) : Bool := s.config.capacity ≤ s.size

/-- The failure of a push onto a full stack. -/
def overflow (s : Stack) : StackError := .overflow s.config.capacity

/-- Pushes a value. -/
def push (s : Stack) (v : Value) : Except StackError Stack :=
  if s.isFull then .error s.overflow else .ok { s with slots := s.slots ++ [v] }

/-- Pushes a copy of the value at an index. -/
def pushCopy (s : Stack) (index : Int) : Except StackError Stack :=
  match s.peek index with
  | some v => s.push v
  | none => .error (.invalidIndex index)

/-- Drops values from the top. -/
def pop (s : Stack) (count : Nat) : Except StackError Stack :=
  if s.size < count then .error (.underflow count s.size)
  else .ok { s with slots := s.slots.take (s.size - count) }

/-- Takes the value off the top. -/
def popValue (s : Stack) : Except StackError (Value × Stack) :=
  match s.slots.getLast? with
  | some v => .ok (v, { s with slots := s.slots.dropLast })
  | none => .error (.underflow 1 0)

/-- Takes the value at an index out; those above it move down. -/
def remove (s : Stack) (index : Int) : Except StackError (Value × Stack) :=
  match s.offset? index with
  | some offset =>
    match s.slots[offset]? with
    | some v => .ok (v, { s with slots := s.slots.eraseIdx offset })
    | none => .error (.invalidIndex index)
  | none => .error (.invalidIndex index)

/-- Drops every value. -/
def clear (s : Stack) : Stack := { s with slots := [] }

/-- The table at an index. -/
def table (s : Stack) (index : Int) : Except StackError ObjectId :=
  match s.peek index with
  | some (.table id) => .ok id
  | some v => .error (.notATable index v.kind)
  | none => .error (.invalidIndex index)

/-- The slots cut down to a size, when there are more. -/
def truncate (s : Stack) (size : Nat) : Stack := { s with slots := s.slots.take size }

/-- The values on top that a callback hands back as its results. -/
def results (s : Stack) (count : Nat) : Option (List Value) :=
  if s.size < count then none else some (s.slots.drop (s.size - count))

/-- The stack with a callback noted under its name, in the place of the first of that name. -/
def note (s : Stack) (name : String) (minArgs : Nat) : Stack :=
  let known := s.callbacks.any fun entry => entry.1 = name
  let callbacks :=
    if known then s.callbacks.map fun entry => if entry.1 = name then (name, minArgs) else entry
    else s.callbacks ++ [(name, minArgs)]
  { s with callbacks := callbacks }

end Stack

/-- The argument with the value at an index, and whether the type of the value fits. A strict stack
reports a value that does not fit. -/
def Arg.fill (a : Arg) (s : Stack) (index : Int) : Except StackError (Bool × Arg) :=
  match (s.peek index).bind a.accept? with
  | some filled => .ok (true, filled)
  | none =>
    if s.config.coercion = .strict then .error (.typeMismatch index a.type (s.kind index))
    else .ok (false, a)

end ScriptBridge
