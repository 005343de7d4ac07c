import ScriptBridge.Script.Origin

/-!
# Sites

Whatever a function does, it does at a site: within so many calls, above so many slots, and with the
functions that are running around it. A site says how functions are called from it and how messages
begin that an error there has. Calls within calls are limited, and so are the slots; what exceeds a
limit is an error like others.
-/

namespace ScriptBridge.Script

/-- What a call is made within: how many calls are within each other, the first slot that is free,
the functions that are running, and whether an error that is thrown here goes to the host. -/
structure Surroundings where
  level : Nat
  slot : Nat
  trail : Trail
  isReported : Bool

/-- What the call of a function does, given what it is made within. -/
abbrev Engine (β σ : Type) : Type :=
  Surroundings → ObjectId → List Value → ScriptM β σ (List Value)

/-- Where the function that is running has an operand. -/
inductive Place where
  | register (r : Register)
  | upvalue (up : Nat)
  | nowhere

variable {β σ α : Type}

namespace Surroundings

/-- Where the function stands that is running, as messages begin. -/
def place (s : Surroundings) : Bytes := s.trail.place 0

/-- Fails because there are too many calls within each other. -/
def failDepth (s : Surroundings) : ScriptM β σ α :=
  .throwValue (.string (s.place ++ Bytes.ofString "C stack overflow"))

/-- Fails with a value. Preparing an error for the host is a call too, which has to be possible. -/
def raise (s : Surroundings) (v : Value) : ScriptM β σ α :=
  if s.isReported && s.level + 1 = nestingLimit then s.failDepth else .throwValue v

/-- Fails with a message. -/
def fail (s : Surroundings) (text : Bytes) : ScriptM β σ α := s.raise (.string (s.place ++ text))

/-- Fails with a message given as text. -/
def failText (s : Surroundings) (text : String) : ScriptM β σ α := s.fail (Bytes.ofString text)

/-- Fails with a message of the function that called the one that is running. -/
def failAtCaller (s : Surroundings) (text : Bytes) : ScriptM β σ α :=
  s.raise (.string (s.trail.place 1 ++ text))

/-- Makes sure that there are slots for a function with arguments and room for more values. -/
def checkSlots (s : Surroundings) (argCount room : Nat) : ScriptM β σ Unit :=
  if slotLimit < s.slot + 1 + argCount + room then s.failText "stack overflow" else return ()

/-- There are slots for so many values. -/
def hasRoomFor (s : Surroundings) (count : Nat) : Bool := s.slot + count ≤ slotLimit

/-- The surroundings one call deeper, if there may be one. -/
def deepened (s : Surroundings) : ScriptM β σ Surroundings :=
  if nestingLimit ≤ s.level + 1 then s.failDepth else return { s with level := s.level + 1 }

/-- The function that is running, if it is one of a script. -/
def frame? (s : Surroundings) : Option Frame := s.trail.frameAt? 0

/-- Where the function came from that is called here, as messages tell. -/
def calleeText (s : Surroundings) : Bytes :=
  ((s.frame?.bind Frame.calleeOrigin?).map Origin.text).getD []

/-- Where an operand came from, as messages tell. -/
def operandText (s : Surroundings) (place : Place) : Bytes :=
  match s.frame?, place with
  | some f, .register r => ((f.origin? r).map Origin.text).getD []
  | some f, .upvalue up => (Origin.text ⟨"upvalue", f.prototype.captureName up⟩)
  | _, _ => []

end Surroundings

/-- The name of a value's type in scripts. -/
def typeName : Value → String
  | .failure _ _ => "userdata"
  | v => v.kind.typeName

/-- The name of a value's type in messages: tables and files may name their own. -/
def shownType (v : Value) : ScriptM β σ Bytes := do
  match v with
  | .string _ => return Bytes.ofString (typeName v)
  | _ =>
    match (← ScriptM.heap).metamethod v "__name" with
    | .string bytes => return bytes
    | _ => return Bytes.ofString (typeName v)

namespace Surroundings

/-- Fails because a value has no operation. `origin` tells where the value came from. -/
def failOperation (s : Surroundings) (operation : String) (v : Value) (origin : Bytes) :
    ScriptM β σ α := do
  let type ← shownType v
  s.fail (Bytes.ofString ("attempt to " ++ operation ++ " a ") ++ type.untilZero
    ++ Bytes.ofString " value" ++ origin)

/-- The function that is called when a value is, with its arguments. In the place of a value that is
no function its metatable calls another one, with the value as its first argument; `room` bounds how
often there is a slot for that. -/
def resolve (s : Surroundings) :
    Nat → Value → List Value → ScriptM β σ (ObjectId × List Value)
  | _, .function id, args => return (id, args)
  | 0, _, _ => s.failText "stack overflow"
  | room + 1, v, args => do
    match (← ScriptM.heap).metamethod v "__call" with
    | .nil => s.failOperation "call" v s.calleeText
    | m => s.resolve room m (v :: args)

/-- The function that is called when a value is, with its arguments. -/
def callee (s : Surroundings) (v : Value) (args : List Value) :
    ScriptM β σ (ObjectId × List Value) :=
  s.resolve (slotLimit - (s.slot + 1 + args.length)) v args

end Surroundings

/-- Where something is done, with the engine that makes the calls within it. -/
structure Site (β σ : Type) where
  engine : Engine β σ
  around : Surroundings

namespace Site

/-- The site of a host that runs within nothing. Its functions are put above what prepares errors
for it. -/
def outermost (engine : Engine β σ) : Site β σ := ⟨engine, ⟨0, 2, .outside, false⟩⟩

/-- The site of a function of the host or of the libraries, which takes so many slots above its
own. -/
def ofNative (engine : Engine β σ) (s : Surroundings) (taken : Nat) : Site β σ :=
  ⟨engine, { s with slot := s.slot + 1 + taken, trail := .native s.trail }⟩

/-- Calls a function. -/
def call (site : Site β σ) (id : ObjectId) (args : List Value) : ScriptM β σ (List Value) := do
  site.engine (← site.around.deepened) id args

/-- Calls a value. -/
def callValue (site : Site β σ) (v : Value) (args : List Value) : ScriptM β σ (List Value) := do
  let s ← site.around.deepened
  let (id, args) ← s.callee v args
  site.engine s id args

/-- The first result of a call. -/
def callFirst (site : Site β σ) (v : Value) (args : List Value) : ScriptM β σ Value :=
  return (← site.callValue v args).headD .nil

/-- The site of calls whose errors go to the host. -/
def reporting (site : Site β σ) : Site β σ :=
  { site with around := { site.around with isReported := true } }

/-- The site of an access by the host that a metatable may take part in: a call of its own with so
many arguments, whose errors go to the host. -/
def guarded (site : Site β σ) (argCount : Nat) : ScriptM β σ (Site β σ) := do
  return .ofNative site.engine (← site.reporting.around.deepened) argCount

end Site

end ScriptBridge.Script
