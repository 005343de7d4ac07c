import ScriptBridge.Script.Arithmetic
import ScriptBridge.Script.Frame
import ScriptBridge.Script.Scope

/-!
# Origins of values

Messages tell where a value came from: which variable or field it was, or which operation called a
function. What they tell is read off the code: a register is a local variable that is in scope, or
got its value from the last instruction before that sets it.
-/

namespace ScriptBridge.Script

/-- What a value was, and its name. -/
structure Origin where
  role : String
  name : Bytes

/-- The origin in a message. -/
def Origin.text (o : Origin) : Bytes :=
  Bytes.ofString (" (" ++ o.role ++ " '") ++ o.name.untilZero ++ Bytes.ofString "')"

namespace Prototype

/-- The local variable in a register at an instruction. -/
def localName? (p : Prototype) (r : Register) (position : Nat) : Option Name :=
  let begun := p.locals.toList.takeWhile fun v => v.first ≤ position
  ((begun.filter fun v => position < v.last)[r]?).map LocalRange.name

/-- A target of jumps and the last instruction that sets a register, as they are after one more
instruction. What jumps may pass by is not known to have been carried out. -/
def trackSetter (code : Array Instruction) (r : Register) (last : Nat)
    (state : Nat × Option Nat) (position : Nat) : Nat × Option Nat :=
  let (target, setter) := state
  match code[position]? with
  | some (.jump dest) => (if dest ≤ last && target < dest then dest else target, setter)
  | some i => (target, if i.writes r then (if position < target then none else some position)
      else setter)
  | none => state

/-- The last instruction before another one that sets a register. Before the fallback of an operator
the operator itself does not count. -/
def setter? (p : Prototype) (r : Register) (position : Nat) : Option Nat :=
  let last := match p.code[position]? with
    | some i => if i.isFallback then position - 1 else position
    | none => position
  ((List.range last).foldl (trackSetter p.code r last) (0, none)).2

/-- The name of a variable of a function around. -/
def captureName (p : Prototype) (up : Nat) : Name :=
  ((p.captures[up]?).map Capture.name).getD (Bytes.ofString "?")

/-- The text of a constant. -/
def constantName? (p : Prototype) (k : Nat) : Option Name :=
  match p.constant k with
  | .string bytes => some bytes
  | _ => none

/-- The variable or constant that a register holds at an instruction, and the instruction that its
value came from. -/
def variableOrigin (p : Prototype) : Nat → Register → Nat → Option Origin × Option Nat
  | 0, _, _ => (none, none)
  | depth + 1, r, position =>
    match p.localName? r position with
    | some x => (some ⟨"local", x⟩, some position)
    | none =>
      match p.setter? r position with
      | none => (none, none)
      | some setter =>
        match p.code[setter]? with
        | some (.move dest source) =>
          if source < dest then p.variableOrigin depth source setter else (none, some setter)
        | some (.readUpvalue _ up) => (some ⟨"upvalue", p.captureName up⟩, some setter)
        | some (.loadConstant _ k) =>
          ((p.constantName? k).map fun x => ⟨"constant", x⟩, some setter)
        | _ => (none, some setter)

/-- The variable or constant that a register holds at an instruction. -/
def variableOrigin? (p : Prototype) (r : Register) (position : Nat) : Option Origin :=
  (p.variableOrigin (r + 1) r position).1

/-- What a field of a variable is: a global, when the variable holds the table of the globals. -/
def fieldRole (x : Name) : String := if x = environment then "global" else "field"

/-- What a field of the value of a register is. -/
def fieldRoleOf (p : Prototype) (table : Register) (position : Nat) : String :=
  match p.variableOrigin? table position with
  | some o => if o.role = "constant" then "field" else fieldRole o.name
  | none => "field"

/-- The name of a key in a register. -/
def keyName (p : Prototype) (key : Register) (position : Nat) : Name :=
  match p.variableOrigin? key position with
  | some o => if o.role = "constant" then o.name else Bytes.ofString "?"
  | none => Bytes.ofString "?"

/-- The name of a key among the constants. -/
def fieldName (p : Prototype) (k : Nat) : Name := (p.constantName? k).getD (Bytes.ofString "?")

/-- Where the value of a register at an instruction came from. -/
def origin? (p : Prototype) (r : Register) (position : Nat) : Option Origin :=
  match p.variableOrigin (r + 1) r position with
  | (some o, _) => some o
  | (none, none) => none
  | (none, some setter) =>
    match p.code[setter]? with
    | some (.indexUpvalue _ up key) => some ⟨fieldRole (p.captureName up), p.fieldName key⟩
    | some (.index _ table key) => some ⟨p.fieldRoleOf table setter, p.keyName key setter⟩
    | some (.indexInteger ..) => some ⟨"field", Bytes.ofString "integer index"⟩
    | some (.indexField _ table key) => some ⟨p.fieldRoleOf table setter, p.fieldName key⟩
    | some (.method _ _ (.constant k)) => some ⟨"method", p.fieldName k⟩
    | some (.method _ _ (.register r)) => some ⟨"method", p.keyName r setter⟩
    | _ => none

/-- The origin of a metamethod. -/
def metamethodOrigin (event : String) : Origin :=
  ⟨"metamethod", Bytes.ofString (event.drop 2).toString⟩

/-- Where the function that an instruction calls came from. -/
def calleeOrigin? (p : Prototype) (position : Nat) : Option Origin :=
  match p.code[position]? with
  | some i =>
    match i with
    | .call first _ _ | .tailCall first _ => p.origin? first position
    | .iterate .. => some ⟨"for iterator", Bytes.ofString "for iterator"⟩
    | .method .. | .indexUpvalue .. | .index .. | .indexInteger .. | .indexField .. =>
      some (metamethodOrigin "__index")
    | .storeUpvalue .. | .store .. | .storeInteger .. | .storeField .. =>
      some (metamethodOrigin "__newindex")
    | .fallback op _ _ | .fallbackConstant op _ _ _ | .fallbackInteger op _ _ _ =>
      some (metamethodOrigin op.event)
    | .unary .negate _ _ => some (metamethodOrigin "__unm")
    | .unary .complement _ _ => some (metamethodOrigin "__bnot")
    | .unary .length _ _ => some (metamethodOrigin "__len")
    | .concat .. => some (metamethodOrigin "__concat")
    | .equal .. => some (metamethodOrigin "__eq")
    | .order .less .. | .orderInteger .less .. => some (metamethodOrigin "__lt")
    | .order .atMost .. | .orderInteger .atMost .. => some (metamethodOrigin "__le")
    | _ => none
  | none => none

end Prototype

namespace Frame

/-- Where the value of a register came from. -/
def origin? (f : Frame) (r : Register) : Option Origin := f.prototype.origin? r f.position

/-- Where the function came from that is called now. -/
def calleeOrigin? (f : Frame) : Option Origin := f.prototype.calleeOrigin? f.position

end Frame

end ScriptBridge.Script
