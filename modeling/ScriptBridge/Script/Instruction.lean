import ScriptBridge.Value

/-!
# Code of scripts

A function of a script is a list of instructions for a machine with numbered registers. The local
variables live in the lowest registers, and what an expression needs on the way lives above them.
An instruction knows the line that an error in it names. The operators on registers come with a
second instruction, their fallback, which is skipped when the operands are numbers.
-/

namespace ScriptBridge.Script

/-- How many calls, and levels of a script that is being read, can be within each other. -/
def nestingLimit : Nat := 200

/-- How many slots the functions that are running can take together. -/
def slotLimit : Nat := 1000000

/-- A name, by its bytes. -/
abbrev Name : Type := Bytes

/-- The number of a register. -/
abbrev Register : Type := Nat

/-- Arithmetic and bitwise operators, which share their metamethods' calling convention. -/
inductive ArithmeticOp where
  | add | sub | mul | div | mod | pow | floorDiv
  | and | or | xor | shiftLeft | shiftRight
deriving DecidableEq, Repr

/-- The operators of one operand that may have a metamethod. -/
inductive UnaryOp where
  | negate | length | complement
deriving DecidableEq, Repr

/-- The two orders of values; the other two exchange their operands. -/
inductive OrderOp where
  | less | atMost
deriving DecidableEq, Repr

/-- Where an instruction finds a value: in a register or among the constants. -/
inductive Source where
  | register (r : Register)
  | constant (k : Nat)
deriving DecidableEq, Repr

/-- An instruction. A count of `none` means all the values that the instruction before it left open.
Tests go on with the instruction after the next one when they do not come out as expected. -/
inductive Instruction where
  | move (dest source : Register)
  | loadInteger (dest : Register) (i : Int64)
  | loadNumber (dest : Register) (d : Double)
  | loadConstant (dest : Register) (k : Nat)
  | loadBoolean (dest : Register) (b : Bool)
  | loadFalseSkip (dest : Register)
  | loadNil (first : Register) (more : Nat)
  | readUpvalue (dest : Register) (up : Nat)
  | writeUpvalue (source : Register) (up : Nat)
  | indexUpvalue (dest : Register) (up key : Nat)
  | index (dest table key : Register)
  | indexInteger (dest table : Register) (i : Nat)
  | indexField (dest table : Register) (key : Nat)
  | storeUpvalue (up key : Nat) (value : Source)
  | store (table key : Register) (value : Source)
  | storeInteger (table : Register) (i : Nat) (value : Source)
  | storeField (table : Register) (key : Nat) (value : Source)
  | newTable (dest : Register) (items fields : Nat)
  | method (dest object : Register) (key : Source)
  | arithmetic (op : ArithmeticOp) (dest left right : Register)
  | arithmeticConstant (op : ArithmeticOp) (dest left : Register) (right : Nat)
  | arithmeticInteger (op : ArithmeticOp) (dest operand : Register) (i : Int64) (isFlipped : Bool)
  | fallback (op : ArithmeticOp) (left right : Register)
  | fallbackConstant (op : ArithmeticOp) (left : Register) (right : Nat) (isFlipped : Bool)
  | fallbackInteger (op : ArithmeticOp) (operand : Register) (i : Int64) (isFlipped : Bool)
  | unary (op : UnaryOp) (dest operand : Register)
  | not (dest operand : Register)
  | concat (first : Register) (count : Nat)
  | close (first : Register)
  | jump (target : Nat)
  | equal (left right : Register) (expected : Bool)
  | equalConstant (left : Register) (k : Nat) (expected : Bool)
  | equalInteger (left : Register) (i : Int64) (expected : Bool)
  | order (op : OrderOp) (left right : Register) (expected : Bool)
  | orderInteger (op : OrderOp) (operand : Register) (i : Int64) (isDouble isFlipped : Bool)
      (expected : Bool)
  | test (operand : Register) (expected : Bool)
  | testMove (dest operand : Register) (expected : Bool)
  | call (first : Register) (args results : Option Nat)
  | tailCall (first : Register) (args : Option Nat)
  | leave (first : Register) (count : Option Nat)
  | prepareCount (first : Register) (after : Nat)
  | repeatCount (first : Register) (body : Nat)
  | prepareIterate (target : Nat)
  | iterate (first : Register) (count : Nat)
  | repeatIterate (first : Register) (body : Nat)
  | storeItems (table : Register) (count : Option Nat) (stored : Nat)
  | closure (dest : Register) (child : Nat)
  | extraArguments (dest : Register) (count : Option Nat)
  | moveArguments (params : Nat)
deriving Inhabited

namespace Instruction

/-- A test, which the jump after it belongs to. -/
def isTest : Instruction → Bool
  | equal .. | equalConstant .. | equalInteger .. | order .. | orderInteger .. | test .. => true
  | testMove .. => true
  | _ => false

/-- The fallback of an operator, before which the operator was not carried out. -/
def isFallback : Instruction → Bool
  | fallback .. | fallbackConstant .. | fallbackInteger .. => true
  | _ => false

/-- The instruction gives a register a value. -/
def writes (r : Register) : Instruction → Bool
  | loadNil first more => first ≤ r && r ≤ first + more
  | iterate first _ => first + 2 ≤ r
  | call first _ _ | tailCall first _ => first ≤ r
  | move dest _ | loadInteger dest _ | loadNumber dest _ | loadConstant dest _ | loadBoolean dest _
  | loadFalseSkip dest | readUpvalue dest _ | indexUpvalue dest _ _ | index dest _ _
  | indexInteger dest _ _ | indexField dest _ _ | newTable dest _ _ | method dest _ _
  | arithmetic _ dest _ _ | arithmeticConstant _ dest _ _ | arithmeticInteger _ dest _ _ _
  | unary _ dest _ | not dest _ | concat dest _ | testMove dest _ _ | prepareCount dest _
  | repeatCount dest _ | repeatIterate dest _ | closure dest _ | extraArguments dest _
  | moveArguments dest => r = dest
  | _ => false

end Instruction

/-- Where a function finds a variable of a function around it when it is made: in a register of the
function that makes it, or among the variables that this one has found. -/
structure Capture where
  name : Name
  isRegister : Bool
  position : Nat
  isConstant : Bool
deriving Repr

/-- A local variable, with the instructions among which it is in scope. -/
structure LocalRange where
  name : Name
  first : Nat
  last : Nat
deriving Repr

/-- The code of a function, with what messages need to know about it. -/
structure Prototype where
  paramCount : Nat
  isVariadic : Bool
  room : Nat
  code : Array Instruction
  lines : Array Nat
  constants : Array Value
  children : Array Prototype
  captures : Array Capture
  locals : Array LocalRange
deriving Inhabited

namespace Prototype

/-- The line of an instruction. -/
def line (p : Prototype) (at_ : Nat) : Nat := p.lines.getD at_ 0

/-- A constant. -/
def constant (p : Prototype) (k : Nat) : Value := p.constants.getD k .nil

end Prototype

/-- A function of a script: its code, the cells of the variables that it found, and the name of its
chunk as messages show it. -/
structure Closure where
  prototype : Prototype
  captured : Array ObjectId
  chunk : Bytes
deriving Inhabited

/-- The functions of the standard libraries. -/
inductive Builtin where
  | assert | error | getMetatable | ipairs | ipairsStep | next | pairs | pcall | print
  | rawEqual | rawGet | rawLen | rawSet | select | setMetatable | toNumber | toString | type
  | createThread | mathFloor | mathType | mathToInteger | stringLength | stringUpper
  | stringLower | stringRepeat | stringSub
  | arithmetic (op : ArithmeticOp) | negateText | fileText
  | absent (name : String)
deriving DecidableEq, Repr

end ScriptBridge.Script
