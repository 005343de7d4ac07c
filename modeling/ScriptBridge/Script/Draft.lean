import ScriptBridge.Script.Token

/-!
# Drafts of functions

A compiler reads the tokens of a script once, from the first to the last, and writes the code of
its functions as it goes, one instruction after the other. So the place where code is written
decides which line an error in it names: that of the token read last. A `Draft` is a function whose
end has not been read; the drafts around it wait for theirs. This module holds the tokens, the
levels and the plain means of writing code.
-/

namespace ScriptBridge.Script

/-- Why a script cannot be loaded: a fault on a line, or more levels within levels than there may
be. -/
inductive LoadError where
  | fault (line : Nat) (text : Bytes)
  | tooDeep

/-- What may be done with a variable. A folded one is a constant that takes no register. -/
inductive VariableKind where
  | plain
  | constant
  | folded (v : Value)

/-- A variable of a draft: its register, and its place among the ranges of local variables. -/
structure Variable where
  name : Name
  kind : VariableKind
  register : Register
  range : Nat

instance : Inhabited Variable := ⟨⟨[], .plain, 0, 0⟩⟩

/-- A place that jumps can name, and how many variables are in scope there. -/
structure Label where
  name : Name
  line : Nat
  position : Nat
  active : Nat

/-- Jumps to a label that has not been met, and whether they leave the scope of a captured
variable. -/
structure PendingJump where
  name : Name
  line : Nat
  positions : List Nat
  active : Nat
  isClosing : Bool

/-- A block that has not ended: how many variables, labels and jumps there were before it, and
whether one of its variables is captured. -/
structure Block where
  active : Nat
  firstLabel : Nat
  firstJump : Nat
  isLoop : Bool
  isCaptured : Bool
  isIterating : Bool

/-- A function whose end has not been read. Of its variables the first `active` ones are in scope;
the others are declared, but their scope has not begun. `target` is the last place that a jump may
lead to, so that the code before it cannot be changed any more. -/
structure Draft where
  line : Nat
  paramCount : Nat
  isVariadic : Bool
  code : Array Instruction
  lines : Array Nat
  constants : Array Value
  children : Array Prototype
  captures : Array Capture
  ranges : Array LocalRange
  declared : Array Variable
  active : Nat
  free : Register
  room : Nat
  target : Nat
  blocks : List Block
  labels : Array Label
  jumps : Array PendingJump
deriving Inhabited

/-- The draft of a function that begins on a line. -/
def Draft.ofLine (line : Nat) : Draft :=
  ⟨line, 0, false, #[], #[], #[], #[], #[], #[], #[], 0, 0, 2, 0, [], #[], #[]⟩

/-- The code of a draft that is finished. -/
def Draft.prototype (d : Draft) : Prototype :=
  ⟨d.paramCount, d.isVariadic, d.room, d.code, d.lines, d.constants, d.children, d.captures,
    d.ranges⟩

/-- Where a compiler stands: the tokens from the current one on, whether it has looked at the token
after that, the line that it had reached when it left the token before, how many levels within
levels it is in, and the draft at hand with those around it, innermost first. -/
structure CompilerState where
  tokens : List Token
  isPeeking : Bool
  lastLine : Nat
  level : Nat
  draft : Draft
  outer : List Draft

/-- A step of a compiler. -/
abbrev Compiler : Type → Type := EStateM LoadError CompilerState

namespace Compiler

/-! ## Tokens -/

/-- The token at hand. -/
def current : Compiler Token :=
  return (← get).tokens.headD ⟨.finish, 1, Token.endShown⟩

/-- The line that has been reached. -/
def line : Compiler Nat := do
  let s ← get
  let seen := if s.isPeeking then s.tokens.drop 1 else s.tokens
  return (seen.head?.map Token.line).getD s.lastLine

/-- The symbol at hand, empty when the token is none. -/
def symbol : Compiler String := do
  match (← current).kind with
  | .symbol s => return s
  | _ => return ""

/-- Fails on the line that has been reached. -/
def failPlain {α : Type} (text : Bytes) : Compiler α := do
  throw (.fault (← line) text)

/-- Fails at the token at hand. -/
def fail {α : Type} (text : String) : Compiler α := do
  failPlain (Token.reasonNear text (← current).shown)

/-- Stops when a token is none. -/
def refuseBad (token : Token) : Compiler Unit :=
  match token.kind with
  | .failed reason => throw (.fault token.line reason)
  | _ => pure ()

/-- Goes to the next token. -/
def advance : Compiler Unit := do
  let reached ← line
  modify fun s => { s with tokens := s.tokens.drop 1, isPeeking := false, lastLine := reached }
  refuseBad (← current)

/-- The token after the one at hand. -/
def following : Compiler Token := do
  modify fun s => { s with isPeeking := true }
  match (← get).tokens.drop 1 with
  | t :: _ =>
    refuseBad t
    return t
  | [] => current

/-- Takes a symbol when it is at hand. -/
def accept (s : String) : Compiler Bool := do
  if (← symbol) = s then
    advance
    return true
  else return false

/-- Takes a symbol that has to be at hand. -/
def expect (s : String) : Compiler Unit := do
  if (← symbol) = s then advance else fail ("'" ++ s ++ "' expected")

/-- Takes the symbol that closes what was opened on a line. -/
def expectClosing (closing opening : String) (opened : Nat) : Compiler Unit := do
  if (← symbol) = closing then advance
  else if (← line) = opened then fail ("'" ++ closing ++ "' expected")
  else
    fail ("'" ++ closing ++ "' expected (to close '" ++ opening ++ "' at line " ++ toString opened
      ++ ")")

/-- Takes a name that has to be at hand. -/
def expectName : Compiler Name := do
  match (← current).kind with
  | .name x =>
    advance
    return x
  | _ => fail "<name> expected"

/-- The token at hand ends a block; `until` does so where it is asked for. -/
def atBlockEnd (orUntil : Bool) : Compiler Bool := do
  match (← current).kind with
  | .finish => return true
  | .symbol s => return s = "else" || s = "elseif" || s = "end" || (orUntil && s = "until")
  | _ => return false

/-! ## Levels and limits -/

/-- Goes one level further into the script. -/
def enterLevel : Compiler Unit := do
  modify fun s => { s with level := s.level + 1 }
  if nestingLimit ≤ (← get).level then throw .tooDeep else pure ()

/-- Leaves a level. -/
def leaveLevel : Compiler Unit := modify fun s => { s with level := s.level - 1 }

/-- The draft at hand. -/
def draft : Compiler Draft := return (← get).draft

/-- Changes the draft at hand. -/
def modifyDraft (f : Draft → Draft) : Compiler Unit :=
  modify fun s => { s with draft := f s.draft }

/-- Changes the draft at hand, with a result. -/
def changeDraft {α : Type} (f : Draft → α × Draft) : Compiler α :=
  modifyGet fun s =>
    let (a, d) := f s.draft
    (a, { s with draft := d })

/-- Fails because a function has more of something than it may have. -/
def failLimit {α : Type} (what : String) (limit : Nat) : Compiler α := do
  let line := (← draft).line
  let place := if line = 0 then "main function" else "function at line " ++ toString line
  fail ("too many " ++ what ++ " (limit is " ++ toString limit ++ ") in " ++ place)

/-! ## Code -/

/-- Where the next instruction will be. -/
def here : Compiler Nat := return (← draft).code.size

/-- Writes an instruction and gives its position. -/
def emit (i : Instruction) : Compiler Nat :=
  modifyGet fun s =>
    let d := s.draft
    (d.code.size,
      { s with draft := { d with code := d.code.push i, lines := d.lines.push s.lastLine } })

/-- The last instruction, as errors in it name another line. -/
def reline (line : Nat) : Compiler Unit :=
  modifyDraft fun d => { d with lines := d.lines.setIfInBounds (d.lines.size - 1) line }

/-- Takes the last instruction back. -/
def retract : Compiler Unit :=
  modifyDraft fun d => { d with code := d.code.pop, lines := d.lines.pop }

/-- Changes an instruction. -/
def amend (position : Nat) (f : Instruction → Instruction) : Compiler Unit :=
  modifyDraft fun d => { d with code := d.code.modify position f }

/-- The last instruction, when no jump leads to the place after it. -/
def previous? : Compiler (Option Instruction) := do
  let d ← draft
  return if d.target < d.code.size then d.code.back? else none

/-- Marks the place of the next instruction as one that jumps lead to, and gives it. -/
def mark : Compiler Nat :=
  changeDraft fun d => (d.code.size, { d with target := d.code.size })

/-! ## Registers and constants -/

/-- The greatest number of registers of a function. -/
def registerLimit : Nat := 255

/-- The greatest number of a constant that fits an instruction beside other operands. -/
def constantLimit : Nat := 255

/-- Makes room for more registers. -/
def checkRoom (count : Nat) : Compiler Unit := do
  let d ← draft
  let needed := d.free + count
  if d.room < needed then
    if registerLimit ≤ needed then fail "function or expression needs too many registers"
    else modifyDraft fun d => { d with room := needed }

/-- Takes the next free registers. -/
def reserve (count : Nat) : Compiler Unit := do
  checkRoom count
  modifyDraft fun d => { d with free := d.free + count }

/-- How many registers the first variables of a draft take. -/
def registersOf (d : Draft) : Nat → Nat
  | 0 => 0
  | n + 1 =>
    match d.declared[n]? with
    | some v =>
      match v.kind with
      | .folded _ => registersOf d n
      | _ => v.register + 1
    | none => registersOf d n

/-- How many registers the variables in scope take. -/
def localRegisters : Compiler Nat := do
  let d ← draft
  return registersOf d d.active

/-- Gives a register back, unless it is that of a variable. -/
def release (r : Register) : Compiler Unit := do
  if (← localRegisters) ≤ r then modifyDraft fun d => { d with free := d.free - 1 }

/-- The number of a constant of the draft, which is added when it is new. -/
def constant (v : Value) : Compiler Nat :=
  changeDraft fun d =>
    match d.constants.findIdx? (· = v) with
    | some k => (k, d)
    | none => (d.constants.size, { d with constants := d.constants.push v })

/-! ## Jumps -/

/-- Writes a jump whose target is not known yet. -/
def emitJump : Compiler Nat := emit (.jump 0)

/-- Writes a test with the jump that belongs to it, and gives the jump. -/
def emitTest (test : Instruction) : Compiler Nat := do
  discard (emit test)
  emitJump

/-- The position of the test that a jump belongs to, or of the jump itself. -/
def controlOf (code : Array Instruction) (jump : Nat) : Nat :=
  match jump with
  | 0 => 0
  | before + 1 =>
    match code[before]? with
    | some i => if i.isTest then before else jump
    | none => jump

/-- The code with the test of a jump adapted to a register that is to get the value tested: the test
moves the value there, or only tests it when there is no such register. A test that moves nothing
stays as it is, and does not leave the value. -/
def adaptTest (code : Array Instruction) (jump : Nat) (dest : Option Register) :
    Bool × Array Instruction :=
  let position := controlOf code jump
  match code[position]? with
  | some (.testMove _ operand expected) =>
    let test : Instruction :=
      match dest with
      | some r => if r = operand then .test operand expected else .testMove r operand expected
      | none => .test operand expected
    (true, code.setIfInBounds position test)
  | _ => (false, code)

/-- Directs jumps: those whose tests leave the value in a register to one place, the others to
another. -/
def direct (jumps : List Nat) (dest : Option Register) (valued plain : Nat) : Compiler Unit :=
  modifyDraft fun d =>
    { d with
      code := jumps.foldl
        (fun code jump =>
          let (leaves, code) := adaptTest code jump dest
          code.setIfInBounds jump (.jump (if leaves then valued else plain)))
        d.code }

/-- Directs jumps to a place. -/
def directTo (jumps : List Nat) (target : Nat) : Compiler Unit := direct jumps none target target

/-- Directs jumps to the next instruction. -/
def directHere (jumps : List Nat) : Compiler Unit := do
  let target ← mark
  directTo jumps target

/-- Makes the tests of jumps leave no value. -/
def dropValues (jumps : List Nat) : Compiler Unit :=
  modifyDraft fun d =>
    { d with code := jumps.foldl (fun code jump => (adaptTest code jump none).2) d.code }

/-- Some jump has a test that leaves no value. -/
def needsValue (jumps : List Nat) : Compiler Bool := do
  let code := (← draft).code
  return jumps.any fun jump =>
    match code[controlOf code jump]? with
    | some (.testMove ..) => false
    | _ => true

end Compiler

end ScriptBridge.Script
