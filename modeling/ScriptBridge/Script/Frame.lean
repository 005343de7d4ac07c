import ScriptBridge.World

/-!
# Frames of running functions

A function of a script that is running has a frame: its registers, and the instruction that comes
next. A register whose variable was captured by a function is shared: its value lives in a cell. The
frames of all functions take their place among the slots of the engine, one above the other, and a
trail tells which functions are running within which.
-/

namespace ScriptBridge.Script

/-- The frame of a function. `start` is the slot of its first argument and `base` that of its first
register, which differ when it takes extra arguments. Values that an instruction left open end
before the register `top`. -/
structure Frame where
  closure : Closure
  next : Nat
  registers : Array Value
  shared : List (Register × ObjectId)
  extra : List Value
  start : Nat
  base : Nat
  top : Register

namespace Frame

/-- The code of the function. -/
def prototype (f : Frame) : Prototype := f.closure.prototype

/-- The position of the instruction that is carried out. -/
def position (f : Frame) : Nat := f.next - 1

/-- Where the function stands, as messages begin. -/
def place (f : Frame) : Bytes :=
  f.closure.chunk ++ Bytes.ofString (":" ++ toString (f.prototype.line f.position) ++ ": ")

/-- The first slot above the frame. -/
def ending (f : Frame) : Nat := f.base + f.prototype.room

/-- The frame of a function that was called with arguments, the first of which is in a slot. The
parameters take the arguments in order, and what is left over is extra. -/
def ofCall (c : Closure) (args : List Value) (start : Nat) : Frame :=
  let p := c.prototype
  let given := args.take p.paramCount
  let registers := given.toArray ++ Array.replicate (p.room - given.length) Value.nil
  if p.isVariadic then
    ⟨c, 0, registers, [], args.drop p.paramCount, start,
      start + max args.length p.paramCount + 1, 0⟩
  else ⟨c, 0, registers, [], [], start, start, 0⟩

/-- The frame at another instruction. -/
def goTo (f : Frame) (position : Nat) : Frame := { f with next := position }

/-- The frame after a test: it passes over the next instruction when the outcome is not the
expected one. -/
def branch (f : Frame) (outcome expected : Bool) : Frame :=
  if outcome = expected then f else { f with next := f.next + 1 }

/-- The registers with one of them set; there may be one more than before, and those between are
nil. -/
def setAt (registers : Array Value) (r : Register) (v : Value) : Array Value :=
  if r < registers.size then registers.setIfInBounds r v
  else (registers ++ Array.replicate (r - registers.size) Value.nil).push v

variable {β σ : Type}

/-- The value of a register. -/
def read (f : Frame) (r : Register) : ScriptM β σ Value :=
  match f.shared with
  | [] => return f.registers.getD r .nil
  | shared =>
    match shared.lookup r with
    | some cell => return (← ScriptM.heap).cell cell
    | none => return f.registers.getD r .nil

/-- The frame with a register set. -/
def write (f : Frame) (r : Register) (v : Value) : ScriptM β σ Frame :=
  match f.shared.lookup r with
  | some cell => do
    ScriptM.modifyHeap fun h => h.setCell cell v
    return f
  | none => return { f with registers := setAt f.registers r v }

/-- The values of so many registers from a first one on. -/
def readMany (f : Frame) (first : Register) : Nat → ScriptM β σ (List Value)
  | 0 => return []
  | n + 1 => do
    let v ← f.read first
    return v :: (← f.readMany (first + 1) n)

/-- The frame with registers from a first one on set to values. -/
def writeMany (f : Frame) (first : Register) : List Value → ScriptM β σ Frame
  | [] => return f
  | v :: rest => do (← f.write first v).writeMany (first + 1) rest

/-- The frame with so many registers from a first one on set to values, and to nil after these. -/
def writeExactly (f : Frame) (first : Register) : Nat → List Value → ScriptM β σ Frame
  | 0, _ => return f
  | n + 1, values => do
    (← f.write first (values.headD .nil)).writeExactly (first + 1) n (values.drop 1)

/-- The frame with values from a register on: so many, or all of them as open values. -/
def receive (f : Frame) (first : Register) (count : Option Nat) (values : List Value) :
    ScriptM β σ Frame := do
  match count with
  | some n => f.writeExactly first n values
  | none => return { ← f.writeMany first values with top := first + values.length }

/-- The values of so many registers from a first one on, or of all up to the end of the open
values. -/
def take (f : Frame) (first : Register) (count : Option Nat) : ScriptM β σ (List Value) :=
  f.readMany first (count.getD (f.top - first))

/-- The cell of a register, and the frame in which it is shared. -/
def share (f : Frame) (r : Register) : ScriptM β σ (ObjectId × Frame) := do
  match f.shared.lookup r with
  | some cell => return (cell, f)
  | none => do
    let v ← f.read r
    let cell ← ScriptM.allocate fun h => h.allocCell v
    return (cell, { f with shared := (r, cell) :: f.shared })

/-- The cells of captures, and the frame in which the registers among them are shared. -/
def capture (f : Frame) : List Capture → ScriptM β σ (List ObjectId × Frame)
  | [] => return ([], f)
  | c :: rest => do
    let (cell, f) ←
      if c.isRegister then f.share c.position
      else pure (f.closure.captured.getD c.position 0, f)
    let (cells, f) ← f.capture rest
    return (cell :: cells, f)

/-- The frame in which the registers from a first one on are not shared any more. They keep their
values. -/
def unshare (f : Frame) (first : Register) : ScriptM β σ Frame := do
  let heap ← ScriptM.heap
  let ended := f.shared.filter fun entry => first ≤ entry.1
  return { f with
    registers := ended.foldl (fun rs entry => setAt rs entry.1 (heap.cell entry.2)) f.registers
    shared := f.shared.filter fun entry => entry.1 < first }

/-- The value of a variable of a function around. -/
def readUpvalue (f : Frame) (up : Nat) : ScriptM β σ Value :=
  return (← ScriptM.heap).cell (f.closure.captured.getD up 0)

/-- The value that a source names. -/
def readSource (f : Frame) : Source → ScriptM β σ Value
  | .register r => f.read r
  | .constant k => return f.prototype.constant k

end Frame

/-- The functions that are running, the innermost first: those of the host and of the libraries one
by one, and those of scripts that called each other together. -/
inductive Trail where
  | outside
  | native (rest : Trail)
  | script (frames : List Frame) (rest : Trail)

namespace Trail

/-- The frame of the function so many calls further out, if it is one of a script. -/
def frameAt? : Trail → Nat → Option Frame
  | outside, _ => none
  | native _, 0 => none
  | native rest, n + 1 => rest.frameAt? n
  | script frames rest, n =>
    match frames.drop n with
    | f :: _ => some f
    | [] => rest.frameAt? (n - frames.length)

/-- Where the function so many calls further out stands, as messages begin. -/
def place (t : Trail) (n : Nat) : Bytes := ((t.frameAt? n).map Frame.place).getD []

end Trail

end ScriptBridge.Script
