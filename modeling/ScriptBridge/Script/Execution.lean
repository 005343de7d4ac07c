import ScriptBridge.Script.Count

/-!
# Carrying out code

`step` carries out one instruction of a frame, and `execute` goes from step to step. Functions of
scripts that call each other are frames of one execution, one upon the other, so their number is
limited by the slots alone. What leaves the scripts, a call of a function of the host or a
metamethod, goes through an `Engine`, which is a parameter here; so an execution within an execution
is no recursion of these definitions. The steps are counted down from more than there can be.
-/

namespace ScriptBridge.Script

/-- An execution: how functions that are none of scripts are called from its frames, how functions
are called one call deeper, and what its first frame was called within. -/
structure Execution (β σ : Type) where
  native : Engine β σ
  engine : Engine β σ
  around : Surroundings

/-- How an execution goes on after a step: in the frame, in that of a function that it calls, in
that of a function that takes its place, or in the frame below. -/
inductive Progress where
  | next (f : Frame)
  | enter (callee caller : Frame)
  | replace (callee : Frame)
  | finish (values : List Value)

/-- The register that an operator gives its value. -/
def Instruction.target : Instruction → Register
  | .arithmetic _ dest _ _ | .arithmeticConstant _ dest _ _ => dest
  | .arithmeticInteger _ dest _ _ _ => dest
  | _ => 0

variable {β σ : Type}

namespace Frame

/-- The frame with a register set, as progress. -/
def put (f : Frame) (r : Register) (v : Value) : ScriptM β σ Progress :=
  return .next (← f.write r v)

/-- The register that the operator before a fallback gives its value. -/
def target (f : Frame) : Register :=
  match f.prototype.code[f.position - 1]? with
  | some i => i.target
  | none => 0

/-- The frame with the state of a loop over numbers in its registers, and with the variable of the
loop. -/
def putCount (f : Frame) (first : Register) (c : Count) : ScriptM β σ Frame :=
  f.writeMany first [c.index, c.limit, c.step, c.index]

/-- The frame after a call in it has given values. -/
def accept (f : Frame) (values : List Value) : ScriptM β σ Frame :=
  match f.prototype.code[f.position]? with
  | some (.call first _ results) => f.receive first results values
  | _ => return f

end Frame

namespace Execution

/-- What a frame calls functions within, when they are put into a slot. -/
def surroundings (x : Execution β σ) (callers : List Frame) (f : Frame) (slot : Nat) :
    Surroundings :=
  { x.around with slot := slot, trail := .script (f :: callers) x.around.trail }

/-- The site of a frame. -/
def site (x : Execution β σ) (callers : List Frame) (f : Frame) : Site β σ :=
  ⟨x.engine, x.surroundings callers f f.ending⟩

/-- Reads a field into a register. -/
def index (x : Execution β σ) (callers : List Frame) (f : Frame) (dest : Register) (place : Place)
    (v key : Value) : ScriptM β σ Progress := do
  match ← present? v key with
  | some found => f.put dest found
  | none => do
    let found ← (x.site callers f).indexBeyond chainLimit place v key
    f.put dest found

/-- Stores a value in a field. -/
def store (x : Execution β σ) (callers : List Frame) (f : Frame) (place : Place)
    (v key : Value) (value : Source) : ScriptM β σ Progress := do
  let value ← f.readSource value
  (x.site callers f).store place v key value
  return .next f

/-- Carries out an operator. Its fallback is passed over, unless the operands need it. -/
def operator (x : Execution β σ) (callers : List Frame) (f : Frame) (op : ArithmeticOp)
    (dest : Register) (a b : Value) : ScriptM β σ Progress :=
  match op.plain? a b with
  | some (.ok v) => (f.goTo (f.next + 1)).put dest v
  | some (.error reason) => (x.site callers f).around.failText reason
  | none => return .next f

/-- Carries out the fallback of an operator. -/
def fallback (x : Execution β σ) (callers : List Frame) (f : Frame) (op : ArithmeticOp)
    (a b : Value) (placeA placeB : Place) (isFlipped : Bool) : ScriptM β σ Progress := do
  let site := x.site callers f
  let v ←
    if isFlipped then site.arithmeticBeyond op b a placeB placeA
    else site.arithmeticBeyond op a b placeA placeB
  f.put f.target v

/-- Joins a value to those of so many registers before it, the last one first. -/
def join (x : Execution β σ) (callers : List Frame) (f : Frame) (first : Register) :
    Nat → Value → ScriptM β σ Value
  | 0, v => return v
  | n + 1, v => do
    let before ← f.read (first + n)
    let site : Site β σ := ⟨x.engine, x.surroundings callers f (f.base + first + n + 2)⟩
    let joined ← site.concat before v (.register (first + n)) (.register (first + n + 1))
    x.join callers f first n joined

/-- Goes on after a test of equality. -/
def testEqual (x : Execution β σ) (callers : List Frame) (f : Frame) (a b : Value)
    (expected : Bool) : ScriptM β σ Progress := do
  if Site.rawEqual a b then return .next (f.branch true expected)
  else if Site.mayBeEqual a b then
    let outcome ← (x.site callers f).equalBeyond a b
    return .next (f.branch outcome expected)
  else return .next (f.branch false expected)

/-- Goes on after a test of order. -/
def testOrder (x : Execution β σ) (callers : List Frame) (f : Frame) (op : OrderOp) (a b : Value)
    (expected : Bool) : ScriptM β σ Progress := do
  match Site.plainOrder? op a b with
  | some outcome => return .next (f.branch outcome expected)
  | none => do
    let outcome ← (x.site callers f).orderBeyond op a b
    return .next (f.branch outcome expected)

/-- Calls the value of a register. -/
def call (x : Execution β σ) (callers : List Frame) (f : Frame) (first : Register)
    (args results : Option Nat) : ScriptM β σ Progress := do
  let v ← f.read first
  let args ← f.take (first + 1) args
  let s := x.surroundings callers f (f.base + first)
  let (id, args) ← s.callee v args
  match (← ScriptM.heap).functions[id]? with
  | some (.closure c) => do
    s.checkSlots args.length c.prototype.room
    return .enter (.ofCall c args (s.slot + 1)) f
  | _ => do
    let values ← x.native s id args
    return .next (← f.receive first results values)

/-- Calls the value of a register in the place of the function. -/
def tailCall (x : Execution β σ) (callers : List Frame) (f : Frame) (first : Register)
    (args : Option Nat) : ScriptM β σ Progress := do
  let v ← f.read first
  let args ← f.take (first + 1) args
  let s := x.surroundings callers f (f.base + first)
  let (id, args) ← s.callee v args
  match (← ScriptM.heap).functions[id]? with
  | some (.closure c) => do
    let s := { s with slot := f.start + first }
    s.checkSlots args.length c.prototype.room
    return .replace (.ofCall c args f.start)
  | _ => return .finish (← x.native s id args)

/-- Carries out an instruction. -/
def step (x : Execution β σ) (callers : List Frame) (f : Frame) :
    Instruction → ScriptM β σ Progress
  | .move dest source => do f.put dest (← f.read source)
  | .loadInteger dest i => f.put dest (.integer i)
  | .loadNumber dest d => f.put dest (.number d)
  | .loadConstant dest k => f.put dest (f.prototype.constant k)
  | .loadBoolean dest b => f.put dest (.boolean b)
  | .loadFalseSkip dest => (f.goTo (f.next + 1)).put dest (.boolean false)
  | .loadNil first more => do return .next (← f.writeExactly first (more + 1) [])
  | .readUpvalue dest up => do f.put dest (← f.readUpvalue up)
  | .writeUpvalue source up => do
    let v ← f.read source
    ScriptM.modifyHeap fun h => h.setCell (f.closure.captured.getD up 0) v
    return .next f
  | .indexUpvalue dest up key => do
    x.index callers f dest (.upvalue up) (← f.readUpvalue up) (f.prototype.constant key)
  | .index dest table key => do
    x.index callers f dest (.register table) (← f.read table) (← f.read key)
  | .indexInteger dest table i => do
    x.index callers f dest (.register table) (← f.read table) (.integer (Int64.ofNat i))
  | .indexField dest table key => do
    x.index callers f dest (.register table) (← f.read table) (f.prototype.constant key)
  | .storeUpvalue up key value => do
    x.store callers f (.upvalue up) (← f.readUpvalue up) (f.prototype.constant key) value
  | .store table key value => do
    x.store callers f (.register table) (← f.read table) (← f.read key) value
  | .storeInteger table i value => do
    x.store callers f (.register table) (← f.read table) (.integer (Int64.ofNat i)) value
  | .storeField table key value => do
    x.store callers f (.register table) (← f.read table) (f.prototype.constant key) value
  | .newTable dest items fields => do
    let id ← ScriptM.allocate fun h => h.allocTable (.withRoom items fields)
    f.put dest (.table id)
  | .method dest object key => do
    let o ← f.read object
    let key ← f.readSource key
    let f ← f.write (dest + 1) o
    x.index callers f dest (.register object) o key
  | .arithmetic op dest left right => do
    x.operator callers f op dest (← f.read left) (← f.read right)
  | .arithmeticConstant op dest left right => do
    x.operator callers f op dest (← f.read left) (f.prototype.constant right)
  | .arithmeticInteger op dest operand i isFlipped => do
    let v ← f.read operand
    if isFlipped && op = .shiftLeft then x.operator callers f op dest (.integer i) v
    else x.operator callers f op dest v (.integer i)
  | .fallback op left right => do
    x.fallback callers f op (← f.read left) (← f.read right) (.register left) (.register right)
      false
  | .fallbackConstant op left right isFlipped => do
    x.fallback callers f op (← f.read left) (f.prototype.constant right) (.register left) .nowhere
      isFlipped
  | .fallbackInteger op operand i isFlipped => do
    x.fallback callers f op (← f.read operand) (.integer i) (.register operand) .nowhere isFlipped
  | .unary op dest operand => do
    let v ← f.read operand
    let site := x.site callers f
    let v ← match op with
      | .negate => site.negate v (.register operand)
      | .length => site.lengthOf v (.register operand)
      | .complement => site.complement v (.register operand)
    f.put dest v
  | .not dest operand => do f.put dest (.boolean !(← f.read operand).isTrue)
  | .concat first count => do
    let last ← f.read (first + (count - 1))
    f.put first (← x.join callers f first (count - 1) last)
  | .close first => do return .next (← f.unshare first)
  | .jump target => return .next (f.goTo target)
  | .equal left right expected => do
    x.testEqual callers f (← f.read left) (← f.read right) expected
  | .equalConstant left k expected => do
    return .next (f.branch (Site.rawEqual (← f.read left) (f.prototype.constant k)) expected)
  | .equalInteger left i expected => do
    return .next (f.branch (Site.rawEqual (← f.read left) (.integer i)) expected)
  | .order op left right expected => do
    x.testOrder callers f op (← f.read left) (← f.read right) expected
  | .orderInteger op operand i isDouble isFlipped expected => do
    let v ← f.read operand
    let number := if isDouble then .number (.ofInt i.toInt) else .integer i
    if isFlipped then x.testOrder callers f op number v expected
    else x.testOrder callers f op v number expected
  | .test operand expected => do
    return .next (f.branch (← f.read operand).isTrue expected)
  | .testMove dest operand expected => do
    let v ← f.read operand
    if v.isTrue = expected then f.put dest v else return .next (f.goTo (f.next + 1))
  | .call first args results => x.call callers f first args results
  | .tailCall first args => x.tailCall callers f first args
  | .leave first count => do return .finish (← f.take first count)
  | .prepareCount first after => do
    let s := x.surroundings callers f f.ending
    let start ← f.read first
    match ← Count.ofParts s start (← f.read (first + 1)) (← f.read (first + 2)) with
    | some c => return .next (← f.putCount first c)
    | none => return .next (f.goTo after)
  | .repeatCount first body => do
    let c : Count := ⟨← f.read first, ← f.read (first + 1), ← f.read (first + 2)⟩
    match c.next? with
    | some c => return .next ((← f.putCount first c).goTo body)
    | none => return .next f
  | .prepareIterate target => return .next (f.goTo target)
  | .iterate first count => do
    let site : Site β σ := ⟨x.engine, x.surroundings callers f (f.base + first + 4)⟩
    let iterator ← f.read first
    let values ← site.callValue iterator [← f.read (first + 1), ← f.read (first + 2)]
    return .next (← f.writeExactly (first + 4) count values)
  | .repeatIterate first body => do
    match ← f.read (first + 4) with
    | .nil => return .next f
    | v => return .next ((← f.write (first + 2) v).goTo body)
  | .storeItems table count stored => do
    let values ← f.take (table + 1) count
    match ← f.read table with
    | .table id =>
      ScriptM.modifyHeap fun h => h.modifyTable id (·.setItems (stored + 1) values)
      return .next f
    | _ => return .next f
  | .closure dest child => do
    let p := f.prototype.children.getD child default
    let (cells, f) ← f.capture p.captures.toList
    let closure : Closure := ⟨p, cells.toArray, f.closure.chunk⟩
    let id ← ScriptM.allocate fun h => h.allocFunction (.closure closure)
    f.put dest (.function id)
  | .extraArguments dest count => do
    if count.isNone && slotLimit < f.ending + f.extra.length then
      (x.site callers f).around.failText "stack overflow"
    else return .next (← f.receive dest count f.extra)
  | .moveArguments _ =>
    if slotLimit < f.ending then (x.site callers f).around.failText "stack overflow"
    else return .next f

/-- Carries out the code of a frame upon others until the last of them is finished, in at most so
many steps, and gives its values. -/
def execute (x : Execution β σ) : Nat → Frame → List Frame → ScriptM β σ (List Value)
  | 0, _, _ => throw .exhausted
  | n + 1, f, callers => do
    let i := f.prototype.code.getD f.next (.leave 0 (some 0))
    match ← x.step callers { f with next := f.next + 1 } i with
    | .next f => x.execute n f callers
    | .enter callee caller => x.execute n callee (caller :: callers)
    | .replace callee => x.execute n callee callers
    | .finish values =>
      match callers with
      | [] => return values
      | caller :: callers => do x.execute n (← caller.accept values) callers

/-- More steps than an execution can take. -/
def stepLimit : Nat := pow2 60

/-- Calls a function of a script: the execution that begins with its frame. -/
def run (native engine : Engine β σ) (s : Surroundings) (c : Closure) (args : List Value) :
    ScriptM β σ (List Value) := do
  s.checkSlots args.length c.prototype.room
  let x : Execution β σ := ⟨native, engine, s⟩
  x.execute stepLimit (.ofCall c args (s.slot + 1)) []

end Execution

end ScriptBridge.Script
