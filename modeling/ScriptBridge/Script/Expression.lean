import ScriptBridge.Script.Arithmetic
import ScriptBridge.Script.Draft

/-!
# Expressions while they are read

An expression that has been read need not have become code: a constant can still be folded, a local
variable stays in its register, and the code that reads a field is written only when its value is
needed, or when it is known where it is to go. An `Expression` says how far that has come. So a
local variable in an operand is read when the operation is carried out, not before, and a field is
read on the line of the token after it.
-/

namespace ScriptBridge.Script

/-- How far an expression has come: it is nothing yet, a constant, a value in a register, a variable
or a field that has not been read, a test that jumps when it comes out, or an instruction that can
still be given a register for its value. -/
inductive Form where
  | nothing
  | nil
  | boolean (b : Bool)
  | integer (i : Int64)
  | number (d : Double)
  | string (bytes : Bytes)
  | constant (k : Nat)
  | fixed (r : Register)
  | bound (r : Register) (position : Nat)
  | upvalue (up : Nat)
  | folded (x : Name) (v : Value)
  | indexed (table key : Register)
  | indexedUpvalue (up key : Nat)
  | indexedInteger (table : Register) (i : Nat)
  | indexedField (table : Register) (key : Nat)
  | jump (position : Nat)
  | movable (position : Nat)
  | call (position : Nat)
  | extra (position : Nat)

/-- An expression, with the jumps out of it that are taken when it is true, and when it is false. -/
structure Expression where
  form : Form
  onTrue : List Nat
  onFalse : List Nat

namespace Form

/-- A call or the extra arguments, which can give any number of values. -/
def isOpen : Form → Bool
  | call _ | extra _ => true
  | _ => false

/-- A field, whose table and key are known. -/
def isIndexed : Form → Bool
  | indexed .. | indexedUpvalue .. | indexedInteger .. | indexedField .. => true
  | _ => false

/-- What can be assigned to. -/
def isVariable : Form → Bool
  | bound .. | upvalue _ | folded .. => true
  | f => f.isIndexed

/-- The form of a constant. -/
def ofValue : Value → Form
  | .boolean b => boolean b
  | .integer i => integer i
  | .number d => number d
  | .string bytes => string bytes
  | _ => nil

end Form

namespace Instruction

/-- The instruction with the register for its value. -/
def withTarget (r : Register) : Instruction → Instruction
  | readUpvalue _ up => readUpvalue r up
  | indexUpvalue _ up key => indexUpvalue r up key
  | index _ table key => index r table key
  | indexInteger _ table i => indexInteger r table i
  | indexField _ table key => indexField r table key
  | arithmetic op _ left right => arithmetic op r left right
  | arithmeticConstant op _ left right => arithmeticConstant op r left right
  | arithmeticInteger op _ operand i isFlipped => arithmeticInteger op r operand i isFlipped
  | unary op _ operand => unary op r operand
  | not _ operand => not r operand
  | closure _ child => closure r child
  | extraArguments _ count => extraArguments r count
  | i => i

/-- The instruction with the count of values that it is to give. -/
def withResults (count : Option Nat) : Instruction → Instruction
  | call first args _ => call first args count
  | extraArguments dest _ => extraArguments dest count
  | i => i

/-- The test with the other outcome expected. -/
def negated : Instruction → Instruction
  | equal left right expected => equal left right !expected
  | equalConstant left k expected => equalConstant left k !expected
  | equalInteger left i expected => equalInteger left i !expected
  | order op left right expected => order op left right !expected
  | orderInteger op operand i isDouble isFlipped expected =>
    orderInteger op operand i isDouble isFlipped !expected
  | test operand expected => test operand !expected
  | testMove dest operand expected => testMove dest operand !expected
  | i => i

end Instruction

namespace Expression

/-- An expression without jumps. -/
def of (form : Form) : Expression := ⟨form, [], []⟩

/-- The expression of nothing. -/
def nothing : Expression := of .nothing

/-- There are jumps out of the expression. -/
def hasJumps (e : Expression) : Bool := !e.onTrue.isEmpty || !e.onFalse.isEmpty

/-- The expression in another form. -/
def as (e : Expression) (form : Form) : Expression := { e with form := form }

/-- The register that holds the value. -/
def register (e : Expression) : Register :=
  match e.form with
  | .fixed r => r
  | _ => 0

/-- The number that a numeral is. -/
def numeral? (e : Expression) : Option Value :=
  if e.hasJumps then none
  else
    match e.form with
    | .integer i => some (.integer i)
    | .number d => some (.number d)
    | _ => none

/-- The constant that the expression is. -/
def constant? (e : Expression) : Option Value :=
  if e.hasJumps then none
  else
    match e.form with
    | .nil => some .nil
    | .boolean b => some (.boolean b)
    | .string bytes => some (.string bytes)
    | .folded _ v => some v
    | _ => e.numeral?

/-- An integer that fits an operand of an instruction. -/
def fits (i : Int64) : Bool := -127 ≤ i.toInt && i.toInt ≤ 128

/-- The small integer that a numeral is, and whether it is written as a double. -/
def smallNumber? (e : Expression) : Option (Int64 × Bool) :=
  match e.numeral? with
  | some (.integer i) => if fits i then some (i, false) else none
  | some (.number d) => d.exactInteger?.bind fun i => if fits i then some (i, true) else none
  | _ => none

/-- The small integer that an integer numeral is. -/
def smallInteger? (e : Expression) : Option Int64 :=
  match e.form with
  | .integer i => if !e.hasJumps && fits i then some i else none
  | _ => none

end Expression

namespace Compiler

/-! ## Values into registers -/

/-- Gives back the register of an expression that has one. -/
def free (e : Expression) : Compiler Unit :=
  match e.form with
  | .fixed r => release r
  | _ => return ()

/-- Gives back two registers, the higher one first. -/
def releaseBoth (a b : Register) : Compiler Unit := do
  release (max a b)
  release (min a b)

/-- Gives back the registers of two expressions. -/
def freeBoth (a b : Expression) : Compiler Unit :=
  match a.form, b.form with
  | .fixed r, .fixed s => releaseBoth r s
  | .fixed r, _ => release r
  | _, .fixed s => release s
  | _, _ => return ()

/-- A call or the extra arguments, cut down to one value. -/
def setOneResult (e : Expression) : Compiler Expression := do
  match e.form with
  | .call position =>
    match (← draft).code[position]? with
    | some (.call first _ _) => return e.as (.fixed first)
    | _ => return e
  | .extra position =>
    amend position (·.withResults (some 1))
    return e.as (.movable position)
  | _ => return e

/-- A call or the extra arguments, set to give so many values. -/
def setResults (e : Expression) (count : Option Nat) : Compiler Unit := do
  match e.form with
  | .call position => amend position (·.withResults count)
  | .extra position =>
    let first := (← draft).free
    amend position fun i => (i.withResults count).withTarget first
    reserve 1
  | _ => return ()

/-- The expression with its variable or field read. A local variable is read where it is. -/
def discharge (e : Expression) : Compiler Expression := do
  match e.form with
  | .folded _ v => return e.as (.ofValue v)
  | .bound r _ => return e.as (.fixed r)
  | .upvalue up => return e.as (.movable (← emit (.readUpvalue 0 up)))
  | .indexedUpvalue up key => return e.as (.movable (← emit (.indexUpvalue 0 up key)))
  | .indexedInteger table i =>
    release table
    return e.as (.movable (← emit (.indexInteger 0 table i)))
  | .indexedField table key =>
    release table
    return e.as (.movable (← emit (.indexField 0 table key)))
  | .indexed table key =>
    releaseBoth table key
    return e.as (.movable (← emit (.index 0 table key)))
  | .call _ | .extra _ => setOneResult e
  | _ => return e

/-- Sets registers to nil, together with those that the instruction before does. -/
def emitNil (first count : Nat) : Compiler Unit := do
  let last := first + count - 1
  match ← previous? with
  | some (.loadNil earlier more) =>
    let laterEnd := earlier + more
    if (earlier ≤ first && first ≤ laterEnd + 1) || (first ≤ earlier && earlier ≤ last + 1) then
      let start := min earlier first
      amend ((← here) - 1) fun _ => .loadNil start (max laterEnd last - start)
    else discard (emit (.loadNil first (count - 1)))
  | _ => discard (emit (.loadNil first (count - 1)))

/-- An integer that an instruction can hold by itself. -/
def isImmediate (i : Int64) : Bool := -65535 ≤ i.toInt && i.toInt ≤ 65536

/-- Puts an integer into a register. -/
def emitInteger (r : Register) (i : Int64) : Compiler Unit := do
  if isImmediate i then discard (emit (.loadInteger r i))
  else discard (emit (.loadConstant r (← constant (.integer i))))

/-- Puts a double into a register. -/
def emitNumber (r : Register) (d : Double) : Compiler Unit := do
  if (d.exactInteger?.map isImmediate).getD false then discard (emit (.loadNumber r d))
  else discard (emit (.loadConstant r (← constant (.number d))))

/-- Puts the value of an expression into a register, apart from its jumps. A test stays one. -/
def dischargeTo (e : Expression) (r : Register) : Compiler Expression := do
  let e ← discharge e
  match e.form with
  | .nil => emitNil r 1
  | .boolean b => discard (emit (.loadBoolean r b))
  | .string bytes => discard (emit (.loadConstant r (← constant (.string bytes))))
  | .constant k => discard (emit (.loadConstant r k))
  | .number d => emitNumber r d
  | .integer i => emitInteger r i
  | .movable position => amend position (·.withTarget r)
  | .fixed s => if s = r then pure () else discard (emit (.move r s))
  | _ => pure ()
  match e.form with
  | .jump _ => return e
  | .nothing => return e
  | _ => return e.as (.fixed r)

/-- Puts the value of an expression into some register, apart from its jumps. -/
def dischargeAnywhere (e : Expression) : Compiler Expression := do
  match e.form with
  | .fixed _ => return e
  | _ =>
    reserve 1
    dischargeTo e ((← draft).free - 1)

/-- Puts the value of an expression into a register. Its jumps come together there: those whose
tests do not leave the value get one that is loaded for them. -/
def toRegister (e : Expression) (r : Register) : Compiler Expression := do
  let e ← dischargeTo e r
  let (isTest, onTrue) := match e.form with
    | .jump position => (true, position :: e.onTrue)
    | _ => (false, e.onTrue)
  if !onTrue.isEmpty || !e.onFalse.isEmpty then
    let needed := (← needsValue onTrue) || (← needsValue e.onFalse)
    let mut no := 0
    let mut yes := 0
    if needed then
      let around ← if isTest then pure [] else pure [← emitJump]
      discard mark
      no ← emit (.loadFalseSkip r)
      discard mark
      yes ← emit (.loadBoolean r true)
      directHere around
    let final ← mark
    direct e.onFalse (some r) final no
    direct onTrue (some r) final yes
  return .of (.fixed r)

/-- Puts the value of an expression into the next free register. -/
def toNext (e : Expression) : Compiler Expression := do
  let e ← discharge e
  free e
  reserve 1
  toRegister e ((← draft).free - 1)

/-- Puts the value of an expression into a register, unless it is in one already. -/
def toAny (e : Expression) : Compiler Expression := do
  let e ← discharge e
  match e.form with
  | .fixed r =>
    if !e.hasJumps then return e
    else if (← localRegisters) ≤ r then toRegister e r
    else toNext e
  | _ => toNext e

/-- Puts the value of an expression into a register, unless it is a variable of a function around
this one. -/
def toAnyOrUpvalue (e : Expression) : Compiler Expression := do
  match e.form with
  | .upvalue _ => if e.hasJumps then toAny e else return e
  | _ => toAny e

/-- The expression with its value known, in a register or as a constant. -/
def toValue (e : Expression) : Compiler Expression := if e.hasJumps then toAny e else discharge e

/-- The expression as a constant of the draft, when it is one that an instruction can name. -/
def toConstant? (e : Expression) : Compiler (Option Nat) := do
  match e.form with
  | .constant k => return if !e.hasJumps && k ≤ constantLimit then some k else none
  | .folded .. => return none
  | _ =>
    match e.constant? with
    | some v =>
      let k ← constant v
      return if k ≤ constantLimit then some k else none
    | none => return none

/-- The expression as an operand: a constant that an instruction can name, or else a register. -/
def toSource (e : Expression) : Compiler (Source × Expression) := do
  match ← toConstant? e with
  | some k => return (.constant k, e.as (.constant k))
  | none =>
    let e ← toAny e
    return (.register e.register, e)

/-- Stores the value of an expression in a variable or field. -/
def store (target e : Expression) : Compiler Unit := do
  match target.form with
  | .bound r _ =>
    free e
    discard (toRegister e r)
  | .upvalue up =>
    let e ← toAny e
    discard (emit (.writeUpvalue e.register up))
    free e
  | .indexedUpvalue up key =>
    let (source, e) ← toSource e
    discard (emit (.storeUpvalue up key source))
    free e
  | .indexedInteger table i =>
    let (source, e) ← toSource e
    discard (emit (.storeInteger table i source))
    free e
  | .indexedField table key =>
    let (source, e) ← toSource e
    discard (emit (.storeField table key source))
    free e
  | .indexed table key =>
    let (source, e) ← toSource e
    discard (emit (.store table key source))
    free e
  | _ => return ()

/-! ## Fields -/

/-- The longest text that a field instruction can name. -/
def shortLimit : Nat := 40

/-- The constant of a key that a field instruction can name. -/
def shortKey? (key : Expression) : Compiler (Option Nat) := do
  match key.form with
  | .constant k =>
    match (← draft).constants[k]? with
    | some (.string bytes) =>
      return if !key.hasJumps && k ≤ constantLimit && bytes.length ≤ shortLimit then some k
        else none
    | _ => return none
  | _ => return none

/-- The field of a table under a key. The table is in a register or a variable of a function
around. -/
def indexedBy (table key : Expression) : Compiler Expression := do
  let key ← match key.form with
    | .string bytes => pure (key.as (.constant (← constant (.string bytes))))
    | _ => pure key
  let short ← shortKey? key
  match table.form, short with
  | .upvalue up, some k => return table.as (.indexedUpvalue up k)
  | _, _ =>
    let table ← toAny table
    match short, key.form with
    | some k, _ => return table.as (.indexedField table.register k)
    | none, .integer i =>
      if !key.hasJumps && 0 ≤ i.toInt && i.toInt ≤ constantLimit then
        return table.as (.indexedInteger table.register i.toInt.toNat)
      else
        let key ← toAny key
        return table.as (.indexed table.register key.register)
    | none, _ =>
      let key ← toAny key
      return table.as (.indexed table.register key.register)

/-- The method of an object under a name, in the next two registers: the function and the object. -/
def methodOf (object : Expression) (name : Name) : Compiler Expression := do
  let object ← toAny object
  free object
  let base := (← draft).free
  reserve 2
  let (source, key) ← toSource (.of (.string name))
  discard (emit (.method base object.register source))
  free key
  return .of (.fixed base)

/-! ## Conditions -/

/-- Turns the outcome of a test around. -/
def negateTest (jump : Nat) : Compiler Unit :=
  modifyDraft fun d => { d with code := d.code.modify (controlOf d.code jump) (·.negated) }

/-- Writes a jump that is taken when the value of an expression is as given. A negation before it
is undone. -/
def jumpWhen (e : Expression) (outcome : Bool) : Compiler Nat := do
  let negation ← match e.form with
    | .movable position => pure (← draft).code[position]?
    | _ => pure none
  match negation with
  | some (.not _ operand) =>
    retract
    emitTest (.test operand !outcome)
  | _ =>
    let e ← dischargeAnywhere e
    free e
    emitTest (.testMove 0 e.register outcome)

/-- Goes on when an expression is true; the jumps on its being false are left open. -/
def goIfTrue (e : Expression) : Compiler Expression := do
  let e ← discharge e
  let jumps ← match e.form with
    | .jump position => do
      negateTest position
      pure [position]
    | .constant _ | .number _ | .integer _ | .string _ | .boolean true => pure []
    | _ => pure [← jumpWhen e false]
  directHere e.onTrue
  return { e with onTrue := [], onFalse := e.onFalse ++ jumps }

/-- Goes on when an expression is false; the jumps on its being true are left open. -/
def goIfFalse (e : Expression) : Compiler Expression := do
  let e ← discharge e
  let jumps ← match e.form with
    | .jump position => pure [position]
    | .nil | .boolean false => pure []
    | _ => pure [← jumpWhen e true]
  directHere e.onFalse
  return { e with onTrue := e.onTrue ++ jumps, onFalse := [] }

/-- The negation of an expression. -/
def negation (e : Expression) : Compiler Expression := do
  let form ← match e.form with
    | .nil | .boolean false => pure (Form.boolean true)
    | .constant _ | .number _ | .integer _ | .string _ | .boolean true => pure (.boolean false)
    | .jump position => do
      negateTest position
      pure e.form
    | .movable _ | .fixed _ => do
      let e ← dischargeAnywhere e
      free e
      pure (.movable (← emit (.not 0 e.register)))
    | form => pure form
  dropValues e.onFalse
  dropValues e.onTrue
  return ⟨form, e.onFalse, e.onTrue⟩

/-! ## Operators -/

/-- The value of an operator on numerals, when it is one that can be written as a constant: an
operation that fails, and a double that is no number or zero, is left to be carried out. -/
def foldedOperator? (op : ArithmeticOp) (a b : Expression) : Option Form :=
  match a.numeral?, b.numeral? with
  | some x, some y =>
    let divides := op = .div || op = .floorDiv || op = .mod
    if divides && (y.toDouble?.map (·.same .zero)).getD true then none
    else
      match op.plain? x y with
      | some (.ok (.integer i)) => some (.integer i)
      | some (.ok (.number d)) => if d.isNaN || d.same .zero then none else some (.number d)
      | _ => none
  | _, _ => none

/-- The value of an operator on a numeral. -/
def foldedUnary? (op : UnaryOp) (e : Expression) : Option Form :=
  match op, e.numeral? with
  | .negate, some (.integer i) => some (.integer (-i))
  | .negate, some (.number d) => if d.isNaN || d.same .zero then none else some (.number d.neg)
  | .complement, some v => (integral? v).map fun i => .integer (Int64.ofUInt64 (~~~ i.toUInt64))
  | _, _ => none

/-- Writes an operator of one operand. -/
def emitUnary (op : UnaryOp) (e : Expression) (line : Nat) : Compiler Expression := do
  let e ← discharge e
  match foldedUnary? op e with
  | some form => return e.as form
  | none =>
    let e ← toAny e
    free e
    let position ← emit (.unary op 0 e.register)
    reline line
    return .of (.movable position)

/-- Writes an operator and its fallback, given the register of the first operand. -/
def emitOperator (a b : Expression) (operator fallback : Register → Instruction) (line : Nat) :
    Compiler Expression := do
  let a ← toAny a
  let position ← emit (operator a.register)
  freeBoth a b
  reline line
  discard (emit (fallback a.register))
  reline line
  return .of (.movable position)

/-- Writes an operator on two registers. -/
def emitRegisters (op : ArithmeticOp) (a b : Expression) (line : Nat) : Compiler Expression := do
  let b ← toAny b
  emitOperator a b (.arithmetic op 0 · b.register) (.fallback op · b.register) line

/-- Writes an operator on a register and a small integer. -/
def emitSmall (op : ArithmeticOp) (a b : Expression) (i : Int64) (isFlipped : Bool) (line : Nat) :
    Compiler Expression :=
  emitOperator a b (.arithmeticInteger op 0 · i isFlipped) (.fallbackInteger op · i isFlipped) line

/-- Writes an operator whose second operand, when it is a small integer whose negation is small too,
is applied by its inverse. -/
def emitInverse? (op inverse : ArithmeticOp) (a b : Expression) (line : Nat) :
    Compiler (Option Expression) := do
  match b.smallInteger? with
  | some i =>
    if Expression.fits (-i) then
      return some (← emitOperator a b (.arithmeticInteger inverse 0 · (-i) false)
        (.fallbackInteger op · i false) line)
    else return none
  | none => return none

/-- Writes an operator whose second operand may be a constant. -/
def emitArithmetic (op : ArithmeticOp) (a b : Expression) (isFlipped : Bool) (line : Nat) :
    Compiler Expression := do
  let k? ← if b.numeral?.isSome then toConstant? b else pure none
  match k? with
  | some k =>
    emitOperator a (b.as (.constant k)) (.arithmeticConstant op 0 · k)
      (.fallbackConstant op · k isFlipped) line
  | none => if isFlipped then emitRegisters op b a line else emitRegisters op a b line

/-- Writes an operator whose operands can be exchanged, to have a numeral second. -/
def emitCommutative (op : ArithmeticOp) (a b : Expression) (line : Nat) :
    Compiler Expression := do
  let isFlipped := a.numeral?.isSome
  let (a, b) := if isFlipped then (b, a) else (a, b)
  match op, b.smallInteger? with
  | .add, some i => emitSmall op a b i isFlipped line
  | _, _ => emitArithmetic op a b isFlipped line

/-- Writes a bitwise operator whose operands can be exchanged, to have an integer second. -/
def emitBitwise (op : ArithmeticOp) (a b : Expression) (line : Nat) : Compiler Expression := do
  let isInteger (e : Expression) : Bool := match e.form with
    | .integer _ => true
    | _ => false
  let isFlipped := isInteger a
  let (a, b) := if isFlipped then (b, a) else (a, b)
  let k? ← if isInteger b then toConstant? b else pure none
  match k? with
  | some k =>
    emitOperator a (b.as (.constant k)) (.arithmeticConstant op 0 · k)
      (.fallbackConstant op · k isFlipped) line
  | none => if isFlipped then emitRegisters op b a line else emitRegisters op a b line

/-- Writes an arithmetic or bitwise operator. -/
def emitBinary (op : ArithmeticOp) (a b : Expression) (line : Nat) : Compiler Expression := do
  match foldedOperator? op a b with
  | some form => return a.as form
  | none =>
    match op with
    | .add | .mul => emitCommutative op a b line
    | .sub =>
      match ← emitInverse? .sub .add a b line with
      | some e => return e
      | none => emitArithmetic op a b false line
    | .div | .floorDiv | .mod | .pow => emitArithmetic op a b false line
    | .and | .or | .xor => emitBitwise op a b line
    | .shiftLeft =>
      match a.smallInteger? with
      | some i => emitSmall .shiftLeft b a i true line
      | none =>
        match ← emitInverse? .shiftLeft .shiftRight a b line with
        | some e => return e
        | none => emitRegisters op a b line
    | .shiftRight =>
      match b.smallInteger? with
      | some i => emitSmall .shiftRight a b i false line
      | none => emitRegisters op a b line

/-- Writes a concatenation, joined with the one that its second operand is. Both operands are in
registers, one after the other. -/
def emitConcat (a b : Expression) (line : Nat) : Compiler Expression := do
  match ← previous? with
  | some (.concat first count) =>
    if first = a.register + 1 then
      free b
      amend ((← here) - 1) fun _ => .concat a.register (count + 1)
      return a
    else
      discard (emit (.concat a.register 2))
      free b
      reline line
      return a
  | _ =>
    discard (emit (.concat a.register 2))
    free b
    reline line
    return a

/-- Writes a test of equality. -/
def emitEquality (expected : Bool) (a b : Expression) : Compiler Expression := do
  let isFixed := match a.form with
    | .fixed _ => true
    | _ => false
  let (a, b) := if isFixed then (a, b) else (b, a)
  let a ← toAny a
  match b.smallNumber? with
  | some (i, _) => do
    freeBoth a b
    return .of (.jump (← emitTest (.equalInteger a.register i expected)))
  | none =>
    let (source, b) ← toSource b
    freeBoth a b
    match source with
    | .constant k => return .of (.jump (← emitTest (.equalConstant a.register k expected)))
    | .register r => return .of (.jump (← emitTest (.equal a.register r expected)))

/-- Writes a test of the order of two expressions. -/
def emitOrder (op : OrderOp) (a b : Expression) : Compiler Expression := do
  match b.smallNumber?, a.smallNumber? with
  | some (i, isDouble), _ =>
    let a ← toAny a
    freeBoth a b
    return .of (.jump (← emitTest (.orderInteger op a.register i isDouble false true)))
  | none, some (i, isDouble) =>
    let b ← toAny b
    freeBoth a b
    return .of (.jump (← emitTest (.orderInteger op b.register i isDouble true true)))
  | none, none =>
    let a ← toAny a
    let b ← toAny b
    freeBoth a b
    return .of (.jump (← emitTest (.order op a.register b.register true)))

end Compiler

end ScriptBridge.Script
