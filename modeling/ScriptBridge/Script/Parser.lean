import ScriptBridge.Script.Scope

/-!
# Reading scripts

`parse` reads the tokens of a script as one function without parameters and gives its code, or says
where the script goes wrong and how. The parser looks at the current token and at most at the one
after it. Every step down the grammar uses one unit of a depth that the number of tokens bounds, so
the parser is total; a script never uses it up, since its levels within levels are limited too.
-/

namespace ScriptBridge.Script

/-- An operator between two operands. -/
inductive BinaryOperator where
  | arithmetic (op : ArithmeticOp)
  | concat
  | equality (expected : Bool)
  | order (op : OrderOp) (isExchanged : Bool)
  | both
  | either

namespace Compiler

/-- The operator of a symbol, with how strongly it binds to the left and to the right. -/
def binaryOperator? : String → Option (BinaryOperator × Nat × Nat)
  | "+" => some (.arithmetic .add, 10, 10)
  | "-" => some (.arithmetic .sub, 10, 10)
  | "*" => some (.arithmetic .mul, 11, 11)
  | "%" => some (.arithmetic .mod, 11, 11)
  | "/" => some (.arithmetic .div, 11, 11)
  | "//" => some (.arithmetic .floorDiv, 11, 11)
  | "^" => some (.arithmetic .pow, 14, 13)
  | ".." => some (.concat, 9, 8)
  | "<<" => some (.arithmetic .shiftLeft, 7, 7)
  | ">>" => some (.arithmetic .shiftRight, 7, 7)
  | "&" => some (.arithmetic .and, 6, 6)
  | "~" => some (.arithmetic .xor, 5, 5)
  | "|" => some (.arithmetic .or, 4, 4)
  | "==" => some (.equality true, 3, 3)
  | "~=" => some (.equality false, 3, 3)
  | "<" => some (.order .less false, 3, 3)
  | "<=" => some (.order .atMost false, 3, 3)
  | ">" => some (.order .less true, 3, 3)
  | ">=" => some (.order .atMost true, 3, 3)
  | "and" => some (.both, 2, 2)
  | "or" => some (.either, 1, 1)
  | _ => none

/-- How strongly the operators of one operand bind. -/
def unaryStrength : Nat := 12

/-- An operator of one operand that has a metamethod. -/
def unaryOperator? : String → Option UnaryOp
  | "-" => some .negate
  | "~" => some .complement
  | "#" => some .length
  | _ => none

/-- Prepares the first operand of an operator before the second one is read. -/
def firstOperand (op : BinaryOperator) (e : Expression) : Compiler Expression := do
  let e ← discharge e
  match op with
  | .both => goIfTrue e
  | .either => goIfFalse e
  | .concat => toNext e
  | .arithmetic _ => if e.numeral?.isSome then return e else toAny e
  | .equality _ => if e.numeral?.isSome then return e else return (← toSource e).2
  | .order .. => if e.smallNumber?.isSome then return e else toAny e

/-- Joins two operands by an operator. -/
def joinOperands (op : BinaryOperator) (a b : Expression) (line : Nat) : Compiler Expression := do
  let b ← discharge b
  match op with
  | .both => return { b with onFalse := a.onFalse ++ b.onFalse }
  | .either => return { b with onTrue := a.onTrue ++ b.onTrue }
  | .concat => emitConcat a (← toNext b) line
  | .arithmetic op => emitBinary op a b line
  | .equality expected => emitEquality expected a b
  | .order op isExchanged => if isExchanged then emitOrder op b a else emitOrder op a b

/-- Makes as many values as there are variables, when so many expressions were read and the last
one is still at hand. -/
def adjustValues (variableCount count : Nat) (last : Expression) : Compiler Unit := do
  let missing := variableCount - count
  if last.form.isOpen then
    setResults last (some (variableCount + 1 - count))
  else
    match last.form with
    | .nothing => pure ()
    | _ => discard (toNext last)
    if 0 < missing then emitNil (← draft).free missing
  if 0 < missing then reserve missing
  else modifyDraft fun d => { d with free := d.free - (count - variableCount) }

/-- How many positional items of a table wait in registers before they are stored. -/
def itemBatch : Nat := 50

/-- A table constructor that has not ended: the table, the last positional item that was read, how
many keyed items there were, how many positional ones are stored, and how many wait. -/
structure Construction where
  table : Expression
  last : Expression
  keyed : Nat
  stored : Nat
  waiting : Nat

/-- Stores the items that wait. -/
def storeWaiting (c : Construction) (count : Option Nat) : Compiler Unit := do
  discard (emit (.storeItems c.table.register count c.stored))
  modifyDraft fun d => { d with free := c.table.register + 1 }

/-- Puts the last positional item in its register, and stores a full batch. -/
def closeItem (c : Construction) : Compiler Construction := do
  match c.last.form with
  | .nothing => return c
  | _ =>
    discard (toNext c.last)
    if c.waiting = itemBatch then
      storeWaiting c (some c.waiting)
      return { c with last := .nothing, stored := c.stored + c.waiting, waiting := 0 }
    else return { c with last := .nothing }

/-- Stores the items that wait at the end of a constructor. Gives how many items are counted. -/
def closeItems (c : Construction) : Compiler Nat := do
  if c.waiting = 0 then return c.stored
  else if c.last.form.isOpen then
    setResults c.last none
    storeWaiting c none
    return c.stored + c.waiting - 1
  else
    match c.last.form with
    | .nothing => pure ()
    | _ => discard (toNext c.last)
    storeWaiting c (some c.waiting)
    return c.stored + c.waiting

/-- A target of an assignment that is assigned to later keeps what it needs of a variable that is
assigned to earlier: the variable is copied. -/
def keepTarget (kept : Register) (written : Form) (target : Expression) : Bool × Expression :=
  match target.form, written with
  | .indexedUpvalue up key, .upvalue other =>
    if up = other then (true, target.as (.indexedField kept key)) else (false, target)
  | .indexedField table key, .bound r _ =>
    if table = r then (true, target.as (.indexedField kept key)) else (false, target)
  | .indexedInteger table i, .bound r _ =>
    if table = r then (true, target.as (.indexedInteger kept i)) else (false, target)
  | .indexed table key, .bound r _ =>
    (table = r || key = r,
      target.as (.indexed (if table = r then kept else table) (if key = r then kept else key)))
  | _, _ => (false, target)

/-- The targets before one of an assignment, after they keep what they need of it. -/
def keepTargets (targets : List Expression) (next : Expression) : Compiler (List Expression) := do
  if next.form.isIndexed then return targets
  else
    let kept := (← draft).free
    let checked := targets.map (keepTarget kept next.form)
    if checked.any Prod.fst then
      match next.form with
      | .bound r _ => discard (emit (.move kept r))
      | .upvalue up => discard (emit (.readUpvalue kept up))
      | _ => pure ()
      reserve 1
    return checked.map Prod.snd

/-- The parser ran out of depth. -/
def exhausted {α : Type} : Compiler α := throw .tooDeep

/-- Skips semicolons. -/
def skipSemicolons : Nat → Compiler Unit
  | 0 => exhausted
  | n + 1 => do if ← accept ";" then skipSemicolons n

/-- Stores the value in the last register taken. -/
def storeTop (target : Expression) : Compiler Unit := do
  store target (.of (.fixed ((← draft).free - 1)))

/-- A jump to a label, which may come later. -/
def jumpStatement : Compiler Unit := do
  let line ← line
  let x ← expectName
  let d ← draft
  match d.labels.find? (·.name = x) with
  | some l =>
    let level := registersOf d l.active
    if level < (← localRegisters) then discard (emit (.close level))
    directTo [← emitJump] l.position
  | none => addJump x line [← emitJump]

/-- A field under a name, from the point or colon before the name on. -/
def namedField (e : Expression) : Compiler Expression := do
  let table ← toAnyOrUpvalue e
  advance
  let x ← expectName
  indexedBy table (.of (.string x))

mutual

/-- An expression whose operators bind more strongly than a limit. -/
def expression : Nat → Nat → Compiler Expression
  | 0, _ => exhausted
  | n + 1, limit => do
    enterLevel
    let operator ← symbol
    let first ←
      if operator = "not" then do
        advance
        let operand ← expression n unaryStrength
        negation (← discharge operand)
      else
        match unaryOperator? operator with
        | some op => do
          let line ← line
          advance
          let operand ← expression n unaryStrength
          emitUnary op operand line
        | none => simple n
    let e ← operators n limit first
    leaveLevel
    return e
termination_by structural n => n

/-- The operators after a first operand, as far as they bind more strongly than a limit. -/
def operators : Nat → Nat → Expression → Compiler Expression
  | 0, _, _ => exhausted
  | n + 1, limit, first => do
    match binaryOperator? (← symbol) with
    | some (op, leftStrength, rightStrength) =>
      if leftStrength > limit then do
        let line ← line
        advance
        let first ← firstOperand op first
        let second ← expression n rightStrength
        operators n limit (← joinOperands op first second line)
      else return first
    | none => return first
termination_by structural n => n

/-- An expression without operators. -/
def simple : Nat → Compiler Expression
  | 0 => exhausted
  | n + 1 => do
    match (← current).kind with
    | .integer i =>
      advance
      return .of (.integer i)
    | .number d =>
      advance
      return .of (.number d)
    | .string bytes =>
      advance
      return .of (.string bytes)
    | .symbol "nil" =>
      advance
      return .of .nil
    | .symbol "true" =>
      advance
      return .of (.boolean true)
    | .symbol "false" =>
      advance
      return .of (.boolean false)
    | .symbol "..." =>
      if (← draft).isVariadic then
        let position ← emit (.extraArguments 0 (some 1))
        advance
        return .of (.extra position)
      else fail "cannot use '...' outside a vararg function"
    | .symbol "\x7b" => constructor n
    | .symbol "function" => do
      advance
      functionBody n false (← line)
    | _ => suffixed n
termination_by structural n => n

/-- A name or an expression in parentheses. -/
def primary : Nat → Compiler Expression
  | 0 => exhausted
  | n + 1 => do
    match (← current).kind with
    | .name x => do
      advance
      variableOf x
    | .symbol "(" => do
      let opened ← line
      advance
      let inner ← expression n 0
      expectClosing ")" "(" opened
      discharge inner
    | _ => fail "unexpected symbol"
termination_by structural n => n

/-- A name or an expression in parentheses, with what follows it. -/
def suffixed : Nat → Compiler Expression
  | 0 => exhausted
  | n + 1 => do
    suffixes n (← primary n)
termination_by structural n => n

/-- The fields, indices and calls after an expression. -/
def suffixes : Nat → Expression → Compiler Expression
  | 0, _ => exhausted
  | n + 1, e => do
    match (← current).kind with
    | .symbol "." => suffixes n (← namedField e)
    | .symbol "[" => do
      let table ← toAnyOrUpvalue e
      let key ← bracketed n
      suffixes n (← indexedBy table key)
    | .symbol ":" => do
      advance
      let x ← expectName
      suffixes n (← arguments n (← methodOf e x))
    | .symbol "(" => do suffixes n (← arguments n (← toNext e))
    | .symbol "\x7b" => do suffixes n (← arguments n (← toNext e))
    | .string _ => do suffixes n (← arguments n (← toNext e))
    | _ => return e
termination_by structural n => n

/-- A key in brackets. -/
def bracketed : Nat → Compiler Expression
  | 0 => exhausted
  | n + 1 => do
    advance
    let key ← toValue (← expression n 0)
    expect "]"
    return key
termination_by structural n => n

/-- The call of a function that is in the last register taken, or before the object there. -/
def arguments : Nat → Expression → Compiler Expression
  | 0, _ => exhausted
  | n + 1, callee => do
    let opened ← line
    let last ← match (← current).kind with
      | .symbol "(" => do
        advance
        let last ←
          if (← symbol) = ")" then pure Expression.nothing
          else
            let (_, last) ← expressions n
            if last.form.isOpen then setResults last none
            pure last
        expectClosing ")" "(" opened
        pure last
      | .symbol "\x7b" => constructor n
      | .string bytes => do
        advance
        pure (.of (.string bytes))
      | _ => fail "function arguments expected"
    let base := callee.register
    let count ←
      if last.form.isOpen then pure none
      else
        match last.form with
        | .nothing => pure ()
        | _ => discard (toNext last)
        pure (some ((← draft).free - (base + 1)))
    let position ← emit (.call base count (some 1))
    reline opened
    modifyDraft fun d => { d with free := base + 1 }
    return .of (.call position)
termination_by structural n => n

/-- Expressions in a list: how many there are, and the last one, the others being in registers. -/
def expressions : Nat → Compiler (Nat × Expression)
  | 0 => exhausted
  | n + 1 => do
    let e ← expression n 0
    moreExpressions n 1 e
termination_by structural n => n

/-- The rest of a list of expressions. -/
def moreExpressions : Nat → Nat → Expression → Compiler (Nat × Expression)
  | 0, _, _ => exhausted
  | n + 1, count, e => do
    if ← accept "," then
      discard (toNext e)
      let e ← expression n 0
      moreExpressions n (count + 1) e
    else return (count, e)
termination_by structural n => n

/-- A table constructor. -/
def constructor : Nat → Compiler Expression
  | 0 => exhausted
  | n + 1 => do
    let opened ← line
    let position ← emit (.newTable 0 0 0)
    let base := (← draft).free
    reserve 1
    let table := Expression.of (.fixed base)
    expect "\x7b"
    let c ← items n ⟨table, .nothing, 0, 0, 0⟩
    expectClosing "\x7d" "\x7b" opened
    let count ← closeItems c
    amend position fun _ => .newTable base count c.keyed
    return table
termination_by structural n => n

/-- The items of a table constructor. -/
def items : Nat → Construction → Compiler Construction
  | 0, _ => exhausted
  | n + 1, c => do
    if (← symbol) = "\x7d" then return c
    else
      let c ← closeItem c
      let isKeyed : Bool ← match (← current).kind with
        | .name _ => pure (decide ((← following).kind = .symbol "="))
        | .symbol s => pure (s = "[")
        | _ => pure false
      let c ← if isKeyed then keyedItem n c else do
        let e ← expression n 0
        pure { c with last := e, waiting := c.waiting + 1 }
      let comma ← accept ","
      let more ← if comma then pure true else accept ";"
      if more then items n c else return c
termination_by structural n => n

/-- A keyed item of a table constructor. -/
def keyedItem : Nat → Construction → Compiler Construction
  | 0, _ => exhausted
  | n + 1, c => do
    let base := (← draft).free
    let key ← match (← current).kind with
      | .name x => do
        advance
        pure (Expression.of (.string x))
      | _ => bracketed n
    expect "="
    let field ← indexedBy c.table key
    let value ← expression n 0
    store field value
    modifyDraft fun d => { d with free := base }
    return { c with keyed := c.keyed + 1 }
termination_by structural n => n

/-- The parameters and the body of a function, up to its end. The line is that on which the function
begins. -/
def functionBody : Nat → Bool → Nat → Compiler Expression
  | 0, _, _ => exhausted
  | n + 1, isMethod, opened => do
    openFunction opened
    expect "("
    if isMethod then
      discard (declare (Bytes.ofString "self"))
      activate 1
    let (count, isVariadic) ← if (← symbol) = ")" then pure (0, false) else parameters n 0
    activate count
    let paramCount := (← draft).active
    modifyDraft fun d => { d with paramCount := paramCount, isVariadic := isVariadic }
    if isVariadic then discard (emit (.moveArguments paramCount))
    reserve paramCount
    expect ")"
    statements n
    expectClosing "end" "function" opened
    let finished ← closeFunction
    let child := (← draft).children.size
    modifyDraft fun d => { d with children := d.children.push finished }
    let position ← emit (.closure 0 child)
    toNext (.of (.movable position))
termination_by structural n => n

/-- The parameters of a function: how many there are, and whether more arguments may follow. -/
def parameters : Nat → Nat → Compiler (Nat × Bool)
  | 0, _ => exhausted
  | n + 1, count => do
    match (← current).kind with
    | .symbol "..." =>
      advance
      return (count, true)
    | .name x => do
      advance
      discard (declare x)
      if ← accept "," then parameters n (count + 1) else return (count + 1, false)
    | _ => fail "<name> or '...' expected"
termination_by structural n => n

/-- Statements up to the end of the block. -/
def statements : Nat → Compiler Unit
  | 0 => exhausted
  | n + 1 => do
    if ← atBlockEnd true then return ()
    else if (← symbol) = "return" then statement n
    else
      statement n
      statements n
termination_by structural n => n

/-- A block with its own local variables. -/
def block : Nat → Compiler Unit
  | 0 => exhausted
  | n + 1 => do
    enterBlock false
    statements n
    leaveBlock
termination_by structural n => n

/-- A statement. The registers that it took for values on the way are free after it. -/
def statement : Nat → Compiler Unit
  | 0 => exhausted
  | n + 1 => do
    let opened ← line
    enterLevel
    match ← symbol with
    | ";" => advance
    | "if" => do
      let around ← conditional n []
      expectClosing "end" "if" opened
      directHere around
    | "while" => whileLoop n opened
    | "do" => do
      advance
      block n
      expectClosing "end" "do" opened
    | "for" => forLoop n opened
    | "repeat" => repeatLoop n opened
    | "function" => functionStatement n opened
    | "local" => do
      advance
      if ← accept "function" then localFunction n else localVariables n
    | "::" => do
      advance
      label n opened
    | "return" => do
      advance
      results n
    | "break" => do
      advance
      addJump breakLabel opened [← emitJump]
    | "goto" => do
      advance
      jumpStatement
    | _ => expressionStatement n
    let level ← localRegisters
    modifyDraft fun d => { d with free := level }
    leaveLevel
termination_by structural n => n

/-- The branches of a conditional statement from an `if` or `elseif` on, after those that ended with
some jumps. Gives the jumps that lead behind the whole statement. -/
def conditional : Nat → List Nat → Compiler (List Nat)
  | 0, _ => exhausted
  | n + 1, around => do
    advance
    let condition ← expression n 0
    expect "then"
    let otherwise ←
      if (← symbol) = "break" then do
        let line ← line
        let condition ← goIfFalse condition
        advance
        enterBlock false
        addJump breakLabel line condition.onTrue
        skipSemicolons n
        if ← atBlockEnd false then
          leaveBlock
          pure none
        else pure (some [← emitJump])
      else do
        let condition ← goIfTrue condition
        enterBlock false
        pure (some condition.onFalse)
    let around ← match otherwise with
      | none => pure around
      | some jumps => do
        statements n
        leaveBlock
        let next ← symbol
        let around ←
          if next = "else" || next = "elseif" then pure (around ++ [← emitJump]) else pure around
        directHere jumps
        pure around
    match ← symbol with
    | "elseif" => conditional n around
    | "else" => do
      advance
      block n
      return around
    | _ => return around
termination_by structural n => n

/-- The condition of a loop: gives the jumps that are taken when it is false. -/
def loopCondition : Nat → Compiler (List Nat)
  | 0 => exhausted
  | n + 1 => do
    let e ← expression n 0
    let e := match e.form with
      | .nil => e.as (.boolean false)
      | _ => e
    return (← goIfTrue e).onFalse
termination_by structural n => n

/-- A loop with its condition before its body. -/
def whileLoop : Nat → Nat → Compiler Unit
  | 0, _ => exhausted
  | n + 1, opened => do
    advance
    let start ← mark
    let out ← loopCondition n
    enterBlock true
    expect "do"
    block n
    directTo [← emitJump] start
    expectClosing "end" "while" opened
    leaveBlock
    directHere out
termination_by structural n => n

/-- A loop with its condition after its body, which still sees the body's variables. -/
def repeatLoop : Nat → Nat → Compiler Unit
  | 0, _ => exhausted
  | n + 1, opened => do
    let start ← mark
    enterBlock true
    enterBlock false
    advance
    statements n
    expectClosing "until" "repeat" opened
    let again ← loopCondition n
    let inner := (← draft).blocks.headD ⟨0, 0, 0, false, false, false⟩
    leaveBlock
    let again ←
      if inner.isCaptured then do
        let out ← emitJump
        directHere again
        discard (emit (.close (registersOf (← draft) inner.active)))
        let again ← emitJump
        directHere [out]
        pure [again]
      else pure again
    directTo again start
    leaveBlock
termination_by structural n => n

/-- A loop over numbers or over an iterator. -/
def forLoop : Nat → Nat → Compiler Unit
  | 0, _ => exhausted
  | n + 1, opened => do
    enterBlock true
    advance
    let x ← expectName
    match ← symbol with
    | "=" => numericLoop n x opened
    | "," => iteratorLoop n x
    | "in" => iteratorLoop n x
    | _ => fail "'=' or 'in' expected"
    expectClosing "end" "for" opened
    leaveBlock
termination_by structural n => n

/-- The rest of a loop over numbers, up to its end. -/
def numericLoop : Nat → Name → Nat → Compiler Unit
  | 0, _, _ => exhausted
  | n + 1, x, opened => do
    let base := (← draft).free
    declareHidden "(for state)"
    declareHidden "(for state)"
    declareHidden "(for state)"
    discard (declare x)
    expect "="
    discard (toNext (← expression n 0))
    expect ","
    discard (toNext (← expression n 0))
    if ← accept "," then discard (toNext (← expression n 0))
    else
      emitInteger (← draft).free 1
      reserve 1
    activate 3
    expect "do"
    let start ← emit (.prepareCount base 0)
    loopBody n 1
    discard mark
    let last ← emit (.repeatCount base (start + 1))
    amend start fun _ => .prepareCount base (last + 1)
    reline opened
termination_by structural n => n

/-- The rest of a loop over an iterator, up to its end. -/
def iteratorLoop : Nat → Name → Compiler Unit
  | 0, _ => exhausted
  | n + 1, x => do
    let base := (← draft).free
    declareHidden "(for state)"
    declareHidden "(for state)"
    declareHidden "(for state)"
    declareHidden "(for state)"
    discard (declare x)
    let count ← if ← accept "," then moreNames n 1 else pure 1
    expect "in"
    let opened ← line
    let (given, last) ← expressions n
    adjustValues 4 given last
    activate 4
    markClosing
    checkRoom 3
    expect "do"
    let start ← emit (.prepareIterate 0)
    loopBody n count
    let again ← mark
    amend start fun _ => .prepareIterate again
    discard (emit (.iterate base count))
    reline opened
    discard (emit (.repeatIterate base (start + 1)))
    reline opened
termination_by structural n => n

/-- More names of variables after a comma: how many there are together. -/
def moreNames : Nat → Nat → Compiler Nat
  | 0, _ => exhausted
  | n + 1, count => do
    discard (declare (← expectName))
    if ← accept "," then moreNames n (count + 1) else return count + 1
termination_by structural n => n

/-- The body of a loop with so many variables of its own. -/
def loopBody : Nat → Nat → Compiler Unit
  | 0, _ => exhausted
  | n + 1, count => do
    enterBlock false
    activate count
    reserve count
    block n
    leaveBlock
termination_by structural n => n

/-- A function statement. -/
def functionStatement : Nat → Nat → Compiler Unit
  | 0, _ => exhausted
  | n + 1, opened => do
    advance
    let x ← expectName
    let (target, isMethod) ← functionName n (← variableOf x)
    let f ← functionBody n isMethod opened
    refuseConstant target
    store target f
    reline opened
termination_by structural n => n

/-- The fields of a function's name, and whether the last one makes it a method. -/
def functionName : Nat → Expression → Compiler (Expression × Bool)
  | 0, _ => exhausted
  | n + 1, e => do
    match ← symbol with
    | "." => functionName n (← namedField e)
    | ":" => return (← namedField e, true)
    | _ => return (e, false)
termination_by structural n => n

/-- The rest of a local function statement. Messages know the variable only after it. -/
def localFunction : Nat → Compiler Unit
  | 0 => exhausted
  | n + 1 => do
    let position ← declare (← expectName)
    activate 1
    discard (functionBody n false (← line))
    modifyDraft fun d =>
      { d with
        ranges := d.ranges.modify (d.declared.getD position default).range fun r =>
          { r with first := d.code.size } }
termination_by structural n => n

/-- Declares names with their attributes: how many there are, the position of the last one, and the
position of one that is to be closed. -/
def attributed : Nat → Nat → Option Nat → Compiler (Nat × Nat × Option Nat)
  | 0, _, _ => exhausted
  | n + 1, count, closing => do
    let position ← declare (← expectName)
    let closing ←
      if ← accept "<" then do
        let mark ← expectName
        expect ">"
        if mark = Bytes.ofString "const" ∨ mark = Bytes.ofString "close" then
          modifyDraft fun d =>
            { d with declared := d.declared.modify position fun v => { v with kind := .constant } }
          if mark = Bytes.ofString "const" then pure closing
          else if closing.isSome then
            failPlain (Bytes.ofString "multiple to-be-closed variables in local list")
          else pure (some position)
        else failPlain (Bytes.ofString "unknown attribute '" ++ mark ++ Bytes.ofString "'")
      else pure closing
    if ← accept "," then attributed n (count + 1) closing
    else return (count + 1, position, closing)
termination_by structural n => n

/-- The rest of a declaration of local variables. -/
def localVariables : Nat → Compiler Unit
  | 0 => exhausted
  | n + 1 => do
    let (count, position, closing) ← attributed n 0 none
    let (given, last) ←
      if ← accept "=" then expressions n else pure (0, Expression.nothing)
    let isConstant := ((← draft).declared.getD position default).kind.isConstant
    match (if given = count && isConstant && closing ≠ some position then last.constant? else none)
      with
    | some v => do
      modifyDraft fun d =>
        { d with
          declared := d.declared.modify position fun x => { x with kind := .folded v } }
      activate (count - 1)
      modifyDraft fun d => { d with active := d.active + 1 }
    | none => do
      adjustValues count given last
      activate count
    if closing.isSome then markClosing
termination_by structural n => n

/-- The rest of a label. -/
def label : Nat → Nat → Compiler Unit
  | 0, _ => exhausted
  | n + 1, opened => do
    let x ← expectName
    expect "::"
    idleStatements n
    match (← draft).labels.find? (·.name = x) with
    | some l =>
      failPlain (Bytes.ofString "label '" ++ x
        ++ Bytes.ofString ("' already defined on line " ++ toString l.line))
    | none => discard (addLabel x opened (← atBlockEnd false))
termination_by structural n => n

/-- Statements that do nothing. -/
def idleStatements : Nat → Compiler Unit
  | 0 => exhausted
  | n + 1 => do
    let next ← symbol
    if next = ";" || next = "::" then
      statement n
      idleStatements n
termination_by structural n => n

/-- The values that a function returns. A single call replaces the function. -/
def results : Nat → Compiler Unit
  | 0 => exhausted
  | n + 1 => do
    let first ← localRegisters
    let isEnd ← atBlockEnd true
    if isEnd || (← symbol) = ";" then discard (emit (.leave first (some 0)))
    else
      let (count, last) ← expressions n
      if last.form.isOpen then
        setResults last none
        let isIterating := ((← draft).blocks.head?.map Block.isIterating).getD false
        match last.form with
        | .call position =>
          if count = 1 && !isIterating then
            amend position fun
              | .call base args _ => .tailCall base args
              | i => i
        | _ => pure ()
        discard (emit (.leave first none))
      else if count = 1 then
        let e ← toAny last
        discard (emit (.leave e.register (some 1)))
      else
        discard (toNext last)
        discard (emit (.leave first (some count)))
    discard (accept ";")
termination_by structural n => n

/-- A call or an assignment. -/
def expressionStatement : Nat → Compiler Unit
  | 0 => exhausted
  | n + 1 => do
    let e ← suffixed n
    let next ← symbol
    if next = "=" || next = "," then assignment n [] e
    else
      match e.form with
      | .call position => amend position (·.withResults (some 0))
      | _ => fail "syntax error"
termination_by structural n => n

/-- An assignment from its next target on, after those before it, the last one first. -/
def assignment : Nat → List Expression → Expression → Compiler Unit
  | 0, _, _ => exhausted
  | n + 1, before, target => do
    if target.form.isVariable then refuseConstant target else fail "syntax error"
    if ← accept "," then
      let next ← suffixed n
      let targets ← keepTargets (target :: before) next
      enterLevel
      assignment n targets next
      leaveLevel
    else
      expect "="
      let (count, last) ← expressions n
      let wanted := before.length + 1
      if count = wanted then
        store target (← setOneResult last)
        before.forM storeTop
      else
        adjustValues wanted count last
        (target :: before).forM storeTop
termination_by structural n => n

end

/-- A whole script. -/
def chunk (depth : Nat) : Compiler Prototype := do
  refuseBad (← current)
  statements depth
  match (← current).kind with
  | .finish => closeFunction
  | _ => fail "<eof> expected"

end Compiler

/-- The draft of a whole script: it takes any arguments, and finds the table of the globals around
it. -/
def Draft.main : Draft :=
  { Draft.ofLine 0 with
    isVariadic := true
    code := #[.moveArguments 0]
    lines := #[1]
    captures := #[⟨environment, true, 0, false⟩]
    blocks := [⟨0, 0, 0, false, false, false⟩] }

/-- The code of the script that some bytes are, or why they are none. `level` counts the levels
within which the script is read. -/
def parse (source : Bytes) (level : Nat) : Except LoadError Prototype :=
  let tokens := Token.scan source
  match Compiler.chunk (20 * (tokens.length + 2)) ⟨tokens, false, 1, level, .main, []⟩ with
  | .ok f _ => .ok f
  | .error e _ => .error e

end ScriptBridge.Script
