import ScriptBridge.Script.Expression

/-!
# Variables and blocks of drafts

A name is a local variable of the function at hand, a variable that this function has found around
it, or a field of the table of the globals. Blocks end the scope of the variables declared in them;
where one of these was captured by a function, the end of the block makes the capture final. Jumps
to a label that comes later wait in the draft until it does.
-/

namespace ScriptBridge.Script

/-- The greatest number of local variables of a function. -/
def localLimit : Nat := 200

/-- The greatest number of variables that a function can find around it. -/
def captureLimit : Nat := 255

/-- The name under which the table of the globals is found. -/
def environment : Name := Bytes.ofString "_ENV"

/-- The label that breaks jump to. -/
def breakLabel : Name := Bytes.ofString "break"

namespace VariableKind

/-- A variable that cannot be assigned to. -/
def isConstant : VariableKind → Bool
  | plain => false
  | _ => true

end VariableKind

namespace Draft

/-- The last of the first variables of a draft that has a name. -/
def findAmong (d : Draft) (x : Name) : Nat → Option Form
  | 0 => none
  | n + 1 =>
    match d.declared[n]? with
    | some v =>
      if v.name = x then
        match v.kind with
        | .folded value => some (.folded x value)
        | _ => some (.bound v.register n)
      else findAmong d x n
    | none => findAmong d x n

/-- The variable in scope that has a name. -/
def find? (d : Draft) (x : Name) : Option Form := d.findAmong x d.active

/-- The draft with the block of a variable marked as one with a captured variable. -/
def captured (d : Draft) (position : Nat) : Draft :=
  let inside := d.blocks.takeWhile fun b => position < b.active
  match d.blocks.drop inside.length with
  | b :: outer => { d with blocks := inside ++ { b with isCaptured := true } :: outer }
  | [] => d

end Draft

/-- What a name means in the innermost of some drafts, which may have to find it around them. Gives
the line of a function that would find too many. -/
def resolve (x : Name) : Bool → List Draft → Except Nat (Form × List Draft)
  | _, [] => .ok (.nothing, [])
  | isInnermost, d :: outer =>
    match d.find? x with
    | some (.bound r position) =>
      .ok (.bound r position, (if isInnermost then d else d.captured position) :: outer)
    | some form => .ok (form, d :: outer)
    | none =>
      match d.captures.findIdx? (·.name = x) with
      | some up => .ok (.upvalue up, d :: outer)
      | none => do
        let (form, outer) ← resolve x false outer
        let around := outer.headD default
        let capture? : Option Capture := match form with
          | .bound r position =>
            some ⟨x, true, r, (around.declared.getD position default).kind.isConstant⟩
          | .upvalue up =>
            some ⟨x, false, up, ((around.captures[up]?).map Capture.isConstant).getD false⟩
          | _ => none
        match capture? with
        | some capture =>
          if captureLimit ≤ d.captures.size then throw d.line
          else
            return (.upvalue d.captures.size,
              { d with captures := d.captures.push capture } :: outer)
        | none => return (form, d :: outer)

namespace Compiler

/-! ## Variables -/

/-- What a name means here. -/
def lookup (x : Name) : Compiler Expression := do
  let s ← get
  match resolve x true (s.draft :: s.outer) with
  | .ok (form, drafts) =>
    set { s with draft := drafts.headD default, outer := drafts.drop 1 }
    return .of form
  | .error line =>
    let place := if line = 0 then "main function" else "function at line " ++ toString line
    fail ("too many upvalues (limit is " ++ toString captureLimit ++ ") in " ++ place)

/-- The variable or the global of a name. -/
def variableOf (x : Name) : Compiler Expression := do
  let e ← lookup x
  match e.form with
  | .nothing =>
    let globals ← toAnyOrUpvalue (← lookup environment)
    indexedBy globals (.of (.string x))
  | _ => return e

/-- Declares a local variable, whose scope does not begin yet, and gives its position. -/
def declare (x : Name) : Compiler Nat := do
  let d ← draft
  if localLimit ≤ d.declared.size then failLimit "local variables" localLimit
  else
    modifyDraft fun d => { d with declared := d.declared.push ⟨x, .plain, 0, 0⟩ }
    return d.declared.size

/-- Declares a local variable that scripts cannot name. -/
def declareHidden (name : String) : Compiler Unit := discard (declare (Bytes.ofString name))

/-- The draft with the scope of its next variables begun: they take the next registers. -/
def activated (count : Nat) (d : Draft) : Draft :=
  let start := registersOf d d.active
  (List.range count).foldl
    (fun d i =>
      let range := d.ranges.size
      let name := (d.declared.getD d.active default).name
      { d with
        declared := d.declared.modify d.active fun v =>
          { v with register := start + i, range := range }
        ranges := d.ranges.push ⟨name, d.code.size, d.code.size⟩
        active := d.active + 1 })
    d

/-- Begins the scope of the next variables that were declared. -/
def activate (count : Nat) : Compiler Unit := modifyDraft (activated count)

/-- The draft with the scope of all but its first variables ended. -/
def deactivated (keep : Nat) (d : Draft) : Draft :=
  let ended := (d.declared.extract keep d.active).filterMap fun v =>
    match v.kind with
    | .folded _ => none
    | _ => some v.range
  { d with
    ranges := ended.foldl (fun ranges i =>
      ranges.modify i fun r => { r with last := d.code.size }) d.ranges
    declared := d.declared.extract 0 (d.declared.size - (d.active - keep))
    active := keep }

/-- Refuses a constant variable as the target of an assignment. -/
def refuseConstant (target : Expression) : Compiler Unit := do
  let d ← draft
  let refused? : Option Name := match target.form with
    | .folded x _ => some x
    | .bound _ position =>
      let v := d.declared.getD position default
      if v.kind.isConstant then some v.name else none
    | .upvalue up => (d.captures[up]?).bind fun c => if c.isConstant then some c.name else none
    | _ => none
  match refused? with
  | some x =>
    failPlain (Bytes.ofString "attempt to assign to const variable '" ++ x ++ Bytes.ofString "'")
  | none => return ()

/-! ## Labels and blocks -/

/-- Leaves jumps to wait for their label. -/
def addJump (name : Name) (line : Nat) (positions : List Nat) : Compiler Unit :=
  modifyDraft fun d =>
    { d with jumps := d.jumps.push ⟨name, line, positions, d.active, false⟩ }

/-- Fails because a jump would lead into the scope of a variable. -/
def failScope {α : Type} (j : PendingJump) : Compiler α := do
  let x := ((← draft).declared.getD j.active default).name
  failPlain (Bytes.ofString "<goto " ++ j.name
    ++ Bytes.ofString ("> at line " ++ toString j.line ++ " jumps into the scope of local '")
    ++ x ++ Bytes.ofString "'")

/-- Puts a label here, to which the jumps of the block at hand that wait for it lead. Tells whether
some of them leave the scope of a captured variable, which is then ended here. -/
def addLabel (name : Name) (line : Nat) (isLast : Bool) : Compiler Bool := do
  let position ← mark
  let d ← draft
  let block := d.blocks.headD ⟨0, 0, 0, false, false, false⟩
  let active := if isLast then block.active else d.active
  modifyDraft fun d => { d with labels := d.labels.push ⟨name, line, position, active⟩ }
  let waiting := (d.jumps.extract block.firstJump d.jumps.size).toList
  let met := waiting.filter (·.name = name)
  match met.find? (·.active < active) with
  | some j => failScope j
  | none =>
    directTo (met.flatMap PendingJump.positions) position
    modifyDraft fun d =>
      { d with
        jumps := d.jumps.extract 0 block.firstJump ++ (waiting.filter (·.name ≠ name)).toArray }
    if met.any PendingJump.isClosing then
      discard (emit (.close (← localRegisters)))
      return true
    else return false

/-- Opens a block. -/
def enterBlock (isLoop : Bool) : Compiler Unit :=
  modifyDraft fun d =>
    let isIterating := (d.blocks.head?.map Block.isIterating).getD false
    { d with
      blocks := ⟨d.active, d.labels.size, d.jumps.size, isLoop, false, isIterating⟩ :: d.blocks }

/-- Fails because a jump has no label. -/
def failJump {α : Type} (j : PendingJump) : Compiler α :=
  let line := toString j.line
  if j.name = breakLabel then failPlain (Bytes.ofString ("break outside a loop at line " ++ line))
  else
    failPlain (Bytes.ofString "no visible label '" ++ j.name
      ++ Bytes.ofString ("' for <goto> at line " ++ line))

/-- Ends the block at hand: the scope of its variables, and the labels in it. Jumps that still wait
go on to wait in the block around it. -/
def leaveBlock : Compiler Unit := do
  let before ← draft
  match before.blocks with
  | [] => return ()
  | block :: outer =>
    let level := registersOf before block.active
    modifyDraft (deactivated block.active)
    let closed ← if block.isLoop then addLabel breakLabel 0 false else pure false
    if !closed && !outer.isEmpty && block.isCaptured then discard (emit (.close level))
    let d ← draft
    if outer.isEmpty then
      match d.jumps[block.firstJump]? with
      | some j => failJump j
      | none => pure ()
    let moved := (d.jumps.extract block.firstJump d.jumps.size).map fun j =>
      let leaves := level < registersOf before j.active
      { j with active := block.active, isClosing := j.isClosing || (leaves && block.isCaptured) }
    set { ← get with
      draft := { d with
        free := level
        labels := d.labels.extract 0 block.firstLabel
        blocks := outer
        jumps := d.jumps.extract 0 block.firstJump ++ moved } }

/-- Marks the block at hand as one whose variables are to be closed. -/
def markClosing : Compiler Unit :=
  modifyDraft fun d =>
    match d.blocks with
    | b :: outer => { d with blocks := { b with isCaptured := true, isIterating := true } :: outer }
    | [] => d

/-! ## Functions -/

/-- Opens a function that begins on a line. -/
def openFunction (line : Nat) : Compiler Unit := do
  modify fun s => { s with draft := .ofLine line, outer := s.draft :: s.outer }
  enterBlock false

/-- Ends the function at hand and gives its code. -/
def closeFunction : Compiler Prototype := do
  discard (emit (.leave (← localRegisters) (some 0)))
  leaveBlock
  let finished ← draft
  modify fun s => { s with draft := s.outer.headD default, outer := s.outer.drop 1 }
  return finished.prototype

end Compiler

end ScriptBridge.Script
