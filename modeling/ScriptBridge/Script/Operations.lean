import ScriptBridge.Script.Site

/-!
# Operations on values

What scripts do with values: reading and writing fields, arithmetic, comparison, concatenation and
text. Where a value does not have an operation, its metatable may give it one. All of it happens at
a site; the host uses the same operations.
-/

namespace ScriptBridge.Script

variable {β σ : Type}

/-- The longest chain of metatables that an access follows. -/
def chainLimit : Nat := 2000

/-- The value that a table holds under a key, if the value is a table and holds one. -/
def present? (v key : Value) : ScriptM β σ (Option Value) := do
  match v with
  | .table id =>
    match ← ScriptM.readTable id key with
    | .nil => return none
    | found => return some found
  | _ => return none

/-- The value is a table. -/
def isTable : Value → Bool
  | .table _ => true
  | _ => false

namespace Site

/-- The value under an absent key, looked up where the metatables say. -/
def indexBeyond (site : Site β σ) : Nat → Place → Value → Value → ScriptM β σ Value
  | 0, _, _, _ => site.around.failText "'__index' chain too long; possible loop"
  | limit + 1, place, v, key => do
    match (← ScriptM.heap).metamethod v "__index" with
    | .nil =>
      if isTable v then return .nil
      else site.around.failOperation "index" v (site.around.operandText place)
    | .function id => return (← site.call id [v, key]).headD .nil
    | next =>
      match ← present? next key with
      | some found => return found
      | none => site.indexBeyond limit .nowhere next key

/-- The value under a key of a value, which an operation has at a place. -/
def index (site : Site β σ) (place : Place) (v key : Value) : ScriptM β σ Value := do
  match ← present? v key with
  | some found => return found
  | none => site.indexBeyond chainLimit place v key

/-- Puts a value under a key of a table, whatever its metatable says. -/
def rawStore (site : Site β σ) (id : ObjectId) (key value : Value) : ScriptM β σ Unit :=
  match key with
  | .nil => site.around.failText "table index is nil"
  | .number d =>
    if d.isNaN then site.around.failText "table index is NaN"
    else ScriptM.modifyHeap fun h => h.modifyTable id (·.set key value)
  | _ => ScriptM.modifyHeap fun h => h.modifyTable id (·.set key value)

/-- Puts a value under an absent key, where the metatables say. -/
def storeBeyond (site : Site β σ) :
    Nat → Place → Value → Value → Value → ScriptM β σ Unit
  | 0, _, _, _, _ => site.around.failText "'__newindex' chain too long; possible loop"
  | limit + 1, place, v, key, value => do
    match (← ScriptM.heap).metamethod v "__newindex", v with
    | .nil, .table id => site.rawStore id key value
    | .nil, _ => site.around.failOperation "index" v (site.around.operandText place)
    | .function id, _ => discard (site.call id [v, key, value])
    | next, _ =>
      match next, ← present? next key with
      | .table id, some _ => site.rawStore id key value
      | _, _ => site.storeBeyond limit .nowhere next key value

/-- Puts a value under a key of a value, which an operation has at a place. -/
def store (site : Site β σ) (place : Place) (v key value : Value) : ScriptM β σ Unit := do
  match v, ← present? v key with
  | .table id, some _ => site.rawStore id key value
  | _, _ => site.storeBeyond chainLimit place v key value

end Site

/-! ## Text and numbers -/

/-- The text of an integer. -/
def integerText (i : Int64) : Bytes := Bytes.ofString (toString i.toInt)

/-- The text of a number or a string, which is what concatenation takes. -/
def plainText? : Value → Option Bytes
  | .string bytes => some bytes
  | .integer i => some (integerText i)
  | .number d => some (Bytes.ofString d.scriptText)
  | _ => none

/-- A number in hexadecimal digits, at least so many. -/
def hexText (width n : Nat) : String :=
  let digits := Nat.toDigits 16 n
  String.ofList (List.replicate (width - digits.length) '0' ++ digits)

/-- The number of an object, as its text shows it. -/
def objectNumber (id : ObjectId) : Bytes :=
  Bytes.ofString ("0x" ++ hexText 12 (0x550000000000 + 64 * id))

/-- The text of an object without a text of its own: its type and a number of its own. -/
def objectText (type : Bytes) (id : ObjectId) : Bytes :=
  type ++ Bytes.ofString ": " ++ objectNumber id

/-- The text of a value without regard to its metatable. -/
def rawText (type : Bytes) : Value → Bytes
  | .nil => Bytes.ofString "nil"
  | .boolean b => Bytes.ofString (if b then "true" else "false")
  | .integer i => integerText i
  | .number d => Bytes.ofString d.scriptText
  | .string bytes => bytes
  | .table id => objectText type id
  | .function id => objectText type id
  | .userdata id => objectText type id
  | .lightUserdata id => objectText type id
  | .thread id => objectText type id
  | .failure e _ => Bytes.ofString e.message

/-- The text of a value. -/
def Site.textOf (site : Site β σ) (v : Value) : ScriptM β σ Bytes := do
  match (← ScriptM.heap).metamethod v "__tostring" with
  | .nil => return rawText (← shownType v) v
  | m =>
    match ← site.callFirst m [v] with
    | .string bytes => return bytes
    | .integer i => return integerText i
    | .number d => return Bytes.ofString d.scriptText
    | _ => site.around.failAtCaller (Bytes.ofString "'__tostring' must return a string")

/-- The number line place of a number, in the units of doubles. -/
def place? : Value → Option Int
  | .integer i => some (i.toInt * Double.unitsPerOne)
  | .number d => d.place
  | _ => none

namespace Site

/-- What a metamethod makes of two values: that of the first one, or else of the second one. -/
def metamethodOf (event : String) (a b : Value) : ScriptM β σ Value := do
  let heap ← ScriptM.heap
  match heap.metamethod a event with
  | .nil => return heap.metamethod b event
  | m => return m

/-! ## Arithmetic -/

/-- Fails because operands have no operator. The first operand that is no number is named. -/
def failArithmetic {α : Type} (site : Site β σ) (isBitwise : Bool) (a b : Value)
    (placeA placeB : Place) : ScriptM β σ α := do
  if isBitwise && a.kind.isNumber && b.kind.isNumber then
    let place := if (integral? a).isNone then placeA else placeB
    site.around.fail (Bytes.ofString "number" ++ site.around.operandText place
      ++ Bytes.ofString " has no integer representation")
  else
    let (v, place) := if a.kind.isNumber then (b, placeB) else (a, placeA)
    let operation :=
      if isBitwise then "perform bitwise operation on" else "perform arithmetic on"
    site.around.failOperation operation v (site.around.operandText place)

/-- The result of an operator on operands that are not such numbers as it takes. -/
def arithmeticBeyond (site : Site β σ) (op : ArithmeticOp) (a b : Value)
    (placeA placeB : Place) : ScriptM β σ Value := do
  match ← metamethodOf op.event a b with
  | .nil => site.failArithmetic op.isBitwise a b placeA placeB
  | m => site.callFirst m [a, b]

/-- The result of an operator. -/
def arithmetic (site : Site β σ) (op : ArithmeticOp) (a b : Value) : ScriptM β σ Value :=
  match op.plain? a b with
  | some (.ok v) => return v
  | some (.error reason) => site.around.failText reason
  | none => site.arithmeticBeyond op a b .nowhere .nowhere

/-- The negation of a value. -/
def negate (site : Site β σ) (v : Value) (place : Place) : ScriptM β σ Value := do
  match v with
  | .integer i => return .integer (-i)
  | .number d => return .number d.neg
  | _ =>
    match (← ScriptM.heap).metamethod v "__unm" with
    | .nil => site.failArithmetic false v v place place
    | m => site.callFirst m [v, v]

/-- The complement of a value's bits. -/
def complement (site : Site β σ) (v : Value) (place : Place) : ScriptM β σ Value := do
  match integral? v with
  | some i => return .integer (Int64.ofUInt64 (~~~ i.toUInt64))
  | none =>
    match (← ScriptM.heap).metamethod v "__bnot" with
    | .nil => site.failArithmetic true v v place place
    | m => site.callFirst m [v, v]

/-- The length of a table, which remembers where its end was found. -/
def tableLength (id : ObjectId) : ScriptM β σ Value :=
  ScriptM.allocate fun h =>
    let (length, t) := (h.table id).measured
    (.integer (Int64.ofNat length), h.modifyTable id fun _ => t)

/-- The length of a value. -/
def lengthOf (site : Site β σ) (v : Value) (place : Place) : ScriptM β σ Value := do
  match v with
  | .string bytes => return .integer (Int64.ofNat bytes.length)
  | _ =>
    match (← ScriptM.heap).metamethod v "__len", v with
    | .nil, .table id => tableLength id
    | .nil, _ => site.around.failOperation "get length of" v (site.around.operandText place)
    | m, _ => site.callFirst m [v, v]

/-- The concatenation of two values. -/
def concat (site : Site β σ) (a b : Value) (placeA placeB : Place) : ScriptM β σ Value := do
  match plainText? a, plainText? b with
  | some x, some y => return .string (x ++ y)
  | x, _ =>
    match ← metamethodOf "__concat" a b with
    | .nil =>
      let (v, place) := if x.isSome then (b, placeB) else (a, placeA)
      site.around.failOperation "concatenate" v (site.around.operandText place)
    | m => site.callFirst m [a, b]

/-! ## Comparison -/

/-- Equality without metatables. Numbers are equal by their places. -/
def rawEqual (a b : Value) : Bool :=
  match a, b with
  | .integer x, .integer y => x = y
  | _, _ =>
    if a.kind.isNumber && b.kind.isNumber then
      match place? a, place? b with
      | some x, some y => x = y
      | _, _ => false
    else a = b

/-- Values for which a metatable may say that they are equal. -/
def mayBeEqual : Value → Value → Bool
  | .table _, .table _ => true
  | .userdata _, .userdata _ => true
  | _, _ => false

/-- Equality of values of which metatables may say that they are equal. -/
def equalBeyond (site : Site β σ) (a b : Value) : ScriptM β σ Bool := do
  match ← metamethodOf "__eq" a b with
  | .nil => return false
  | m => return (← site.callFirst m [a, b]).isTrue

/-- Fails because two values have no order. -/
def failOrder {α : Type} (site : Site β σ) (a b : Value) : ScriptM β σ α := do
  let x := (← shownType a).untilZero
  let y := (← shownType b).untilZero
  if x = y then
    site.around.fail (Bytes.ofString "attempt to compare two " ++ x ++ Bytes.ofString " values")
  else
    site.around.fail
      (Bytes.ofString "attempt to compare " ++ x ++ Bytes.ofString " with " ++ y)

/-- The metamethod of an order. -/
def orderEvent : OrderOp → String
  | .less => "__lt"
  | .atMost => "__le"

/-- The order of values without metatables: numbers by their places, strings by their bytes. -/
def plainOrder? (op : OrderOp) (a b : Value) : Option Bool :=
  match a, b with
  | .integer x, .integer y =>
    match op with
    | .less => some (x < y)
    | .atMost => some (x ≤ y)
  | .string x, .string y =>
    match op with
    | .less => some (x < y)
    | .atMost => some (!decide (y < x))
  | _, _ =>
    if a.kind.isNumber && b.kind.isNumber then
      match op, place? a, place? b with
      | .less, some x, some y => some (x < y)
      | .atMost, some x, some y => some (x ≤ y)
      | _, _, _ => some false
    else none

/-- The order of values of which metatables say how they are ordered. -/
def orderBeyond (site : Site β σ) (op : OrderOp) (a b : Value) : ScriptM β σ Bool := do
  match ← metamethodOf (orderEvent op) a b with
  | .nil => site.failOrder a b
  | m => return (← site.callFirst m [a, b]).isTrue

end Site

end ScriptBridge.Script
