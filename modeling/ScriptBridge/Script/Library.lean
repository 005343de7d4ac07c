import ScriptBridge.Script.Count

/-!
# The libraries of scripts

`Builtin.run` says what the library functions do, and `libraryHeap` is the heap of a fresh engine:
the base functions are always there, the other libraries when they are asked for. Functions that a
script can only hold, and not use, are there too. What is wrong with an argument is told under the
name by which the function was called, or else under the one by which a library holds it.
-/

namespace ScriptBridge.Script

variable {β σ : Type}

/-- The name of the first entry of a table that holds a value. -/
def entryName? (t : Table) (v : Value) : Option Bytes :=
  t.toList.findSome? fun
    | (.string name, held) => if held = v then some name else none
    | _ => none

/-- The name by which some library holds a function: that of the library before its own, unless the
function is a global. -/
def libraryName? (h : Heap β) (id : ObjectId) : Option Bytes :=
  h.libraries.bind fun loaded =>
    (h.table loaded).toList.findSome? fun
      | (.string library, .table t) =>
        (entryName? (h.table t) (.function id)).map fun name =>
          if library = Bytes.ofString "_G" then name
          else library ++ Bytes.ofString "." ++ name
      | _ => none

/-- A library function that was called: its number in the heap, its site, and its arguments. -/
structure LibraryCall (β σ : Type) where
  id : ObjectId
  site : Site β σ
  args : List Value

/-- A new function value. -/
def newFunction (f : FunctionObject β) : ScriptM β σ Value := do
  return .function (← ScriptM.allocate fun h => h.allocFunction f)

/-- The part of a list between two positions, counted from the end when negative. -/
def slice (bytes : Bytes) (first last : Int) : Bytes :=
  let size : Int := bytes.length
  let first := if first < 0 then max 1 (size + first + 1) else max 1 first
  let last := if last < 0 then size + last + 1 else min last size
  (bytes.drop (first - 1).toNat).take (last - first + 1).toNat

/-- The entry after a key, in the order of the entries. -/
def entryAfter (key : Value) : List (Value × Value) → Option (Option (Value × Value))
  | [] => none
  | (k, _) :: rest => if k = key then some rest.head? else entryAfter key rest

namespace LibraryCall

variable {α : Type}

/-- An argument, nil where there is none. -/
def arg (c : LibraryCall β σ) (position : Nat) : Value := c.args.getD (position - 1) .nil

/-- Fails with a message of the function that called the library. -/
def fail (c : LibraryCall β σ) (text : String) : ScriptM β σ α :=
  c.site.around.failAtCaller (Bytes.ofString text)

/-- Fails because of an argument. The object of a method is not counted. -/
def badArgument (c : LibraryCall β σ) (position : Nat) (reason : Bytes) : ScriptM β σ α := do
  let refuse (position : Nat) (name : Bytes) : ScriptM β σ α :=
    c.site.around.failAtCaller
      (Bytes.ofString ("bad argument #" ++ toString position ++ " to '") ++ name
        ++ Bytes.ofString "' (" ++ reason ++ Bytes.ofString ")")
  match (c.site.around.trail.frameAt? 1).bind Frame.calleeOrigin? with
  | some o =>
    if o.role = "method" then
      if position = 1 then
        c.site.around.failAtCaller
          (Bytes.ofString "calling '" ++ o.name.untilZero ++ Bytes.ofString "' on bad self ("
            ++ reason ++ Bytes.ofString ")")
      else refuse (position - 1) o.name.untilZero
    else refuse position o.name.untilZero
  | none => refuse position ((libraryName? (← ScriptM.heap) c.id).getD (Bytes.ofString "?"))

/-- The name of an argument's type in messages. -/
def argType (c : LibraryCall β σ) (position : Nat) : ScriptM β σ Bytes := do
  match c.args[position - 1]? with
  | none => return Bytes.ofString "no value"
  | some v =>
    match (← ScriptM.heap).metamethod v "__name", v with
    | .string bytes, _ => return bytes.untilZero
    | _, .lightUserdata _ => return Bytes.ofString "light userdata"
    | _, _ => return Bytes.ofString (typeName v)

/-- Fails because an argument is of another type. -/
def badType (c : LibraryCall β σ) (position : Nat) (expected : String) : ScriptM β σ α := do
  let found ← c.argType position
  c.badArgument position (Bytes.ofString (expected ++ " expected, got ") ++ found)

/-- Makes sure that there is an argument. -/
def need (c : LibraryCall β σ) (position : Nat) : ScriptM β σ Unit :=
  if c.args.length < position then c.badArgument position (Bytes.ofString "value expected")
  else return ()

/-- The table that an argument has to be. -/
def tableArg (c : LibraryCall β σ) (position : Nat) : ScriptM β σ ObjectId :=
  match c.arg position with
  | .table id => return id
  | _ => c.badType position "table"

/-- The number that an argument has to be. -/
def numberArg (c : LibraryCall β σ) (position : Nat) : ScriptM β σ Value :=
  match (c.arg position).numeric? with
  | some v => return v
  | none => c.badType position "number"

/-- The integer that an argument has to be. -/
def integerArg (c : LibraryCall β σ) (position : Nat) : ScriptM β σ Int := do
  match integral? (← c.numberArg position) with
  | some i => return i.toInt
  | none => c.badArgument position (Bytes.ofString "number has no integer representation")

/-- The integer that an argument has to be, unless there is none. -/
def integerArgOr (c : LibraryCall β σ) (position : Nat) (other : Int) : ScriptM β σ Int :=
  match c.arg position with
  | .nil => return other
  | _ => c.integerArg position

/-- The text that an argument has to be. -/
def textArg (c : LibraryCall β σ) (position : Nat) : ScriptM β σ Bytes :=
  match plainText? (c.arg position) with
  | some bytes => return bytes
  | none => c.badType position "string"

/-- Fails because arithmetic does not take values as texts of numbers. -/
def failTexts (c : LibraryCall β σ) (event : String) : ScriptM β σ α :=
  c.fail ("attempt to " ++ (event.drop 2).toString ++ " a '" ++ typeName (c.arg 1) ++ "' with a '"
    ++ typeName (c.arg 2) ++ "'")

/-- The arithmetic of texts of numbers. A second argument that is no text may have its own. -/
def textArithmetic (c : LibraryCall β σ) (event : String)
    (compute : Value → Value → ScriptM β σ Value) : ScriptM β σ (List Value) := do
  let a := c.arg 1
  let b := c.arg 2
  match a.numeric?, b.numeric? with
  | some x, some y => return [← compute x y]
  | _, _ =>
    match b, (← ScriptM.heap).metamethod b event with
    | .string _, _ => c.failTexts event
    | _, .nil => c.failTexts event
    | _, m => return [← c.site.callFirst m [a, b]]

/-- Calls a value so that an error is a result. -/
def protectedCall (c : LibraryCall β σ) : ScriptM β σ (List Value) := do
  c.need 1
  let s := c.site.around
  let site : Site β σ :=
    ⟨c.site.engine, { s with slot := s.slot + 1 - c.args.length, isReported := false }⟩
  match ← ScriptM.attempt (site.callValue (c.arg 1) (c.args.drop 1)) with
  | .ok vs => return .boolean true :: vs
  | .error v => return [.boolean false, v]

/-- Raises the first argument. A text gets the place of the function so many calls further out, a
number of 32 bits. -/
def raise (c : LibraryCall β σ) : ScriptM β σ (List Value) := do
  let level := (← c.integerArgOr 2 1).bmod (pow2 32)
  match c.arg 1 with
  | .string bytes =>
    if 0 < level then
      c.site.around.raise (.string (c.site.around.trail.place level.toNat ++ bytes))
    else c.site.around.raise (.string bytes)
  | v => c.site.around.raise v

/-- The arguments after so many, or their count. -/
def select (c : LibraryCall β σ) : ScriptM β σ (List Value) := do
  let count : Int := c.args.length
  match c.arg 1 with
  | .string (0x23 :: _) => return [.integer (Int64.ofInt (count - 1))]
  | _ => do
    let n ← c.integerArg 1
    let n := if n < 0 then count + n else min n count
    if n < 1 then c.badArgument 1 (Bytes.ofString "index out of range")
    else return c.args.drop n.toNat

end LibraryCall

namespace Builtin

/-- What a library function does. -/
def run (b : Builtin) (c : LibraryCall β σ) : ScriptM β σ (List Value) := do
  let first := c.arg 1
  match b with
  | assert => do
    if first.isTrue then return c.args
    else
      c.need 1
      match c.args.drop 1 with
      | message :: _ => c.site.around.raise message
      | [] => c.fail "assertion failed!"
  | error => c.raise
  | getMetatable => do
    c.need 1
    let heap ← ScriptM.heap
    match heap.metatable first with
    | none => return [.nil]
    | some id =>
      match (heap.table id).get (.text "__metatable") with
      | .nil => return [.table id]
      | v => return [v]
  | ipairs => do
    c.need 1
    return [← newFunction (.builtin ipairsStep), first, .integer 0]
  | ipairsStep => do
    let i ← c.integerArg 2
    let next := Value.integer (Int64.ofInt (i + 1))
    match ← c.site.index .nowhere first next with
    | .nil => return [.nil]
    | v => return [next, v]
  | next => do
    let entries := ((← ScriptM.heap).table (← c.tableArg 1)).toList
    let found := match (c.arg 2).normalKey with
      | .nil => some entries.head?
      | key => entryAfter key entries
    match found with
    | some (some (k, v)) => return [k, v]
    | some none => return [.nil]
    | none => c.site.around.failText "invalid key to 'next'"
  | pairs => do
    c.need 1
    match (← ScriptM.heap).metamethod first "__pairs" with
    | .nil => return [← newFunction (.builtin next), first, .nil]
    | m => do
      let vs ← c.site.callValue m [first]
      return (vs ++ List.replicate 3 Value.nil).take 3
  | pcall => c.protectedCall
  | print => do
    c.args.forM fun v => discard (c.site.textOf v)
    return []
  | rawEqual => do
    c.need 1
    c.need 2
    return [.boolean (Site.rawEqual first (c.arg 2))]
  | rawGet => do
    let id ← c.tableArg 1
    c.need 2
    return [← ScriptM.readTable id (c.arg 2)]
  | rawLen =>
    match first with
    | .table id => do return [← Site.tableLength id]
    | .string bytes => return [.integer (Int64.ofNat bytes.length)]
    | _ => c.badType 1 "table or string"
  | rawSet => do
    let id ← c.tableArg 1
    c.need 2
    c.need 3
    discard (present? first (c.arg 2))
    c.site.rawStore id (c.arg 2) (c.arg 3)
    return [first]
  | select => c.select
  | setMetatable => do
    let id ← c.tableArg 1
    let metatable ← match c.args.drop 1 with
      | .nil :: _ => pure none
      | .table m :: _ => pure (some m)
      | _ => c.badType 2 "nil or table"
    if (← ScriptM.heap).metamethod first "__metatable" ≠ .nil then
      c.fail "cannot change a protected metatable"
    else
      ScriptM.modifyHeap fun h => h.modifyTable id fun t => { t with metatable := metatable }
      return [first]
  | toNumber => do
    c.need 1
    return [first.numeric?.getD .nil]
  | toString => do
    c.need 1
    return [.string (← c.site.textOf first)]
  | type => do
    c.need 1
    return [.text (typeName first)]
  | createThread =>
    match first with
    | .function _ => do return [.thread (← ScriptM.allocate fun h => h.allocObject)]
    | _ => c.badType 1 "function"
  | mathFloor => do
    match ← c.numberArg 1 with
    | .number d =>
      let floor := d.floor
      return [(floor.exactInteger?.map Value.integer).getD (.number floor)]
    | v => return [v]
  | mathType => do
    c.need 1
    match first with
    | .integer _ => return [.text "integer"]
    | .number _ => return [.text "float"]
    | _ => return [.nil]
  | mathToInteger => do
    c.need 1
    return [((first.numeric?.bind integral?).map Value.integer).getD .nil]
  | stringLength => do return [.integer (Int64.ofNat (← c.textArg 1).length)]
  | stringUpper => do
    return [.string ((← c.textArg 1).map fun b =>
      if 97 ≤ b.toNat ∧ b.toNat ≤ 122 then b - 32 else b)]
  | stringLower => do
    return [.string ((← c.textArg 1).map fun b =>
      if 65 ≤ b.toNat ∧ b.toNat ≤ 90 then b + 32 else b)]
  | stringRepeat => do
    let bytes ← c.textArg 1
    let count ← c.integerArg 2
    let between ← if c.arg 3 = .nil then pure [] else c.textArg 3
    return [.string (between.intercalate (List.replicate count.toNat bytes))]
  | stringSub => do
    let bytes ← c.textArg 1
    let start ← c.integerArg 2
    let last ← c.integerArgOr 3 (-1)
    return [.string (slice bytes start last)]
  | arithmetic op => c.textArithmetic op.event fun x y => c.site.arithmetic op x y
  | negateText => c.textArithmetic "__unm" fun x _ => c.site.negate x .nowhere
  | fileText =>
    match first with
    | .userdata id => return [.string (Bytes.ofString "file (" ++ objectNumber id
        ++ Bytes.ofString ")")]
    | _ => c.badType 1 "FILE*"
  | absent name => c.fail ("'" ++ name ++ "' is not available")

end Builtin

/-! ## The heap of a fresh engine -/

/-- What a library holds under a name. -/
inductive LibraryItem where
  | function (b : Builtin)
  | value (v : Value)
  | file
  | libraries
  | table (items : List (String × LibraryItem))

/-- The base functions. -/
def baseLibrary : List (String × LibraryItem) :=
  [("_G", .value (.table Heap.globals)), ("_VERSION", .value (.text "Lua 5.4")),
    ("assert", .function .assert), ("error", .function .error),
    ("getmetatable", .function .getMetatable), ("ipairs", .function .ipairs),
    ("next", .function .next), ("pairs", .function .pairs), ("pcall", .function .pcall),
    ("print", .function .print), ("rawequal", .function .rawEqual),
    ("rawget", .function .rawGet), ("rawlen", .function .rawLen), ("rawset", .function .rawSet),
    ("select", .function .select), ("setmetatable", .function .setMetatable),
    ("tonumber", .function .toNumber), ("tostring", .function .toString),
    ("type", .function .type)]
  ++ ["collectgarbage", "dofile", "load", "loadfile", "warn", "xpcall"].map fun name =>
    (name, .function (.absent name))

/-- A library of functions that scripts can only hold, with those that they can use. -/
def libraryOf (names : List String) (items : List (String × LibraryItem)) : LibraryItem :=
  .table (items ++ names.map fun name => (name, .function (.absent name)))

/-- The arithmetic of texts of numbers. -/
def stringMetamethods : List (String × LibraryItem) :=
  [ArithmeticOp.add, .sub, .mul, .mod, .pow, .div, .floorDiv].map (fun op =>
    (op.event, LibraryItem.function (.arithmetic op))) ++ [("__unm", .function .negateText)]

/-- The libraries besides the base functions. -/
def otherLibraries : List (String × LibraryItem) :=
  [("math", libraryOf
      ["abs", "acos", "asin", "atan", "ceil", "cos", "deg", "exp", "fmod", "log", "max", "min",
        "modf", "rad", "random", "randomseed", "sin", "sqrt", "tan", "ult"]
      [("huge", .value (.number .infinity)),
        ("maxinteger", .value (.integer (Int64.maxValue))),
        ("mininteger", .value (.integer (Int64.minValue))),
        ("pi", .value (.number ⟨0x400921fb54442d18⟩)),
        ("floor", .function .mathFloor), ("type", .function .mathType),
        ("tointeger", .function .mathToInteger)]),
    ("string", libraryOf
      ["byte", "char", "dump", "find", "format", "gmatch", "gsub", "match", "pack", "packsize",
        "reverse", "unpack"]
      [("len", .function .stringLength), ("lower", .function .stringLower),
        ("rep", .function .stringRepeat), ("sub", .function .stringSub),
        ("upper", .function .stringUpper)]),
    ("coroutine", libraryOf
      ["close", "isyieldable", "resume", "running", "status", "wrap", "yield"]
      [("create", .function .createThread)]),
    ("table", libraryOf ["concat", "insert", "move", "pack", "remove", "sort", "unpack"] []),
    ("io", libraryOf
      ["close", "flush", "input", "lines", "open", "output", "popen", "read", "tmpfile", "type",
        "write"]
      [("stdin", .file), ("stdout", .file), ("stderr", .file)]),
    ("os", libraryOf
      ["clock", "date", "difftime", "execute", "exit", "getenv", "remove", "rename", "setlocale",
        "time", "tmpname"] []),
    ("utf8", libraryOf ["char", "codes", "codepoint", "len", "offset"]
      [("charpattern", .value (.string
        [0x5b, 0x00, 0x2d, 0x7f, 0xc2, 0x2d, 0xfd, 0x5d, 0x5b, 0x80, 0x2d, 0xbf, 0x5d, 0x2a]))]),
    ("package", libraryOf ["loadlib", "searchpath"]
      [("config", .value (.text "/\n;\n?\n!\n-\n")), ("cpath", .value (.text "")),
        ("path", .value (.text "")), ("loaded", .libraries), ("preload", .table []),
        ("searchers", .table [])]),
    ("require", .function (.absent "require"))]

/-- What files have in common. -/
def fileMetamethods : List (String × LibraryItem) :=
  [("__name", .value (.text "FILE*")),
    ("__index", libraryOf ["close", "flush", "lines", "read", "seek", "setvbuf", "write"] []),
    ("__tostring", .function .fileText)]

mutual

/-- Puts a library item into the heap. -/
def installItem (h : Heap β) : LibraryItem → Value × Heap β
  | .function b =>
    let (id, h) := h.allocFunction (.builtin b)
    (.function id, h)
  | .value v => (v, h)
  | .file =>
    let (id, h) := h.allocObject
    (.userdata id, { h with files := id :: h.files })
  | .libraries => ((h.libraries.map Value.table).getD .nil, h)
  | .table items =>
    let (id, h) := h.allocTable .empty
    (.table id, installItems h id items)

/-- Puts library items into a table of the heap. -/
def installItems (h : Heap β) (id : ObjectId) : List (String × LibraryItem) → Heap β
  | [] => h
  | (name, item) :: rest =>
    let (v, h) := installItem h item
    installItems (h.modifyTable id (·.set (.text name) v)) id rest

end

/-- The heap with a table for the libraries that are loaded, and the base functions. -/
def baseHeap : Heap β :=
  let h : Heap β := Heap.initial
  let (id, h) := h.allocTable .empty
  let h := installItems { h with libraries := some id } Heap.globals baseLibrary
  h.modifyTable id (·.set (.text "_G") (.table Heap.globals))

/-- The heap with a library noted as loaded, when it is a table among the globals. -/
def noteLibrary (h : Heap β) (name : String) : Heap β :=
  match h.libraries, (h.table Heap.globals).get (.text name) with
  | some id, .table t => h.modifyTable id (·.set (.text name) (.table t))
  | _, _ => h

/-- The heap of a fresh engine. With the libraries, texts have the functions of the string library
as their fields, and the arithmetic of numbers. -/
def libraryHeap (openLibs : Bool) : Heap β :=
  if openLibs then
    let h := installItems baseHeap Heap.globals otherLibraries
    let h := (otherLibraries.map Prod.fst).foldl noteLibrary h
    let strings := (h.table Heap.globals).get (.text "string")
    let (id, h) := h.allocTable .empty
    let h := installItems h id stringMetamethods
    let h := h.modifyTable id (·.set (.text "__index") strings)
    let (files, h) := h.allocTable .empty
    let h := installItems h files fileMetamethods
    { h with stringMetatable := some id, fileMetatable := some files }
  else baseHeap

end ScriptBridge.Script
