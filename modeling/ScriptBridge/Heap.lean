import ScriptBridge.Callback
import ScriptBridge.Config
import ScriptBridge.Script.Instruction
import ScriptBridge.Table.Basic

/-!
# The heap of the script engine

Tables, functions and variable cells live in the heap, and values name them by number. Object `0`
among the tables holds the globals. Userdata have no content; those that stand for files share a
metatable, and so do strings. Errors of the host become objects when a script gets them.
-/

namespace ScriptBridge

/-- A function of the heap: a host callback with the configuration that its frames get, a function
of a script, one of the libraries, or one that takes anything and gives nothing. -/
inductive FunctionObject (β : Type) where
  | host (callback : Callback β) (config : Config)
  | closure (c : Script.Closure)
  | builtin (b : Script.Builtin)
  | inert

/-- The objects of the engine. Objects without content are numbered from `1` on. `libraries` is the
table of the libraries that were loaded, by their names. -/
structure Heap (β : Type) where
  tables : Array Table
  functions : Array (FunctionObject β)
  cells : Array Value
  objectCount : Nat
  files : List ObjectId
  stringMetatable : Option ObjectId
  fileMetatable : Option ObjectId
  libraries : Option ObjectId

namespace Heap

variable {β : Type}

/-- The heap with nothing but an empty table for the globals. -/
def initial : Heap β := ⟨#[.empty], #[], #[], 1, [], none, none, none⟩

/-- The table of the globals. -/
def globals : ObjectId := 0

/-- The table of a number, the empty one where there is none. -/
def table (h : Heap β) (id : ObjectId) : Table := (h.tables[id]?).getD .empty

/-- The heap with a table changed. -/
def modifyTable (h : Heap β) (id : ObjectId) (f : Table → Table) : Heap β :=
  { h with tables := h.tables.modify id f }

/-- The heap with one more table, and its number. -/
def allocTable (h : Heap β) (t : Table) : ObjectId × Heap β :=
  (h.tables.size, { h with tables := h.tables.push t })

/-- The heap with one more function, and its number. -/
def allocFunction (h : Heap β) (f : FunctionObject β) : ObjectId × Heap β :=
  (h.functions.size, { h with functions := h.functions.push f })

/-- The heap with one more cell, and its number. -/
def allocCell (h : Heap β) (v : Value) : ObjectId × Heap β :=
  (h.cells.size, { h with cells := h.cells.push v })

/-- The content of a cell. -/
def cell (h : Heap β) (id : ObjectId) : Value := (h.cells[id]?).getD .nil

/-- The heap with a cell overwritten. -/
def setCell (h : Heap β) (id : ObjectId) (v : Value) : Heap β :=
  { h with cells := h.cells.setIfInBounds id v }

/-- The heap with one more object without content, and its number. -/
def allocObject (h : Heap β) : ObjectId × Heap β :=
  (h.objectCount, { h with objectCount := h.objectCount + 1 })

/-- The value under a key of a table, and the heap in which the table remembers the look-up. -/
def read (h : Heap β) (id : ObjectId) (key : Value) : Value × Heap β :=
  let t := h.table id
  (t.get key, if t.layout.notices key.normalKey then h.modifyTable id (·.touched key) else h)

/-- The metatable of a value. -/
def metatable (h : Heap β) : Value → Option ObjectId
  | .table id => (h.table id).metatable
  | .string _ => h.stringMetatable
  | .userdata id => if h.files.contains id then h.fileMetatable else none
  | _ => none

/-- The metamethod of a value under a name, nil when it has none. -/
def metamethod (h : Heap β) (v : Value) (event : String) : Value :=
  match h.metatable v with
  | some id => (h.table id).get (.text event)
  | none => .nil

/-- A value as scripts get it from the host: an error gets a mark of its own. -/
def attach (h : Heap β) : Value → Value × Heap β
  | .failure e _ =>
    let (mark, h) := h.allocObject
    (.failure e mark, h)
  | v => (v, h)

/-- Values as scripts get them from the host. -/
def attachAll (h : Heap β) : List Value → List Value × Heap β
  | [] => ([], h)
  | v :: rest =>
    let (v, h) := h.attach v
    let (rest, h) := h.attachAll rest
    (v :: rest, h)

end Heap

end ScriptBridge
