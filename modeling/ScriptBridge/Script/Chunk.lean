import ScriptBridge.Script.Parser
import ScriptBridge.Stack.Invoke

/-!
# Loading and running scripts

A script is loaded as a chunk, a function without parameters under the name that messages show, and
run once. A script of a file is named by its path, one given as text by any name; a long name is
cut to what messages have room for, a path at its beginning and another name at its end.
-/

namespace ScriptBridge

open HostM

namespace Script

/-- How many bytes of a chunk's name messages have room for. -/
def nameRoom : Nat := 59

/-- The name of a chunk that was given as text. -/
def shownName (name : Bytes) : Bytes := name.take nameRoom

/-- The name of a chunk that was read from a file: its end, when it is too long. -/
def shownPath (path : Bytes) : Bytes :=
  if path.length ≤ nameRoom then path
  else Bytes.ofString "..." ++ path.drop (path.length - (nameRoom - 3))

/-- The byte that marks a compiled script. -/
def compiledMark : UInt8 := 0x1b

/-- What a compiled script begins with after its mark, part by part, and what it is when a part is
another one. -/
def compiledHeader : List (Bytes × String) :=
  [(Bytes.ofString "Lua", "not a binary chunk"), ([0x54], "version mismatch"),
    ([0x00], "format mismatch"), ([0x19, 0x93, 0x0d, 0x0a, 0x1a, 0x0a], "corrupted chunk"),
    ([4], "Instruction size mismatch"), ([8], "lua_Integer size mismatch"),
    ([8], "lua_Number size mismatch"),
    ([0x78, 0x56, 0, 0, 0, 0, 0, 0], "integer format mismatch"),
    ([0, 0, 0, 0, 0, 0x28, 0x77, 0x40], "float format mismatch")]

/-- Why bytes are no compiled script that goes on with a header. No compiled script is accepted:
one with the whole header counts as cut off after it. -/
def compiledFault : List (Bytes × String) → Bytes → String
  | [], _ => "truncated chunk"
  | (part, fault) :: parts, bytes =>
    if bytes.length < part.length then "truncated chunk"
    else if part.isPrefixOf bytes then compiledFault parts (bytes.drop part.length)
    else fault

/-- The refusal of bytes that begin with the mark of a compiled script. `name` is the full name of
the chunk. -/
def compiledRefusal (name rest : Bytes) : Bytes :=
  name ++ Bytes.ofString (": bad binary format (" ++ compiledFault compiledHeader rest ++ ")")

/-- The text of the reason why a script cannot be loaded. -/
def LoadError.text (shown : Bytes) : LoadError → Bytes
  | fault line text => shown ++ Bytes.ofString (":" ++ toString line ++ ": ") ++ text
  | tooDeep => Bytes.ofString "C stack overflow"

/-- The code that the bytes of a script are, or the text of the reason why they are none. The script
is read within so many calls. -/
def compile (name shown source : Bytes) (level : Nat) : Except Bytes Prototype :=
  if source.head? = some compiledMark then .error (compiledRefusal name (source.drop 1))
  else (parse source level).mapError (LoadError.text shown)

end Script

variable {β σ : Type}

/-- The position of the first zero byte. -/
def zeroByte? (bytes : Bytes) : Option Nat := bytes.findIdx? (· = 0)

namespace StackM

/-- Ends a run: a failure is reported in the journal and as an error. -/
def settle (outcome : Except ScriptError Unit) : StackM β σ Unit :=
  match outcome with
  | .ok () => return ()
  | .error e => do
    log .warn e.text
    fail (.script e)

/-- Runs a script once. `name` is its full name and `shown` the name that messages show. -/
def runChunk (site : Script.Site β σ) (name shown source : Bytes) :
    StackM β σ (Except ScriptError Unit) := do
  match Script.compile name shown source site.around.level with
  | .error text =>
    return .error ⟨.load, (LuaError.syntaxError text.toStringLossy).diagnostic⟩
  | .ok f =>
    let action : ScriptM β σ Unit := do
      let cell ← ScriptM.allocate fun h => h.allocCell (.table Heap.globals)
      let id ← ScriptM.allocate fun h => h.allocFunction (.closure ⟨f, #[cell], shown⟩)
      discard (callFunction site id [])
    match ← attemptScript site action with
    | .ok () => return .ok ()
    | .error e => return .error ⟨.runtime, e.diagnostic⟩

/-- Runs a script that is given as text under a name. A name with a zero byte, counted with the
mark before it, is none. -/
def runSource (site : Script.Site β σ) (source name : String) : StackM β σ Unit := do
  let bytes := Bytes.ofString name
  match zeroByte? (Bytes.ofString ("=" ++ name)) with
  | some position =>
    settle (.error ⟨.load, "invalid name: nul byte found in provided data at position: "
      ++ toString position⟩)
  | none => settle (← runChunk site bytes (Script.shownName bytes) (Bytes.ofString source))

/-- Runs the script of a file, given what reading the file at the path gives. -/
def runFile (site : Script.Site β σ) (path : String) (contents : Except String Bytes) :
    StackM β σ Unit := do
  log .debug ("running script " ++ path)
  match contents with
  | .error reason => settle (.error ⟨.load, "cannot open " ++ path ++ ": " ++ reason⟩)
  | .ok source =>
    let bytes := Bytes.ofString path
    settle (← runChunk site bytes (Script.shownPath bytes) source)

end StackM

end ScriptBridge
