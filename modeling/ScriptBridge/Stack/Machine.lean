import ScriptBridge.Script.Operations
import ScriptBridge.Stack.Basic

/-!
# Actions on a stack

A machine is a stack together with the world that it shares with scripts and other stacks. The
actions of this module push and remove values, read and write globals and fields, and register
callbacks. Those that can run a metamethod take the site at which the host does so. Errors that the
host hands over become objects of their own for scripts; the host itself holds them as they are.
-/

namespace ScriptBridge

/-- A stack in its world. -/
structure Machine (β σ : Type) where
  stack : Stack
  world : World β σ

/-- An action on a stack that may fail with errors of a type. -/
abbrev HostM (ε β σ : Type) : Type → Type := EStateM (Failure ε) (Machine β σ)

/-- An action on a stack. -/
abbrev StackM (β σ : Type) : Type → Type := HostM StackError β σ

variable {ε β σ α : Type}

namespace HostM

/-- Fails with an error. -/
def fail (e : ε) : HostM ε β σ α := throw (.error e)

/-- The stack. -/
def stack : HostM ε β σ Stack := return (← get).stack

/-- Replaces the stack. -/
def setStack (s : Stack) : HostM ε β σ Unit := modify fun m => { m with stack := s }

/-- The host memory. -/
def memory : HostM ε β σ σ := return (← get).world.memory

/-- Changes the host memory. -/
def modifyMemory (f : σ → σ) : HostM ε β σ Unit :=
  modify fun m => { m with world := { m.world with memory := f m.world.memory } }

/-- Adds a record to the journal. -/
def log (level : LogLevel) (text : String) : HostM ε β σ Unit :=
  modify fun m => { m with world := { m.world with journal := m.world.journal ++ [⟨level, text⟩] } }

/-- Runs an action with its errors replaced. -/
def mapError {ε' : Type} (f : ε → ε') (action : HostM ε β σ α) : HostM ε' β σ α :=
  EStateM.adaptExcept (Failure.map f) action

/-- Runs an action so that its error is a result. Panics pass. -/
def attempt (action : HostM ε β σ α) : HostM ε β σ (Except ε α) := fun m =>
  match action m with
  | .ok a m' => .ok (.ok a) m'
  | .error (.error e) m' => .ok (.error e) m'
  | .error (.panic text) m' => .error (.panic text) m'
  | .error .exhausted m' => .error .exhausted m'

end HostM

open HostM

/-- What the host makes of a thrown value: its own errors as they were, the text of any other value
up to a zero byte. When giving that text throws in turn, that is the value, at most so often. -/
def LuaError.ofThrownWithin (site : Script.Site β σ) : Nat → Value → ScriptM β σ LuaError
  | _, .failure e _ => return e
  | 0, _ => return .runtime errorInHandler
  | limit + 1, v => do
    match ← ScriptM.attempt (site.textOf v) with
    | .ok bytes => return .runtime bytes.untilZero.toStringLossy
    | .error v => LuaError.ofThrownWithin site limit v

/-- How often giving the text of a thrown value may throw. -/
def rethrowLimit : Nat := 100

/-- What the host makes of a thrown value. Preparing the error is a function of its own. -/
def LuaError.ofThrown (site : Script.Site β σ) (v : Value) : ScriptM β σ LuaError :=
  LuaError.ofThrownWithin (.ofNative site.engine site.around 0) rethrowLimit v

/-- The value under a key of a table, as the host reads it. -/
def Script.Site.readField (site : Script.Site β σ) (id : ObjectId) (key : Value) :
    ScriptM β σ Value := do
  let key ← ScriptM.allocate fun h => h.attach key
  let v ←
    if ((← ScriptM.heap).table id).metatable.isNone then ScriptM.readTable id key
    else (← site.guarded 2).index .nowhere (.table id) key
  return v.detached

/-- Puts a value under a key of a table, as the host writes it. -/
def Script.Site.writeField (site : Script.Site β σ) (id : ObjectId) (key v : Value) :
    ScriptM β σ Unit := do
  let v ← ScriptM.allocate fun h => h.attach v
  if ((← ScriptM.heap).table id).metatable.isNone then site.rawStore id key v
  else (← site.guarded 3).store .nowhere (.table id) key v

namespace StackM

/-- Runs an action of a script on the world of a stack, so that a thrown value is a result. -/
def attemptScript (site : Script.Site β σ) (action : ScriptM β σ α) :
    HostM ε β σ (Except LuaError α) := fun m =>
  let caught : ScriptM β σ (Except LuaError α) := do
    match ← ScriptM.attempt action with
    | .ok a => return .ok a
    | .error v => return .error (← LuaError.ofThrown site v)
  match caught m.world with
  | .ok r w => .ok r { m with world := w }
  | .error (.error _) w => .error .exhausted { m with world := w }
  | .error (.panic text) w => .error (.panic text) { m with world := w }
  | .error .exhausted w => .error .exhausted { m with world := w }

/-- Runs an action of a script on the world of a stack. -/
def script (site : Script.Site β σ) (action : ScriptM β σ α) : StackM β σ α := do
  match ← attemptScript site action with
  | .ok a => return a
  | .error e => fail (.engine e)

/-- Changes the stack, or fails and leaves it as it is. -/
def change (f : Stack → Except StackError Stack) : StackM β σ Unit := do
  match f (← stack) with
  | .ok s => setStack s
  | .error e => fail e

/-- Changes the stack with a result, or fails and leaves it as it is. -/
def take (f : Stack → Except StackError (α × Stack)) : StackM β σ α := do
  match f (← stack) with
  | .ok (a, s) =>
    setStack s
    return a
  | .error e => fail e

/-- A part of the stack that has to be there. -/
def view (f : Stack → Except StackError α) : StackM β σ α := do
  match f (← stack) with
  | .ok a => return a
  | .error e => fail e

/-! ## Values -/

/-- Pushes a value. -/
def push (v : Value) : StackM β σ Unit := change (·.push v)

/-- Pushes a text. -/
def pushText (text : String) : StackM β σ Unit := push (.text text)

/-- Pushes a typed argument. -/
def pushArg (a : Arg) : StackM β σ Unit := push a.toValue

/-- Pushes values in order, up to the first for which there is no room. -/
def pushAll (vs : List Value) : StackM β σ Unit := do
  let s ← stack
  let room := s.config.capacity - s.size
  setStack { s with slots := s.slots ++ vs.take room }
  if room < vs.length then fail s.overflow

/-- Pushes typed arguments in order, up to the first for which there is no room. -/
def pushArgs (args : List Arg) : StackM β σ Unit := pushAll (args.map Arg.toValue)

/-- Pushes a new object, which is made only when there is room. -/
def pushNew (allocate : Heap β → Value × Heap β) : StackM β σ Unit := do
  let s ← stack
  if s.isFull then fail s.overflow
  else
    modify fun m =>
      let (v, heap) := allocate m.world.heap
      ⟨{ s with slots := s.slots ++ [v] }, { m.world with heap := heap }⟩

/-- Pushes a callback as a function. -/
def pushCallback (callback : Callback β) : StackM β σ Unit := do
  let config := (← stack).config
  pushNew fun heap =>
    let (id, heap) := heap.allocFunction (.host callback config)
    (.function id, heap)

/-- Drops values from the top. -/
def pop (count : Nat) : StackM β σ Unit := change (·.pop count)

/-- Takes the value off the top. -/
def popValue : StackM β σ Value := take Stack.popValue

/-- Takes the value at an index out. -/
def remove (index : Int) : StackM β σ Value := take (·.remove index)

/-! ## Globals and fields -/

/-- Pushes the value of a global. -/
def pushGlobal (site : Script.Site β σ) (name : String) : StackM β σ Unit := do
  let v ← script site (site.readField Heap.globals (.text name))
  push v

/-- Takes the value off the top and binds it to a global. -/
def bindGlobal (site : Script.Site β σ) (name : String) : StackM β σ Unit := do
  let v ← popValue
  script site (site.writeField Heap.globals (.text name) v)

/-- Pushes an empty table and gives its position. -/
def pushTable : StackM β σ Int := do
  let s ← stack
  if maxIndex < s.size + 1 then fail s.overflow
  else
    pushNew fun heap =>
      let (id, heap) := heap.allocTable .empty
      (.table id, heap)
    return (s.size : Int) + 1

/-- Takes the value off the top and stores it under a key of the table at an index, which is found
before the value is taken. -/
def storeField (site : Script.Site β σ) (index : Int) (key : String) : StackM β σ Unit := do
  let id ← view (·.table index)
  let v ← popValue
  script site (site.writeField id (.text key) v)

/-- Takes a key off the top and pushes the value under it of the table at an index, which is found
before the key is taken. -/
def swapField (site : Script.Site β σ) (index : Int) : StackM β σ Unit := do
  let id ← view (·.table index)
  let key ← popValue
  let v ← script site (site.readField id key)
  push v

/-- Pushes the value under a key of the table at an index. -/
def pushField (site : Script.Site β σ) (index : Int) (key : String) : StackM β σ Unit := do
  let id ← view (·.table index)
  let v ← script site (site.readField id (.text key))
  push v

/-- Stores what an action pushes under a key of the table at an index. -/
def addMember (site : Script.Site β σ) (index : Int) (key : String) (pushMember : StackM β σ Unit) :
    StackM β σ Unit := do
  match (← stack).absolute index with
  | none => fail (.invalidIndex index)
  | some position =>
    pushMember
    storeField site position key

/-! ## Callbacks -/

/-- Binds a callback to the global of its name and notes it. -/
def register (site : Script.Site β σ) (callback : Callback β) : StackM β σ Unit := do
  pushCallback callback
  bindGlobal site callback.name
  log .debug ("registered callback \x60" ++ callback.name ++ "\x60 (min args "
    ++ toString callback.minArgs ++ ")")
  modify fun m => { m with stack := m.stack.note callback.name callback.minArgs }

/-- Registers the callbacks of a batch in order, up to the first that fails. -/
def install (site : Script.Site β σ) (batch : CallbackBatch β) : StackM β σ Unit :=
  batch.forM (register site)

end StackM

end ScriptBridge
