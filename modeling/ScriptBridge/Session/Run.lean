import ScriptBridge.Engine
import ScriptBridge.Record.Call
import ScriptBridge.Script.Chunk
import ScriptBridge.Session.Report

/-!
# Running sessions

`perform` says what a step does, given how functions are called; the steps inside a scope are run by
recursion on the step, those of callbacks by whoever calls the callback. `run` runs a whole
session, each of its steps at the site of the host. A panic ends the step of the session in which it
arises, and nothing else.
-/

namespace ScriptBridge.Session

open HostM

/-- An action of a session. -/
abbrev SessionM : Type → Type := RecordM Body Memory

/-- Passes the errors of the stack on. -/
def onStack {α : Type} (action : StackM Body Memory α) : SessionM α := RecordM.lift action

/-- Runs an action of the stack that gives nothing. -/
def quietly (action : StackM Body Memory Unit) : SessionM Gain := do
  onStack action
  return .nothing

/-- Pushes what an operand stands for. -/
def pushOperand : Operand → StackM Body Memory Unit
  | .given v => StackM.push v
  | .newTable => discard StackM.pushTable
  | .newFunction =>
    StackM.pushNew fun heap =>
      let (id, heap) := heap.allocFunction .inert
      (.function id, heap)
  | .newUserdata =>
    StackM.pushNew fun heap =>
      let (id, heap) := heap.allocObject
      (.userdata id, heap)
  | .newLightUserdata =>
    StackM.pushNew fun heap =>
      let (id, heap) := heap.allocObject
      (.lightUserdata id, heap)
  | .newThread =>
    StackM.pushNew fun heap =>
      let (id, heap) := heap.allocObject
      (.thread id, heap)
  | .newFailure => StackM.push (.failure (.runtime "opaque") 0)

/-- What a stack says about the value at an index. -/
def inspect (s : Stack) (index : Int) : Inspection :=
  ⟨s.kind index, s.absolute index, s.peek index, s.toDouble? index, s.toInteger? index,
    s.toText? index, s.isTrue index⟩

/-- What a stack says about itself. -/
def describe (s : Stack) : Description :=
  ⟨s.size, s.isFrame, s.callbacks.map Prod.fst, s.config⟩

/-- The longest path, in bytes. -/
def pathLimit : Nat := 4095

/-- The longest name in a path, in bytes. -/
def fileNameLimit : Nat := 255

/-- Why a file cannot be read, in a directory that holds no other file: a path of dots and slashes
is a directory, and the first name of any other path does not exist. -/
def absentFile (path : String) : String :=
  let names := (path.splitOn "/").filter fun name => name ≠ "" ∧ name ≠ "." ∧ name ≠ ".."
  if path.toList.contains '\x00' then "file name contained an unexpected NUL byte"
  else if pathLimit < path.utf8ByteSize then "File name too long (os error 36)"
  else
    match names with
    | name :: _ =>
      if fileNameLimit < name.utf8ByteSize then "File name too long (os error 36)"
      else "No such file or directory (os error 2)"
    | [] =>
      if path = "" then "No such file or directory (os error 2)"
      else "Is a directory (os error 21)"

/-- The fields of a record that a schema names, each once. -/
def namedFields (schema : Schema Slot) (r : Record Slot) : Fields :=
  (schema.map Mapping.field).eraseDups.map fun slot => (slot, r slot)

/-- The record with fields written to it. -/
def written (start : List (Slot × Field)) : Record Slot :=
  start.foldl (fun r (slot, field) => r.set slot field) blankRecord

/-- Fills a field of its own from the table on top. -/
def mapOne (site : Script.Site Body Memory) (view : TableView) (mapping : SingleMapping) :
    SessionM MappingReport := do
  if mapping.isRequired then
    match ← attempt (view.requireField site mapping.start mapping.key) with
    | .ok f => return ⟨.ok none, f⟩
    | .error e => return ⟨.error e, mapping.start⟩
  else
    match ← attempt (view.mapField site mapping.start mapping.key) with
    | .ok (some f) => return ⟨.ok (some true), f⟩
    | .ok none => return ⟨.ok (some false), mapping.start⟩
    | .error e => return ⟨.error e, mapping.start⟩

/-- Notes a nested step that ended. -/
def note (place : String) (ending : Ending) : SessionM Unit := do
  let entry : TraceEntry := ⟨place, ending, .ofStack (← stack)⟩
  modifyMemory fun m => { m with trace := m.trace ++ [entry] }

mutual

/-- What a step does. -/
def perform (site : Script.Site Body Memory) : Step → SessionM Gain
  | .push operand => quietly (pushOperand operand)
  | .pushArgs args => quietly (StackM.pushArgs args)
  | .pushMany count =>
    quietly ((List.range count).forM fun i => StackM.push (.integer (Int64.ofNat i)))
  | .pushCopy index => quietly (StackM.change (·.pushCopy index))
  | .pushCallback callback => quietly (StackM.pushCallback callback)
  | .pop count => quietly (StackM.pop count)
  | .popValue => return .value (← onStack StackM.popValue)
  | .remove index => return .value (← onStack (StackM.remove index))
  | .clear => do
    setStack (← stack).clear
    return .nothing
  | .inspect index => return .inspection (Session.inspect (← stack) index)
  | .describe => return .description (Session.describe (← stack))
  | .pushGlobal name => quietly (StackM.pushGlobal site name)
  | .bindGlobal name => quietly (StackM.bindGlobal site name)
  | .pushTable => return .position (← onStack StackM.pushTable)
  | .storeField index key => quietly (StackM.storeField site index key)
  | .swapField index => quietly (StackM.swapField site index)
  | .pushField index key => quietly (StackM.pushField site index key)
  | .addMember index key a => quietly (StackM.addMember site index key (StackM.pushArg a))
  | .addCallback index key callback =>
    quietly (StackM.addMember site index key (StackM.pushCallback callback))
  | .register callback => quietly (StackM.register site callback)
  | .install batch => do
    onStack (StackM.install site batch)
    return .names (CallbackBatch.names batch)
  | .runSource source name => quietly (StackM.runSource site source name)
  | .runFile path contents =>
    let outcome := match contents with
      | some bytes => .ok bytes
      | none => .error (absentFile path)
    quietly (StackM.runFile site path outcome)
  | .invoke inputs outputs handler => quietly (StackM.invoke site inputs outputs handler)
  | .inScope label delta steps ending => do
    let scope ← BalanceScope.enter label delta
    scope.guarding (performAll site ("scope:" ++ label) steps)
    match ending with
    | .finished => scope.finish
    | .dropped => scope.abandon
    return .entered scope.entry
  | .keepArg name a => do
    modifyMemory fun m => m.keepArg name a
    return .nothing
  | .pushNamedArg name => do quietly (StackM.pushArg ((← memory).arg name))
  | .fill index source => do
    let a ← match source with
      | .named name => pure ((← memory).arg name)
      | .fresh a => pure a
    match a.fill (← stack) index with
    | .error e => return .fillRefused e a
    | .ok (changed, a) =>
      match source with
      | .named name => modifyMemory fun m => m.keepArg name a
      | .fresh _ => pure ()
      return .filled changed a
  | .keepFunction name f => do
    modifyMemory fun m => m.keepFunction name f
    return .function f
  | .describeFunction use => return .function ((← memory).function use)
  | .callFunction use inputs outputs => do
    match ← ((← memory).function use).call site inputs outputs with
    | (outputs, .ok ()) => return .outputs outputs
    | (outputs, .error e) => return .callRefused e outputs
  | .callTyped use inputs types => do
    return .args (← ((← memory).function use).callTyped site inputs types)
  | .keepRecord name start => do
    modifyMemory fun m => m.keepRecord name (written start)
    return .nothing
  | .hydrate record table schema => do
    let keep (r : Record Slot) (m : Memory) : Memory := m.keepRecord record r
    let (r, outcome) ← hydrateKeeping keep site schema ((← memory).record record) table
    modifyMemory (keep r)
    match outcome with
    | .ok found => return .hydrated found (namedFields schema r)
    | .error e => return .recordRefused e (namedFields schema r)
  | .applySchema record table schema => do
    let keep (r : Record Slot) (m : Memory) : Memory := m.keepRecord record r
    let (r, outcome) ← schema.applyTopKeeping keep site table ((← memory).record record)
    modifyMemory (keep r)
    match outcome with
    | .ok () => return .applied (namedFields schema r)
    | .error e => return .recordRefused e (namedFields schema r)
  | .mapFields table mappings => do
    let view ← onStack (TableView.ofTop table)
    return .mapped view.name (← mappings.mapM (mapOne site view))
  | .sum a b => do
    let s ← stack
    quietly (StackM.push (.integer ((s.toInteger? a).getD 0 + (s.toInteger? b).getD 0)))
  | .difference a b => do
    let s ← stack
    quietly (StackM.push (.integer ((s.toInteger? a).getD 0 - (s.toInteger? b).getD 0)))
  | .double a => do
    let d := ((← stack).toDouble? a).getD .zero
    quietly (StackM.push (.number ((Double.ofInt 2).mul d)))
  | .greet a greeting => do
    quietly (StackM.pushText (greeting ++ ((← stack).toText? a).getD ""))
  | .pushSize => do quietly (StackM.push (.integer (Int64.ofNat (← stack).size)))
  | .raise e => onStack (fail e)
  | .panic text => throw (.panic text)

/-- Runs nested steps up to the first that fails and is not tolerated. -/
def performAll (site : Script.Site Body Memory) (place : String) : List Nested → SessionM Unit
  | [] => return ()
  | .mk step tolerated :: rest => do
    match ← attempt (perform site step) with
    | .ok gain =>
      note place (.gave gain)
      performAll site place rest
    | .error e =>
      note place (.failed e)
      if tolerated then performAll site place rest else fail e

end

/-- The error of a callback's body: the stack's as it is, another one by its text. -/
def bodyError (label : String) : RecordError → StackError
  | .stack e => e
  | e => .callback label e.message

/-- What the body of a callback does, with the count of results that it promises. -/
def runBody : BodyRunner Body Memory := fun site body =>
  match body with
  | .mk label steps promise => do
    mapError (bodyError label) (performAll site ("callback:" ++ label) steps)
    match promise with
    | .count n => return n
    | .all => return (← stack).size

/-- Runs a step of a session, and reports it. -/
def report (step : Step) (m : Machine Body Memory) : StepReport × Machine Body Memory :=
  let clean : World Body Memory :=
    { m.world with journal := [], memory := { m.world.memory with trace := [] } }
  let close (ending : Ending) (m : Machine Body Memory) : StepReport × Machine Body Memory :=
    (⟨ending, .ofStack m.stack, m.world.memory.trace, m.world.journal⟩, m)
  match perform (hostSite runBody) step { m with world := clean } with
  | .ok gain m => close (.gave gain) m
  | .error (.error e) m => close (.failed e) m
  | .error (.panic text) m => close (.panicked text) m
  | .error .exhausted m => close .exhausted m

/-- Runs steps of a session in order. -/
def reports : List Step → Machine Body Memory → List StepReport × Machine Body Memory
  | [], m => ([], m)
  | step :: rest, m =>
    let (first, m) := report step m
    let (others, m) := reports rest m
    (first :: others, m)

/-- The machine at the start of a session. -/
def start (config : Config) : Machine Body Memory :=
  ⟨.ofConfig config, ⟨Script.libraryHeap config.openLibs, [], .empty⟩⟩

/-- Runs a session. -/
def run (config : Config) (steps : List Step) : SessionReport :=
  let opened : LogRecord :=
    ⟨.debug, "acquired runtime (capacity " ++ toString config.capacity ++ ", libs "
      ++ (if config.openLibs then "true" else "false") ++ ")"⟩
  let (reports, m) := reports steps (start config)
  let closed : LogRecord :=
    ⟨.debug, "releasing runtime (" ++ toString m.stack.size ++ " values left on stack)"⟩
  ⟨[opened], reports, [closed]⟩

end ScriptBridge.Session
