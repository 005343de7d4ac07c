import ScriptBridge.Record.Error
import ScriptBridge.Record.Field
import ScriptBridge.Stack.Scope

/-!
# Records filled from script tables

A record gives every name of a type `ι` a field. A schema lists, in order, which keys of a table
fill which fields, and which of them have to. `Schema.applyKeeping` goes through the list with the
table on top of the stack and stops at the first key that does not give what it has to: the fields
filled before keep their new values, those after it are not touched. `hydrateKeeping` does so with
the table of a global and leaves the stack as it found it. The record may be part of the memory of
the host, to which `keep` gives it back whenever a field was filled.
-/

namespace ScriptBridge

open HostM

/-- A record with fields named by `ι`. -/
abbrev Record (ι : Type) : Type := ι → Field

/-- A key that fills a field. -/
structure Mapping (ι : Type) where
  key : String
  isRequired : Bool
  field : ι
deriving Repr

/-- The keys that fill a record, in order. -/
abbrev Schema (ι : Type) : Type := List (Mapping ι)

variable {β σ ι : Type}

namespace Schema

/-- The keys of a schema, in order. -/
def keys (schema : Schema ι) : List String := schema.map Mapping.key

/-- The keys that have to fill their fields. -/
def requiredKeys (schema : Schema ι) : List String :=
  (schema.filter Mapping.isRequired).map Mapping.key

end Schema

/-- The record with one field replaced. -/
def Record.set [DecidableEq ι] (r : Record ι) (i : ι) (f : Field) : Record ι :=
  fun j => if j = i then f else r j

/-- An action on a stack that reports the errors of records. -/
abbrev RecordM (β σ : Type) : Type → Type := HostM RecordError β σ

namespace RecordM

variable {α : Type}

/-- Passes the errors of the stack on. -/
def lift (action : StackM β σ α) : RecordM β σ α := mapError .stack action

end RecordM

/-- The table on top of a stack, with its name in messages. -/
structure TableView where
  name : String
  table : ObjectId
deriving DecidableEq, Repr

namespace TableView

/-- The table on top of the stack. -/
def ofTop (name : String) : StackM β σ TableView := do
  let s ← stack
  match s.peek top with
  | some (.table id) => return ⟨name, id⟩
  | _ => fail (.notATable top (s.kind top))

/-- Reads a key of the table on top: the field after it was offered the value, if that fits, and
the kind of the value. The key takes a slot above the table and gives it back. -/
def lookup (site : Script.Site β σ) (view : TableView) (f : Field) (key : String) :
    StackM β σ (Option Field × Kind) := do
  StackM.pushText key
  StackM.swapField site (-2)
  let s ← stack
  let found := s.kind top
  let assigned := (s.peek top).bind (f.assign? ⟨view.name, key, view.table⟩)
  StackM.pop 1
  log .trace (view.name ++ "." ++ key ++ ": " ++ found.text ++ " (assigned: "
    ++ (if assigned.isSome then "true" else "false") ++ ")")
  return (assigned, found)

/-- Fills a field that may stay as it is: a missing or mistyped value changes nothing, but a strict
stack reports a value of another type. -/
def mapField (site : Script.Site β σ) (view : TableView) (f : Field) (key : String) :
    RecordM β σ (Option Field) := do
  let (assigned, found) ← RecordM.lift (view.lookup site f key)
  if assigned.isNone ∧ found ≠ .nil ∧ (← stack).config.coercion = .strict then
    fail (.fieldType view.name key f.expected found)
  else return assigned

/-- Fills a field that has to be filled. -/
def requireField (site : Script.Site β σ) (view : TableView) (f : Field) (key : String) :
    RecordM β σ Field := do
  let (assigned, found) ← RecordM.lift (view.lookup site f key)
  match assigned with
  | some f => return f
  | none => fail (.missingField view.name key f.expected found)

end TableView

/-- The content of a mapping's field after its key was read. -/
def Mapping.apply (mapping : Mapping ι) (site : Script.Site β σ) (view : TableView) (f : Field) :
    RecordM β σ Field :=
  if mapping.isRequired then view.requireField site f mapping.key
  else return (← view.mapField site f mapping.key).getD f

namespace Schema

/-- Reads every key into its field, up to the first that fails. The record is given back in either
case, and the host memory keeps it whenever a field was filled. -/
def applyKeeping [DecidableEq ι] (keep : Record ι → σ → σ) (site : Script.Site β σ)
    (view : TableView) :
    Schema ι → Record ι → RecordM β σ (Record ι × Except RecordError Unit)
  | [], r => return (r, .ok ())
  | mapping :: rest, r => do
    match ← attempt (mapping.apply site view (r mapping.field)) with
    | .ok f => do
      let r := r.set mapping.field f
      modifyMemory (keep r)
      applyKeeping keep site view rest r
    | .error e => return (r, .error e)

/-- Fills a record from the table on top of the stack, and keeps it whenever a field was filled. -/
def applyTopKeeping [DecidableEq ι] (keep : Record ι → σ → σ)
    (site : Script.Site β σ) (schema : Schema ι) (tableName : String) (r : Record ι) :
    RecordM β σ (Record ι × Except RecordError Unit) := do
  match ← attempt (RecordM.lift (TableView.ofTop tableName)) with
  | .ok view => schema.applyKeeping keep site view r
  | .error e => return (r, .error e)

end Schema

/-- Fills a record from the table on top, which was pushed in a scope, and drops the table. -/
def hydrateTop [DecidableEq ι] (keep : Record ι → σ → σ) (site : Script.Site β σ)
    (scope : BalanceScope) (schema : Schema ι) (r : Record ι) (tableName : String) :
    RecordM β σ (Record ι × Except RecordError Bool) := do
  match ← schema.applyTopKeeping keep site tableName r with
  | (r, .error e) =>
    log .debug ("hydrate \x60" ++ tableName ++ "\x60 stopped: " ++ e.message)
    scope.abandon
    return (r, .error e)
  | (r, .ok ()) =>
    RecordM.lift (StackM.pop 1)
    scope.finish
    return (r, .ok true)

/-- Fills a record from the table of a global: with `true` when every key was read, with `false`
when the global is no table, or with the first error. The record is kept whenever a field was
filled, so that what was filled before a panic stays filled. -/
def hydrateKeeping [DecidableEq ι] (keep : Record ι → σ → σ)
    (site : Script.Site β σ) (schema : Schema ι) (r : Record ι) (tableName : String) :
    RecordM β σ (Record ι × Except RecordError Bool) := do
  let scope ← BalanceScope.enter "hydrate" 0
  match ← attempt (RecordM.lift (StackM.pushGlobal site tableName)) with
  | .error e =>
    scope.abandon
    return (r, .error e)
  | .ok () =>
    let kind := (← stack).kind top
    if kind ≠ .table then
      log .trace ("hydrate: global \x60" ++ tableName ++ "\x60 is " ++ kind.text)
      RecordM.lift (StackM.pop 1)
      scope.finish
      return (r, .ok false)
    else hydrateTop keep site scope schema r tableName

end ScriptBridge
