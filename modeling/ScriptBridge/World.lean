import ScriptBridge.Heap

/-!
# Actions of scripts and of the host

The state that everything shares is a `World`: the heap, the journal of log records, and the memory
of the host programs. An action can fail with an error that its callers see, end in a panic that
nothing on the way may catch, or use up the steps and the depth of calls that it was given. Its
state is kept in every case: what was done before the failure stays done.
-/

namespace ScriptBridge

/-- The severity of a log record. -/
inductive LogLevel where
  | error
  | warn
  | debug
  | trace
deriving DecidableEq, Repr

/-- How severe a level is: the lower, the more severe. -/
def LogLevel.rank : LogLevel → Nat
  | error => 0
  | warn => 1
  | debug => 2
  | trace => 3

/-- A record of the journal. -/
structure LogRecord where
  level : LogLevel
  text : String
deriving DecidableEq, Repr

/-- The shared state, for callback bodies of type `β` and a host memory of type `σ`. -/
structure World (β σ : Type) where
  heap : Heap β
  journal : List LogRecord
  memory : σ

/-- How an action ends that gives no result. -/
inductive Failure (ε : Type) where
  | error (e : ε)
  | panic (text : String)
  | exhausted

/-- The failure with its error replaced. -/
def Failure.map {ε ε' : Type} (f : ε → ε') : Failure ε → Failure ε'
  | error e => error (f e)
  | panic text => panic text
  | exhausted => exhausted

/-- An action of a script. Its errors are the values that were thrown. -/
abbrev ScriptM (β σ : Type) : Type → Type := EStateM (Failure Value) (World β σ)

namespace ScriptM

variable {β σ α : Type}

/-- Fails with a value. -/
def throwValue (v : Value) : ScriptM β σ α := throw (.error v)

/-- The heap. -/
def heap : ScriptM β σ (Heap β) := return (← get).heap

/-- Changes the heap. -/
def modifyHeap (f : Heap β → Heap β) : ScriptM β σ Unit :=
  modify fun w => { w with heap := f w.heap }

/-- Changes the heap, with a result. -/
def allocate (f : Heap β → α × Heap β) : ScriptM β σ α :=
  modifyGet fun w =>
    let (a, h) := f w.heap
    (a, { w with heap := h })

/-- The value under a key of a table, whatever its metatable says. -/
def readTable (id : ObjectId) (key : Value) : ScriptM β σ Value :=
  allocate fun h => h.read id key

/-- Values as scripts get them from the host. -/
def attached (vs : List Value) : ScriptM β σ (List Value) :=
  allocate fun h => h.attachAll vs

/-- Runs an action so that its error is a result. Panics pass. -/
def attempt (action : ScriptM β σ α) : ScriptM β σ (Except Value α) := fun w =>
  match action w with
  | .ok a w' => .ok (.ok a) w'
  | .error (.error v) w' => .ok (.error v) w'
  | .error (.panic text) w' => .error (.panic text) w'
  | .error .exhausted w' => .error .exhausted w'

end ScriptM

end ScriptBridge
