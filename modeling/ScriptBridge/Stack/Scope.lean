import ScriptBridge.Stack.Machine

/-!
# Balance scopes

A scope notes the size of a stack and what an operation is expected to add to it. Finishing the
scope compares; leaving it by an error, or without finishing, discards what the operation left
above the noted size. A panic passes through and discards nothing.
-/

namespace ScriptBridge

open HostM

variable {ε β σ α : Type}

/-- An operation's name and the expected change of the size, with the size at its start. -/
structure BalanceScope where
  label : String
  delta : Int
  entry : Nat
deriving Repr

namespace BalanceScope

/-- The size that the stack is expected to have in the end. -/
def expected (scope : BalanceScope) : Int := scope.entry + scope.delta

/-- The report of another size. -/
def report (scope : BalanceScope) (actual : Nat) : String :=
  "unbalanced stack after " ++ scope.label ++ ": expected " ++ toString scope.expected
    ++ " values, found " ++ toString actual

/-- Opens a scope. -/
def enter (label : String) (delta : Int) : HostM ε β σ BalanceScope :=
  return ⟨label, delta, (← stack).size⟩

/-- Compares the size with the expected one. -/
def finish (scope : BalanceScope) : HostM ε β σ Unit := do
  let s ← stack
  if (s.size : Int) = scope.expected then return ()
  else
    match s.config.balance with
    | .ignore => return ()
    | .log => log .error (scope.report s.size ++ " " ++ s.dump)
    | .panic => throw (.panic (scope.report s.size))

/-- Discards what lies above the size at the start. -/
def abandon (scope : BalanceScope) : HostM ε β σ Unit := do
  let s ← stack
  if scope.entry < s.size then
    log .trace (scope.label ++ ": discarding " ++ toString (s.size - scope.entry) ++ " values")
    setStack (s.truncate scope.entry)

/-- Runs an operation in a scope that an error abandons. -/
def guarding (scope : BalanceScope) (action : HostM ε β σ α) : HostM ε β σ α := do
  match ← attempt action with
  | .ok a => return a
  | .error e =>
    scope.abandon
    fail e

end BalanceScope

end ScriptBridge
