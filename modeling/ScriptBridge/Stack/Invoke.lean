import ScriptBridge.Stack.Machine

/-!
# Calls from the host

`StackM.invoke` calls the value below the topmost values with these as its arguments. A call that
is made at all replaces the function and its arguments: by exactly the results asked for, or by the
text of the failure. What would leave no room for the results is refused before anything happens.
-/

namespace ScriptBridge

open HostM

variable {β σ : Type}

/-- Exactly so many results: cut off, or filled up with nil. -/
def fitResults (count : Nat) (results : List Value) : List Value :=
  results.take count ++ List.replicate (count - results.length) .nil

/-- Calls a function from the host. -/
def callFunction (site : Script.Site β σ) (id : ObjectId) (args : List Value) :
    ScriptM β σ (List Value) := do
  let results ← site.reporting.call id (← ScriptM.attached args)
  return results.map Value.detached

/-- The text that the answer of a handler is: a string, or what else it is. -/
def answerText : Value → String
  | .string bytes => bytes.toStringLossy
  | v => "(error object is a " ++ v.kind.typeName ++ " value)"

/-- The text that a handler makes of a failure. Its own failure is a failure's text too. -/
def handleFault (site : Script.Site β σ) (handler : Value) (text : String) :
    StackM β σ String := do
  match handler with
  | .function id =>
    match ← StackM.attemptScript site (callFunction site id [.text text]) with
    | .ok results => return answerText (results.headD .nil)
    | .error e => return e.diagnostic
  | _ => return errorInHandler

/-- The results of a call, or the text of its failure. -/
def callOutcome (site : Script.Site β σ) (callee : Value) (args : List Value) :
    StackM β σ (Except String (List Value)) := do
  match callee with
  | .function id =>
    match ← StackM.attemptScript site (callFunction site id args) with
    | .ok results => return .ok results
    | .error e => return .error e.diagnostic
  | v => return .error (callNonFunction ++ " " ++ v.kind.typeName ++ " value")

namespace Stack

/-- The parts of a stack that a call takes: the slots that stay, the function and its arguments. -/
structure CallParts where
  below : List Value
  callee : Value
  args : List Value
  handler : Option Value
deriving Repr

/-- The parts of a call, or why it is refused. There have to be enough values, then enough room for
the results, then a handler below the function. -/
def callParts (s : Stack) (inputs outputs : Nat) (handler : Int) :
    Except StackError CallParts :=
  let requested := min (inputs + 1) maxCount
  if s.size < requested then .error (.underflow requested s.size)
  else
    let base := s.size - requested
    if s.config.capacity - base < outputs then .error s.overflow
    else
      let taken := s.slots.drop base
      let parts (handler : Option Value) : CallParts :=
        ⟨s.slots.take base, taken.headD .nil, taken.drop 1, handler⟩
      if handler = 0 then .ok (parts none)
      else
        match s.offset? handler with
        | some offset =>
          if offset < base then .ok (parts (s.slots[offset]?)) else .error (.invalidIndex handler)
        | none => .error (.invalidIndex handler)

end Stack

namespace StackM

/-- The text of a failure, as the handler makes it if there is one. -/
def faultText (site : Script.Site β σ) (handler : Option Value) (text : String) :
    StackM β σ String :=
  match handler with
  | some h => handleFault site h text
  | none => return text

/-- Pushes the text of a failure, which is then the error. -/
def reportFault (text : String) : StackM β σ Unit := do
  log .warn text
  pushText text
  fail (.script ⟨.runtime, text⟩)

/-- Pushes what a call came to: exactly so many results, or the text of its failure. -/
def settleCall (site : Script.Site β σ) (outputs : Nat) (handler : Option Value) :
    Except String (List Value) → StackM β σ Unit
  | .ok results => pushAll (fitResults outputs results)
  | .error text => do reportFault (← faultText site handler text)

/-- Calls the value below the topmost `inputs` values. A failure's text goes through the handler at
an index, unless that is `0`. -/
def invoke (site : Script.Site β σ) (inputs outputs : Nat) (handler : Int) : StackM β σ Unit := do
  let parts ← view (·.callParts inputs outputs handler)
  setStack { ← stack with slots := parts.below }
  log .trace ("invoke " ++ toString inputs ++ " -> " ++ toString outputs ++ " "
    ++ (← stack).dump)
  settleCall site outputs parts.handler (← callOutcome site parts.callee parts.args)

end StackM

end ScriptBridge
