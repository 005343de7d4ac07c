import ScriptBridge.Record.Schema
import ScriptBridge.Stack.Invoke

/-!
# Calls of script functions

A call checks the counts and the handle before it touches the stack. Then it pushes the function
and the inputs, calls, and offers the results to the outputs in order; whatever happens, the stack
ends as it was.
-/

namespace ScriptBridge

open HostM

variable {β σ : Type}

namespace ScriptFunction

/-- The name of the scope in which a call runs. -/
def callLabel : String := "table function call"

/-- The handle's name in messages. -/
def label (f : ScriptFunction) : String := f.name?.getD "<unbound>"

/-- What a call needs: where the function is, and the position of the handler. The counts come
first, then the binding, then the handler. -/
def prepare (f : ScriptFunction) (s : Stack) (inputs outputs : Nat) :
    Except RecordError (FunctionBinding × Int) :=
  if f.inputs ≠ inputs then .error (.arity f.label .inputs f.inputs inputs)
  else if f.outputs ≠ outputs then .error (.arity f.label .outputs f.outputs outputs)
  else
    match f.binding with
    | none => .error .unbound
    | some binding =>
      if f.handler = 0 then .ok (binding, 0)
      else
        match s.absolute f.handler with
        | some position => .ok (binding, position)
        | none => .error (.stack (.invalidIndex f.handler))

/-- Pushes the value that a binding names. A table binding takes a second slot on the way. -/
def pushBound (site : Script.Site β σ) (binding : FunctionBinding) : StackM β σ Unit :=
  match binding.table with
  | none => StackM.pushGlobal site binding.name
  | some (_, id) => do
    StackM.push (.table id)
    StackM.pushField site top binding.name
    discard (StackM.remove (-2))

/-- Calls the function that was pushed with its inputs. An error that is given back has finished the
scope; one that is raised has not. -/
def invokePushed (f : ScriptFunction) (site : Script.Site β σ) (scope : BalanceScope)
    (name : String) (handler : Int) : RecordM β σ (Except RecordError Unit) := do
  match ← attempt (RecordM.lift (StackM.invoke site f.inputs f.outputs handler)) with
  | .ok () => return .ok ()
  | .error (.stack (.script ⟨.runtime, text⟩)) =>
    RecordM.lift (StackM.pop 1)
    scope.finish
    return .error (.call name ⟨.runtime, text⟩)
  | .error e => fail e

/-- Pushes the function and the inputs and calls. The results stay on the stack. An error that is
given back has finished the scope; one that is raised has not. -/
def pushResults (f : ScriptFunction) (site : Script.Site β σ) (scope : BalanceScope)
    (binding : FunctionBinding) (handler : Int) (inputs : List Arg) :
    RecordM β σ (Except RecordError Unit) := do
  RecordM.lift (pushBound site binding)
  let kind := (← stack).kind top
  if kind ≠ .function then
    RecordM.lift (StackM.pop 1)
    scope.finish
    return .error (.notCallable binding.name kind)
  else
    RecordM.lift (StackM.pushArgs inputs)
    f.invokePushed site scope binding.name handler

/-- The index of the value that is so many places from the top, as a word of 32 bits. -/
def fromTop (count : Nat) : Int := (-Int32.ofNat count).toInt

/-- The outputs after they were offered the topmost values in order, up to the first that a strict
stack refuses. -/
def fillOutputs (s : Stack) : List Arg → List Arg × Except StackError Unit
  | [] => ([], .ok ())
  | a :: rest =>
    match a.fill s (fromTop (rest.length + 1)) with
    | .error e => (a :: rest, .error e)
    | .ok (_, a) =>
      let (filled, outcome) := fillOutputs s rest
      (a :: filled, outcome)

/-- Calls a script function with inputs and offers its results to the outputs. The outputs are
given back in either case. -/
def call (f : ScriptFunction) (site : Script.Site β σ) (inputs outputs : List Arg) :
    RecordM β σ (List Arg × Except RecordError Unit) := do
  match f.prepare (← stack) inputs.length outputs.length with
  | .error e => return (outputs, .error e)
  | .ok (binding, handler) =>
    let scope ← BalanceScope.enter callLabel 0
    match ← attempt (f.pushResults site scope binding handler inputs) with
    | .error e =>
      scope.abandon
      return (outputs, .error e)
    | .ok (.error e) => return (outputs, .error e)
    | .ok (.ok ()) =>
      match fillOutputs (← stack) outputs with
      | (outputs, .error e) =>
        scope.abandon
        return (outputs, .error (.stack e))
      | (outputs, .ok ()) =>
        RecordM.lift (StackM.pop f.outputs)
        scope.finish
        return (outputs, .ok ())

/-- Calls a script function with fresh outputs of the given types. -/
def callTyped (f : ScriptFunction) (site : Script.Site β σ) (inputs : List Arg)
    (types : List ArgType) : RecordM β σ (List Arg) := do
  match ← f.call site inputs (types.map Arg.placeholder) with
  | (outputs, .ok ()) => return outputs
  | (_, .error e) => fail e

end ScriptFunction

end ScriptBridge
