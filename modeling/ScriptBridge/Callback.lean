/-!
# Host callbacks

A callback is a host function that scripts can call: a name, the count of arguments that its body
reads, and the body. Bodies are of any type; the machine that runs them says what they mean.
-/

namespace ScriptBridge

/-- A host function with a body of type `β`. -/
structure Callback (β : Type) where
  name : String
  minArgs : Nat
  body : β

/-- Callbacks that are installed together, in order. -/
abbrev CallbackBatch (β : Type) : Type := List (Callback β)

/-- The names of a batch, in order. -/
def CallbackBatch.names {β : Type} (batch : CallbackBatch β) : List String :=
  batch.map Callback.name

end ScriptBridge
