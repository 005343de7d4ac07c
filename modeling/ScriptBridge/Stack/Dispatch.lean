import ScriptBridge.Stack.Machine

/-!
# Callbacks called by scripts

A call of a callback runs its body on a frame that holds exactly the arguments, and hands back as
many values from the top of the frame as the body promises, if the engine has slots for them. A call
with fewer arguments than the body reads never reaches the body: it gets a single nil. Errors of the
body travel through the engine wrapped as values that scripts cannot look into.
-/

namespace ScriptBridge

open HostM

variable {β σ : Type}

namespace Callback

/-- What a callback does on its frame, with its results; `run` says what bodies do. -/
def answer (callback : Callback β) (run : β → StackM β σ Nat) : StackM β σ (List Value) := do
  let supplied := (← stack).size
  let promised ←
    if supplied < callback.minArgs then do
      log .warn (callback.name ++ ": " ++ notEnoughArgs ++ " (expected "
        ++ toString callback.minArgs ++ ", got " ++ toString supplied ++ ")")
      StackM.push .nil
      pure 1
    else run callback.body
  match (← stack).results promised with
  | some values => return values
  | none =>
    fail (.callback callback.name (tooManyResults ++ " (" ++ toString promised ++ ")"))

/-- What a callback does on a frame of its own, with its results or its error. -/
def outcome (callback : Callback β) (run : β → StackM β σ Nat) (config : Config)
    (args : List Value) : ScriptM β σ (Except StackError (List Value)) := fun w =>
  match callback.answer run ⟨.frame (args.map Value.detached) config, w⟩ with
  | .ok values m => .ok (.ok values) m.world
  | .error (.error e) m => .ok (.error e) m.world
  | .error (.panic text) m => .error (.panic text) m.world
  | .error .exhausted m => .error .exhausted m.world

/-- What the engine takes of a callback: results that it has slots for, or an error. -/
def taken (s : Script.Surroundings) : Except StackError (List Value) → Except LuaError (List Value)
  | .ok values => if s.hasRoomFor values.length then .ok values else .error .stack
  | .error e => .error e.toLua

/-- What a script sees of a call of a callback at a site. -/
def dispatch (callback : Callback β) (site : Script.Site β σ) (run : β → StackM β σ Nat)
    (config : Config) (args : List Value) : ScriptM β σ (List Value) := do
  match taken site.around (← callback.outcome run config args) with
  | .ok values => ScriptM.attached values
  | .error e => do
    let mark ← ScriptM.allocate fun h => h.allocObject
    site.around.raise (.failure (.callback "" e) mark)

end Callback

end ScriptBridge
