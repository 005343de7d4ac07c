import ScriptBridge.Script.Chunk
import ScriptBridge.Script.Execution
import ScriptBridge.Script.Library
import ScriptBridge.Stack.Dispatch

/-!
# The script engine

Calling a function of the heap means something only relative to what further calls do. `callObject`
is that step, for any meaning of further calls and of callback bodies; `engine` ties the knot for a
bounded depth of calls within calls. The depth is never used up: before that, calls within calls
fail as errors of scripts.
-/

namespace ScriptBridge

variable {β σ : Type}

/-- What the bodies of callbacks do, given the site at which they run. -/
abbrev BodyRunner (β σ : Type) : Type := Script.Site β σ → β → StackM β σ Nat

/-- How many slots a function of the host or of a library needs besides its arguments. -/
def nativeRoom : Nat := 20

/-- How many slots the body of a callback takes before it calls functions itself: its arguments
are on its frame. -/
def bodySlots : Nat := 2

/-- Calls a function of the host or of a library, where `deeper` makes the calls within the call. -/
def callNative (run : BodyRunner β σ) (deeper : Script.Engine β σ) : Script.Engine β σ :=
  fun s id args => do
    s.checkSlots args.length nativeRoom
    match (← ScriptM.heap).functions[id]? with
    | some (.host callback config) => do
      let site := Script.Site.ofNative deeper s bodySlots
      callback.dispatch site (run site) config args
    | some (.builtin b) => b.run ⟨id, .ofNative deeper s args.length, args⟩
    | _ => return []

/-- Calls a function of the heap, where `deeper` makes the calls within the call. -/
def callObject (run : BodyRunner β σ) (deeper : Script.Engine β σ) : Script.Engine β σ :=
  fun s id args => do
    match (← ScriptM.heap).functions[id]? with
    | some (.closure c) => Script.Execution.run (callNative run deeper) deeper s c args
    | _ => callNative run deeper s id args

/-- Calls a function of the heap, with calls within calls down to a depth. -/
def engine (run : BodyRunner β σ) : Nat → Script.Engine β σ
  | 0 => fun _ _ _ => throw .exhausted
  | depth + 1 => callObject run (engine run depth)

/-- The site at which a host calls functions. -/
def hostSite (run : BodyRunner β σ) : Script.Site β σ :=
  .outermost (engine run Script.nestingLimit)

end ScriptBridge
