import ScriptBridge.Error
import ScriptBridge.Proofs.Text.Search

/-!
# Diagnostics

The diagnostic of an error is the text of what lies within its wrappers, up to the traceback:
`diagnostic_within`. The contexts and the tracebacks of the wrappers make no difference to it, and
it stays the diagnostic of an error that has it as its message.
-/

namespace ScriptBridge

/-- What can stand around an error. -/
inductive Wrapper where
  | callback (traceback : String)
  | context (text : String)
deriving Repr

/-- An error within one more wrapper. -/
def Wrapper.around : Wrapper → LuaError → LuaError
  | callback traceback, cause => .callback traceback cause
  | context text, cause => .context text cause

namespace LuaError

/-- An error within wrappers, the outermost first. -/
def within (wrappers : List Wrapper) (inner : LuaError) : LuaError :=
  wrappers.foldr Wrapper.around inner

/-- The text of an error without a wrapper: the bare message of an error of the runtime, of memory
or of syntax, the full text of any other. -/
inductive Tells : LuaError → String → Prop
  | runtime (text : String) : Tells (.runtime text) text
  | memory (text : String) : Tells (.memory text) text
  | syntaxError (text : String) : Tells (.syntaxError text) text
  | external (e : StackError) : Tells (.external e) (LuaError.external e).message
  | externalText (text : String) : Tells (.externalText text) (LuaError.externalText text).message
  | stack : Tells .stack LuaError.stack.message
  | unresumable : Tells .unresumable LuaError.unresumable.message
  | conversion (target : String) (detail : Option String) :
    Tells (.conversion target detail) (LuaError.conversion target detail).message

/-- Every error is one without a wrapper within some wrappers. -/
theorem exists_within : ∀ e : LuaError, ∃ wrappers inner text, e = within wrappers inner ∧
    inner.Tells text
  | .callback traceback cause => by
    obtain ⟨wrappers, inner, text, hcause, tells⟩ := exists_within cause
    exact ⟨.callback traceback :: wrappers, inner, text, by rw [hcause]; rfl, tells⟩
  | .context text cause => by
    obtain ⟨wrappers, inner, told, hcause, tells⟩ := exists_within cause
    exact ⟨.context text :: wrappers, inner, told, by rw [hcause]; rfl, tells⟩
  | .runtime text => ⟨[], _, _, rfl, .runtime text⟩
  | .memory text => ⟨[], _, _, rfl, .memory text⟩
  | .syntaxError text => ⟨[], _, _, rfl, .syntaxError text⟩
  | .external e => ⟨[], _, _, rfl, .external e⟩
  | .externalText text => ⟨[], _, _, rfl, .externalText text⟩
  | .stack => ⟨[], _, _, rfl, .stack⟩
  | .unresumable => ⟨[], _, _, rfl, .unresumable⟩
  | .conversion target detail => ⟨[], _, _, rfl, .conversion target detail⟩

theorem innermost_within (wrappers : List Wrapper) (inner : LuaError) :
    (within wrappers inner).innermost = inner.innermost := by
  induction wrappers with
  | nil => rfl
  | cons wrapper wrappers ih =>
    cases wrapper with
    | callback traceback => exact ih
    | context text => exact ih

/-- An error that tells a text is innermost, and the text is the one it has bare. -/
theorem Tells.bareText_innermost {e : LuaError} {text : String} (tells : e.Tells text) :
    e.innermost.bareText = text := by
  cases tells <;> rfl

/-- What a callback raised is told as if it had been raised itself. -/
theorem diagnostic_callback (traceback : String) (cause : LuaError) :
    (LuaError.callback traceback cause).diagnostic = cause.diagnostic := rfl

/-- A diagnostic holds no traceback. -/
theorem beforeFirst_diagnostic (e : LuaError) :
    beforeFirst tracebackMarker e.diagnostic = e.diagnostic :=
  beforeFirst_idem tracebackMarker e.innermost.bareText

/-- The diagnostic of a call that failed with a diagnostic has one more prefix. -/
theorem diagnostic_script (e : LuaError) :
    (StackError.script ⟨.runtime, e.diagnostic⟩).toLua.diagnostic =
      "runtime error: " ++ e.diagnostic := by
  have hbegin : tracebackMarker.toList = '\n' :: "stack traceback:".toList := by decide
  have hprefix : '\n' ∉ "runtime error: ".toList := by decide
  have hcut := beforeFirst_append hbegin hprefix e.diagnostic
  rw [beforeFirst_diagnostic] at hcut
  exact hcut

/-- The diagnostic of an error is the diagnostic of what lies within its wrappers, whatever they
say. It is the longest beginning of the innermost text that ends before a traceback, and the whole
text if there is none. It holds no traceback itself, so an error that has it as its message has it
as its diagnostic. -/
theorem diagnostic_within (wrappers : List Wrapper) {inner : LuaError} {text : String}
    (tells : inner.Tells text) :
    (within wrappers inner).diagnostic = inner.diagnostic ∧
      CutBefore tracebackMarker text (within wrappers inner).diagnostic ∧
      (¬ tracebackMarker.toList <:+: text.toList → (within wrappers inner).diagnostic = text) ∧
      ¬ tracebackMarker.toList <:+: (within wrappers inner).diagnostic.toList ∧
      (LuaError.runtime (within wrappers inner).diagnostic).diagnostic =
        (within wrappers inner).diagnostic := by
  have hinner : (within wrappers inner).diagnostic = inner.diagnostic := by
    rw [diagnostic, innermost_within, diagnostic]
  have hcut : CutBefore tracebackMarker text (within wrappers inner).diagnostic := by
    rw [hinner, diagnostic, tells.bareText_innermost]
    exact beforeFirst_cutBefore tracebackMarker text
  have hmarker : tracebackMarker.toList ≠ [] := by decide
  refine ⟨hinner, hcut, hcut.eq_of_absent, ?_, ?_⟩
  · exact not_infix_beforeFirst hmarker _
  · exact beforeFirst_diagnostic _

/-- A message with two tracebacks, raised in a callback and given a context: a callback wrapped
around all that leaves what stands before the first traceback. -/
theorem diagnostic_within_callback :
    let text := "boom\nstack traceback:\n\t[C]: in ?\nstack traceback:"
    let e := within [.callback "stack traceback:\n\t[C]: in f", .context "loading"] (.runtime text)
    (LuaError.runtime text).Tells text ∧ e.diagnostic = "boom" ∧
      CutBefore tracebackMarker text e.diagnostic := by
  intro text e
  have tells : (LuaError.runtime text).Tells text := .runtime text
  obtain ⟨hinner, hcut, -, -, -⟩ := diagnostic_within
    [.callback "stack traceback:\n\t[C]: in f", .context "loading"] tells
  have hboom : (LuaError.runtime text).diagnostic = "boom" := by decide
  exact ⟨tells, hinner.trans hboom, hcut⟩

end LuaError

end ScriptBridge
