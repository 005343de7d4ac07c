import ScriptBridge.Proofs.Stack.Actions
import ScriptBridge.Proofs.Text.Utf8
import ScriptBridge.Record.Call

/-!
# Typed arguments on a stack

The value that an argument is pushed as is taken back by every argument of its type, whatever that
one held before: `Arg.fill_pushed` for one argument on top of a stack, and
`ScriptFunction.fillOutputs_pushed` for as many as a call has results.
-/

namespace ScriptBridge

open HostM StackM

variable {β σ : Type}

namespace Arg

/-- The bytes of a text are decoded to the text again, and the other payloads are kept verbatim. -/
theorem accept?_toValue {a b : Arg} (same : b.type = a.type) : b.accept? a.toValue = some a := by
  cases a <;> cases b <;> cases same <;> simp [accept?, toValue, Value.text]

theorem toValue_ne_nil (a : Arg) : a.toValue ≠ .nil := by
  cases a <;> intro h <;> cases h

theorem detached_toValue (a : Arg) : a.toValue.detached = a.toValue := by
  cases a <;> rfl

theorem map_detached_toValue (as : List Arg) :
    (as.map toValue).map Value.detached = as.map toValue := by
  rw [List.map_map]
  exact List.map_congr_left fun a _ => a.detached_toValue

/-- A script gets an argument as it is. -/
theorem attach_toValue (a : Arg) (h : Heap β) : h.attach a.toValue = (a.toValue, h) := by
  cases a <;> rfl

theorem fill_of_peek {a b : Arg} {s : Stack} {index : Int} (same : b.type = a.type)
    (found : s.peek index = some a.toValue) : b.fill s index = .ok (true, a) := by
  simp only [fill, found, Option.bind_some, accept?_toValue same]

/-- An argument on top of a stack. -/
theorem fill_pushed {a b : Arg} (s : Stack) (same : b.type = a.type) :
    b.fill (s.extend [a.toValue]) top = .ok (true, a) :=
  fill_of_peek same (s.peek_top_extend_singleton a.toValue)

end Arg

theorem StackM.pushArg_apply (a : Arg) {m : Machine β σ}
    (free : m.stack.size < m.stack.config.capacity) :
    (pushArg a : StackM β σ Unit) m = .ok () { m with stack := m.stack.extend [a.toValue] } := by
  rw [pushArg, push_apply, if_pos free]

theorem StackM.pushArgs_apply (as : List Arg) {m : Machine β σ}
    (free : as.length ≤ m.stack.config.capacity - m.stack.size) :
    (pushArgs as : StackM β σ Unit) m =
      .ok () { m with stack := m.stack.extend (as.map Arg.toValue) } := by
  rw [pushArgs, pushAll_of_le]
  rwa [List.length_map]

/-- The value below so many others, counted from the top. -/
theorem Stack.peek_below_extend (s : Stack) (v : Value) (vs : List Value) :
    (s.extend (v :: vs)).peek (-((vs.length : Int) + 1)) = some v := by
  have hle : vs.length + 1 ≤ (s.extend (v :: vs)).size := by
    rw [size_extend, List.length_cons]
    omega
  have hoffset := offset?_neg (Nat.succ_pos vs.length) hle
  have hlength : (s.extend (v :: vs)).size - (vs.length + 1) = s.slots.length := by
    rw [size_extend, List.length_cons, size]
    omega
  rw [Int.natCast_succ, hlength] at hoffset
  rw [peek, hoffset, Option.bind_some, slots_extend, List.getElem?_append_right (Nat.le_refl _),
    Nat.sub_self, List.getElem?_cons_zero]

namespace ScriptFunction

/-- An index that fits its word counts from the top. -/
theorem fromTop_of_le {count : Nat} (h : count ≤ maxIndex) : fromTop count = -(count : Int) := by
  have hlt : count < 2 ^ 31 := Nat.lt_succ_of_le h
  rw [fromTop, Int32.toInt_neg, Int32.toInt_ofNat_of_lt hlt]
  exact Int.bmod_eq_of_le (by omega) (by omega)

theorem fromTop_succ {count : Nat} (h : count + 1 ≤ maxIndex) :
    fromTop (count + 1) = -((count : Int) + 1) := by
  rw [fromTop_of_le h, Int.natCast_succ]

/-- Arguments that lie on a stack in order are taken back in order. -/
theorem fillOutputs_pushed (s : Stack) {inputs outputs : List Arg}
    (countable : outputs.length ≤ maxIndex) (same : outputs.map Arg.type = inputs.map Arg.type) :
    fillOutputs (s.extend (inputs.map Arg.toValue)) outputs = (inputs, .ok ()) := by
  -- what was taken back stays below the rest of the arguments
  induction outputs generalizing s inputs with
  | nil =>
    rw [List.map_nil, eq_comm, List.map_eq_nil_iff] at same
    rw [same]
    rfl
  | cons b rest ih =>
    cases inputs with
    | nil => cases same
    | cons a inputs =>
      obtain ⟨hfirst, hrest⟩ := List.cons.inj same
      have hlength : rest.length = (inputs.map Arg.toValue).length := by
        have h := congrArg List.length hrest
        simpa using h
      have hfill : b.fill (s.extend ((a :: inputs).map Arg.toValue)) (fromTop (rest.length + 1)) =
          .ok (true, a) := by
        rw [fromTop_succ countable, hlength]
        exact Arg.fill_of_peek hfirst (s.peek_below_extend a.toValue (inputs.map Arg.toValue))
      have hstack : s.extend ((a :: inputs).map Arg.toValue) =
          (s.extend [a.toValue]).extend (inputs.map Arg.toValue) := by
        rw [Stack.extend_extend]
        rfl
      simp only [fillOutputs, hfill]
      rw [hstack, ih (s.extend [a.toValue]) (Nat.le_of_succ_le countable) hrest]

end ScriptFunction

end ScriptBridge
