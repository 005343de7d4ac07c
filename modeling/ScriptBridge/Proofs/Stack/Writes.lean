import ScriptBridge.Proofs.Script.PlainWrite
import ScriptBridge.Proofs.Stack.Args

/-!
# How writes of the host end

The actions that take the value off the top and store it under a key, when the write is plain: the
stack is as it was before the value was pushed, and the table holds the value.
-/

namespace ScriptBridge

open HostM

variable {β σ : Type}

/-- The machine after a value was stored under a key of a table. -/
def Machine.storing (m : Machine β σ) (id : ObjectId) (key : String) (v : Value) : Machine β σ :=
  { m with world := { m.world with heap := m.world.heap.storing id key v } }

namespace StackM

variable {site : Script.Site β σ} {m : Machine β σ} {s : Stack} {id : ObjectId} {key : String}
  {a : Arg}

theorem script_writeField (plain : site.WritesPlainly m.world.heap id key) (a : Arg) :
    script site (site.writeField id (.text key) a.toValue) m =
      .ok () (m.storing id key a.toValue) :=
  bind_of_ok (attemptScript_of_ok
    (Script.Site.writeField_of_plain plain (a.attach_toValue m.world.heap)))

theorem popValue_apply {v : Value} (hstack : m.stack = s.extend [v]) :
    (popValue : StackM β σ Value) m = .ok v { m with stack := s } :=
  take_of_ok (by rw [hstack, Stack.popValue_extend])

theorem bindGlobal_of_plain (plain : site.WritesPlainly m.world.heap Heap.globals key)
    (hstack : m.stack = s.extend [a.toValue]) :
    bindGlobal site key m =
      .ok () ({ m with stack := s }.storing Heap.globals key a.toValue) := by
  rw [bindGlobal, bind_of_ok (popValue_apply hstack)]
  exact script_writeField (m := { m with stack := s }) plain a

/-- The value that is stored has been taken off the stack before it is written. -/
theorem storeField_of_table {index : Int} {v : Value} (table : m.stack.table index = .ok id)
    (hstack : m.stack = s.extend [v]) :
    storeField site index key m =
      script site (site.writeField id (.text key) v) { m with stack := s } := by
  rw [storeField, bind_of_ok (view_of_ok (f := (·.table index)) table),
    bind_of_ok (popValue_apply hstack)]

theorem storeField_of_plain {index : Int} (plain : site.WritesPlainly m.world.heap id key)
    (table : m.stack.table index = .ok id) (hstack : m.stack = s.extend [a.toValue]) :
    storeField site index key m = .ok () ({ m with stack := s }.storing id key a.toValue) :=
  (storeField_of_table table hstack).trans (script_writeField (m := { m with stack := s }) plain a)

/-- An index names the same table after a value was pushed, once it is absolute. -/
theorem table_extend_of_absolute {index position : Int} (vs : List Value)
    (located : s.absolute index = some position) (table : s.table index = .ok id) :
    (s.extend vs).table position = .ok id := by
  simp only [Stack.table, Stack.peek_extend_of_absolute vs located] at table ⊢
  split at table
  · exact table
  · cases table
  · cases table

/-- An argument that is stored under a key of a table takes a slot on the way. -/
theorem addMember_of_plain {index position : Int} (plain : site.WritesPlainly m.world.heap id key)
    (located : m.stack.absolute index = some position) (table : m.stack.table index = .ok id)
    (free : m.stack.size < m.stack.config.capacity) :
    addMember site index key (pushArg a) m = .ok () (m.storing id key a.toValue) := by
  have hpositioned := table_extend_of_absolute [a.toValue] located table
  simp only [addMember, stack_bind, located]
  rw [bind_of_ok (pushArg_apply a free)]
  exact storeField_of_plain (m := { m with stack := m.stack.extend [a.toValue] }) plain
    hpositioned rfl

end StackM

end ScriptBridge
