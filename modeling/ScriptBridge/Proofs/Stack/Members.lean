import ScriptBridge.Proofs.Script.RawAccess
import ScriptBridge.Proofs.Stack.Writes

/-!
# Members that are added to tables

A member of a table, an argument or a callback, is added by way of the stack: it is pushed, and then
what lies on top is stored. That the index names a slot and that there is room is found out before
anything happens. That the slot holds a table is found out when the member is on the stack already,
and there it stays if the slot does not: `addMember_all_or_nothing` says that adding is all or
nothing for every other index, and what is left for such a one.
-/

namespace ScriptBridge

open HostM StackM

variable {β σ : Type}

/-- What can be added to a table. -/
inductive Member (β : Type) where
  | arg (a : Arg)
  | callback (c : Callback β)

namespace Member

/-- Pushes a member. -/
def push : Member β → StackM β σ Unit
  | arg a => pushArg a
  | callback c => pushCallback c

/-- The value of a member; a callback becomes the next function of the heap. -/
def value (h : Heap β) : Member β → Value
  | arg a => a.toValue
  | callback _ => .function h.functions.size

/-- The heap in which a member has its value, made for a stack of a configuration. -/
def made (config : Config) (h : Heap β) : Member β → Heap β
  | arg _ => h
  | callback c => (h.allocFunction (.host c config)).2

theorem attach_value (h h' : Heap β) (member : Member β) :
    h'.attach (member.value h) = (member.value h, h') := by
  cases member with
  | arg a => exact a.attach_toValue h'
  | callback c => rfl

theorem tables_made (config : Config) (h : Heap β) (member : Member β) :
    (member.made config h).tables = h.tables := by
  cases member <;> rfl

theorem table_made (config : Config) (h : Heap β) (member : Member β) (id : ObjectId) :
    (member.made config h).table id = h.table id := by
  simp only [Heap.table, tables_made]

theorem writesRaw_made (config : Config) {h : Heap β} (member : Member β) {id : ObjectId}
    {key : String} (raw : h.WritesRaw id key) : (member.made config h).WritesRaw id key := by
  simpa only [Heap.WritesRaw, Heap.metamethod, Heap.metatable, table_made] using raw

end Member

namespace Machine

/-- The machine in which a member has its value. -/
def making (m : Machine β σ) (member : Member β) : Machine β σ :=
  { m with world := { m.world with heap := member.made m.stack.config m.world.heap } }

/-- The machine in which a member lies on the stack. -/
def carrying (m : Machine β σ) (member : Member β) : Machine β σ :=
  { m.making member with stack := m.stack.extend [member.value m.world.heap] }

end Machine

theorem Member.push_apply (member : Member β) (m : Machine β σ) :
    (member.push : StackM β σ Unit) m =
      if m.stack.size < m.stack.config.capacity then .ok () (m.carrying member)
      else .error (.error m.stack.overflow) m := by
  cases member with
  | arg a => exact StackM.push_apply a.toValue m
  | callback c => exact pushCallback_eq c m

/-! ## How adding a member ends -/

/-- An index names a slot that holds no table, on a stack with room: a member that is pushed to be
stored there is pushed in vain. -/
structure Stack.Strands (s : Stack) (index position : Int) (found : Kind) : Prop where
  located : s.absolute index = some position
  free : s.size < s.config.capacity
  noTable : s.table index = .error (.notATable index found)

/-- A slot holds a table or it does not, and values on top make no difference to that. -/
theorem Stack.table_of_absolute {s : Stack} {index position : Int}
    (located : s.absolute index = some position) :
    (∃ id, s.table index = .ok id) ∨ ∃ found, s.table index = .error (.notATable index found) ∧
      ∀ vs, (s.extend vs).table position = .error (.notATable position found) := by
  have hpeek := fun vs => s.peek_extend_of_absolute vs located
  obtain ⟨-, k, -, hk⟩ := Stack.offset?_of_absolute located
  have hlt : k < s.slots.length := Stack.offset?_lt hk
  have hfound : s.peek index = some s.slots[k] := by simp [Stack.peek, hk, hlt]
  simp only [Stack.table, hpeek, hfound]
  cases s.slots[k] with
  | table id => exact .inl ⟨id, rfl⟩
  | _ => exact .inr ⟨_, rfl, fun _ => rfl⟩

section Adding

variable {site : Script.Site β σ} {m m' : Machine β σ} {index : Int} {key : String}
  {member : Member β}

theorem addMember_of_full {position : Int} (located : m.stack.absolute index = some position)
    (full : m.stack.config.capacity ≤ m.stack.size) :
    addMember site index key member.push m = .error (.error m.stack.overflow) m := by
  have hpush := member.push_apply m
  rw [if_neg (Nat.not_lt_of_le full)] at hpush
  simp only [addMember, stack_bind, located]
  exact bind_of_error hpush

/-- Where there is room the member is on the stack before its table is looked for. -/
theorem addMember_of_free {position : Int} (located : m.stack.absolute index = some position)
    (free : m.stack.size < m.stack.config.capacity) :
    addMember site index key member.push m = storeField site position key (m.carrying member) := by
  have hpush := member.push_apply m
  rw [if_pos free] at hpush
  simp only [addMember, stack_bind, located]
  exact bind_of_ok hpush

theorem addMember_of_strands {position : Int} {found : Kind}
    (strands : m.stack.Strands index position found) :
    addMember site index key member.push m =
      .error (.error (.notATable position found)) (m.carrying member) := by
  obtain ⟨id, table⟩ | ⟨found', noTable, hposition⟩ := Stack.table_of_absolute strands.located
  · rw [strands.noTable] at table
    cases table
  · rw [strands.noTable] at noTable
    cases noTable
    have hview : (view (·.table position) : StackM β σ ObjectId) (m.carrying member) =
        .error (.error (.notATable position found)) (m.carrying member) :=
      view_of_error (hposition _)
    rw [addMember_of_free strands.located strands.free, storeField, bind_of_error hview]

theorem addMember_of_table {position : Int} {id : ObjectId}
    (located : m.stack.absolute index = some position)
    (free : m.stack.size < m.stack.config.capacity) (table : m.stack.table index = .ok id) :
    addMember site index key member.push m =
      script site (site.writeField id (.text key) (member.value m.world.heap))
        (m.making member) := by
  have htable : (m.carrying member).stack.table position = .ok id :=
    table_extend_of_absolute _ located table
  rw [addMember_of_free located free, storeField_of_table htable rfl]
  rfl

/-- Nothing happens, or the member is left behind, or it is written to the table. -/
theorem addMember_cases (site : Script.Site β σ) (m : Machine β σ) (index : Int) (key : String)
    (member : Member β) :
    (∃ e, addMember site index key member.push m = .error (.error e) m) ∨
    (∃ position found, m.stack.Strands index position found) ∨
    ∃ id, m.stack.table index = .ok id ∧ addMember site index key member.push m =
      script site (site.writeField id (.text key) (member.value m.world.heap))
        (m.making member) := by
  cases located : m.stack.absolute index with
  | none =>
    refine .inl ⟨.invalidIndex index, ?_⟩
    simp only [addMember, stack_bind, located]
    rfl
  | some position =>
    by_cases free : m.stack.size < m.stack.config.capacity
    · obtain ⟨id, table⟩ | ⟨found, noTable, -⟩ := Stack.table_of_absolute located
      · exact .inr (.inr ⟨id, table, addMember_of_table located free table⟩)
      · exact .inr (.inl ⟨position, found, located, free, noTable⟩)
    · exact .inl ⟨_, addMember_of_full located (Nat.le_of_not_lt free)⟩

/-- A table has got a value under a key, and the other tables are as they were. -/
structure Heap.Gained (h h' : Heap β) (id : ObjectId) (key : String) (v : Value) : Prop where
  holds : (h'.table id).get (.text key) = v
  others : ∀ other, other ≠ id → h'.table other = h.table other

/-- Adding a member is all or nothing. When it is done the slots are as they were, and the table at
the index holds the value, unless a metamethod of the table takes the value for itself. When it
fails nothing has happened, and after an error of the engine, which only a metamethod can cause or a
call that cannot be made, the slots are still as they were. -/
structure AddsCleanly (site : Script.Site β σ) (index : Int) (key : String) (member : Member β)
    (m : Machine β σ) : Prop where
  done : ∀ m', addMember site index key member.push m = .ok () m' →
    m'.stack = m.stack ∧ ∃ id, m.stack.table index = .ok id ∧
      (id < m.world.heap.tables.size → m.world.heap.WritesRaw id key →
        m.world.heap.Gained m'.world.heap id key (member.value m.world.heap))
  failed : ∀ e m', addMember site index key member.push m = .error (.error e) m' →
    m' = m ∨ (∃ thrown, e = .engine thrown) ∧ m'.stack = m.stack

/-- A member that is written without a metamethod is filed in the table. -/
theorem heap_of_written {id : ObjectId} (known : id < m.world.heap.tables.size)
    (raw : m.world.heap.WritesRaw id key)
    (written : script site (site.writeField id (.text key) (member.value m.world.heap))
      (m.making member) = .ok () m') :
    m'.world.heap = (member.made m.stack.config m.world.heap).storing id key
      (member.value m.world.heap) := by
  let v := member.value m.world.heap
  let made := member.made m.stack.config m.world.heap
  have hwrite := (script_ok written).1
  have hknown : id < made.tables.size := by rwa [member.tables_made]
  have plain := Script.Site.writesPlainly_of_write hknown (member.writesRaw_made _ raw) hwrite
  have hattach : made.attach v = (v, made) := member.attach_value _ _
  rw [Script.Site.writeField_of_plain plain hattach] at hwrite
  rw [← (EStateM.Result.ok.inj hwrite).2]
  rfl

theorem gained_of_written {id : ObjectId} (known : id < m.world.heap.tables.size)
    (raw : m.world.heap.WritesRaw id key)
    (written : script site (site.writeField id (.text key) (member.value m.world.heap))
      (m.making member) = .ok () m') :
    m.world.heap.Gained m'.world.heap id key (member.value m.world.heap) := by
  let v := member.value m.world.heap
  let made := member.made m.stack.config m.world.heap
  have hknown : id < made.tables.size := by rwa [member.tables_made]
  rw [heap_of_written known raw written]
  constructor
  · have hset : (made.storing id key v).table id = (made.table id).set (.text key) v :=
      Heap.table_modifyTable_same hknown _
    rw [hset, Table.get_set_same]
  · intro other ne
    have hother : (made.storing id key v).table other = made.table other :=
      made.table_modifyTable_ne ne _
    rw [hother, member.table_made]

theorem addsCleanly_of_not_strands
    (safe : ∀ position found, ¬ m.stack.Strands index position found) :
    AddsCleanly site index key member m := by
  obtain ⟨e, hrun⟩ | ⟨position, found, strands⟩ | ⟨id, table, hrun⟩ :=
    addMember_cases site m index key member
  · constructor
    · intro m' run
      cases hrun.symm.trans run
    · intro e' m' run
      cases hrun.symm.trans run
      exact .inl rfl
  · exact absurd strands (safe position found)
  · constructor
    · intro m' run
      have hwrite := hrun.symm.trans run
      exact ⟨(script_ok hwrite).2, id, table, fun known raw => gained_of_written known raw hwrite⟩
    · intro e m' run
      have hfailed := script_error (hrun.symm.trans run)
      exact .inr hfailed

/-- A write that needs no metamethod and can be made is made. -/
theorem addMember_of_raw {position : Int} {id : ObjectId}
    (located : m.stack.absolute index = some position)
    (free : m.stack.size < m.stack.config.capacity) (table : m.stack.table index = .ok id)
    (raw : m.world.heap.WritesRaw id key) (reaches : site.Reaches m.world.heap id) :
    ∃ m', addMember site index key member.push m = .ok () m' := by
  have hreaches : site.Reaches (m.making member).world.heap id :=
    reaches.imp_left fun plain => by rw [← plain]; exact congrArg _ (member.table_made _ _ id)
  obtain ⟨w', hwrite⟩ := Script.Site.writeField_of_raw (w := (m.making member).world)
    (member.writesRaw_made _ raw) hreaches (member.value m.world.heap)
  rw [addMember_of_table located free table]
  exact ⟨_, bind_of_ok (attemptScript_of_ok hwrite)⟩

end Adding

/-- Adding a member is all or nothing exactly where the member is not left behind: it is pushed
before the slot is known to hold a table, so an index that names a slot with another value leaves
the member on top of the stack. The tables are as they were then as well. A table that takes the
value without a metamethod gets it. -/
theorem addMember_all_or_nothing (site : Script.Site β σ) (m : Machine β σ) (index : Int)
    (key : String) (member : Member β) :
    (AddsCleanly site index key member m ↔
      ∀ position found, ¬ m.stack.Strands index position found) ∧
    (∀ position found, m.stack.Strands index position found →
      addMember site index key member.push m =
        .error (.error (.notATable position found)) (m.carrying member) ∧
      (m.carrying member).stack.slots = m.stack.slots ++ [member.value m.world.heap] ∧
      (m.carrying member).world.heap.tables = m.world.heap.tables) ∧
    (∀ position id, m.stack.absolute index = some position →
      m.stack.size < m.stack.config.capacity → m.stack.table index = .ok id →
      m.world.heap.WritesRaw id key → site.Reaches m.world.heap id →
      ∃ m', addMember site index key member.push m = .ok () m') := by
  refine ⟨⟨fun clean position found strands => ?_, addsCleanly_of_not_strands⟩,
    fun position found strands => ⟨addMember_of_strands strands, rfl, member.tables_made _ _⟩,
    fun position id located free table raw reaches =>
      addMember_of_raw located free table raw reaches⟩
  obtain hsame | ⟨⟨thrown, hthrown⟩, -⟩ := clean.failed _ _ (addMember_of_strands strands)
  · have hslots := congrArg (·.stack.slots.length) hsame
    simp [Machine.carrying] at hslots
  · cases hthrown

/-- A number is added to the table of the globals at the bottom of a stack, and the slots stay. -/
theorem addMember_all_or_nothing_filed :
    let site : Script.Site Unit Unit := .outermost fun _ _ args => return args
    let s : Stack := ⟨[.table Heap.globals], Config.standard.withCapacity 2, false, []⟩
    let m : Machine Unit Unit := ⟨s, ⟨.initial, [], ()⟩⟩
    ∃ m', addMember site (-1) "k" (pushArg (.integer 7)) m = .ok () m' ∧ m'.stack = s ∧
      (m'.world.heap.table Heap.globals).get (.text "k") = .integer 7 := by
  intro site s m
  obtain ⟨hclean, -, hdone⟩ := addMember_all_or_nothing site m (-1) "k" (.arg (.integer 7))
  have raw : m.world.heap.WritesRaw Heap.globals "k" := .inl rfl
  obtain ⟨m', hrun⟩ := hdone 1 Heap.globals rfl (by decide) rfl raw (.inl rfl)
  have hsafe : ∀ position found, ¬ m.stack.Strands (-1) position found :=
    fun position found strands => nomatch strands.noTable
  obtain ⟨hstack, id, table, hgained⟩ := (hclean.mpr hsafe).done m' hrun
  cases table
  exact ⟨m', hrun, hstack, (hgained (by decide) raw).holds⟩

/-- An argument and a callback that are added to a nil stay on top of the stack. -/
theorem addMember_all_or_nothing_stranded :
    let site : Script.Site Unit Unit := .outermost fun _ _ args => return args
    let m : Machine Unit Unit :=
      ⟨⟨[.nil], Config.standard.withCapacity 2, false, []⟩, ⟨.initial, [], ()⟩⟩
    let callback : Callback Unit := ⟨"f", 0, ()⟩
    (∃ m', addMember site 1 "k" (pushArg (.integer 7)) m =
        .error (.error (.notATable 1 .nil)) m' ∧ m'.stack.slots = [.nil, .integer 7]) ∧
      (∃ m', addMember site (-1) "k" (pushCallback callback) m =
        .error (.error (.notATable 1 .nil)) m' ∧ m'.stack.slots = [.nil, .function 0]) ∧
      ¬ AddsCleanly site 1 "k" (.arg (.integer 7)) m ∧
      ¬ AddsCleanly site (-1) "k" (.callback callback) m := by
  intro site m callback
  refine ⟨⟨_, rfl, rfl⟩, ⟨_, rfl, rfl⟩, fun clean => ?_, fun clean => ?_⟩
  · obtain hsame | ⟨⟨thrown, hthrown⟩, -⟩ := clean.failed _ _ rfl
    · have hslots : [Value.nil, .integer 7] = [.nil] := congrArg (·.stack.slots) hsame
      cases hslots
    · cases hthrown
  · obtain hsame | ⟨⟨thrown, hthrown⟩, -⟩ := clean.failed _ _ rfl
    · have hslots : [Value.nil, .function 0] = [.nil] := congrArg (·.stack.slots) hsame
      cases hslots
    · cases hthrown

end ScriptBridge
