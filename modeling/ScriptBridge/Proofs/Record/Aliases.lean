import ScriptBridge.Proofs.Record.Echo
import ScriptBridge.Proofs.Stack.Fields

/-!
# Tables that several handles share

A slot holds no table but its number, and so do the globals and the handles to functions of a table.
What is stored through one of them is read through all: `stored_field_shows`.
-/

namespace ScriptBridge

open HostM StackM

variable {β σ : Type}

/-- A table shows a value under a key through everything that leads to it: through each slot that
holds it, a copy of such a slot, the slots that are left when one was removed, the globals bound to
it, and the handles to a function of the table. -/
structure World.Shows (w : World β σ) (site : Script.Site β σ) (id : ObjectId) (key : String)
    (v : Value) : Prop where
  slots : ∀ (s : Stack) k, s.slots[k]? = some (.table id) → s.size < s.config.capacity →
    (⟨s, w⟩ : Machine β σ).LooksUp site k key v
  copies : ∀ (s : Stack) index k, s.offset? index = some k → s.slots[k]? = some (.table id) →
    s.size + 1 < s.config.capacity →
    (change (·.pushCopy index) : StackM β σ Unit) ⟨s, w⟩ = .ok () ⟨s.extend [.table id], w⟩ ∧
      (⟨s.extend [.table id], w⟩ : Machine β σ).LooksUp site s.size key v
  removals : ∀ (s : Stack) index k, s.offset? index = some k → s.slots[k]? = some (.table id) →
    s.size ≤ s.config.capacity →
    ∃ s', (remove index : StackM β σ Value) ⟨s, w⟩ = .ok (.table id) ⟨s', w⟩ ∧
      s'.slots = s.slots.eraseIdx k ∧ ∀ k', s'.slots[k']? = some (.table id) →
        (⟨s', w⟩ : Machine β σ).LooksUp site k' key v
  globals : ∀ (s : Stack) name, (w.heap.table Heap.globals).get (.text name) = .table id →
    s.size + 1 < s.config.capacity →
    pushGlobal site name ⟨s, w⟩ = .ok () ⟨s.extend [.table id], w⟩ ∧
      (⟨s.extend [.table id], w⟩ : Machine β σ).LooksUp site s.size key v
  handles : ∀ (s : Stack) tableName, s.size + 1 < s.config.capacity →
    ScriptFunction.pushBound site ⟨key, some (tableName, id)⟩ ⟨s, w⟩ = .ok () ⟨s.extend [v], w⟩

section Writing

variable {site : Script.Site β σ} {m : Machine β σ} {w : World β σ} {k : Nat} {id : ObjectId}
  {key : String} {v : Value}

theorem shows_of_field (bare : w.heap.Bare) (hv : w.heap.field id key = v) :
    w.Shows site id key v := by
  have hslots : ∀ (s : Stack) k, s.slots[k]? = some (.table id) →
      s.size < s.config.capacity → (⟨s, w⟩ : Machine β σ).LooksUp site k key v := by
    intro s k holds free
    exact looksUp_of_field (m := ⟨s, w⟩) bare hv holds free
  have htop : ∀ s : Stack, s.size + 1 < s.config.capacity →
      (⟨s.extend [.table id], w⟩ : Machine β σ).LooksUp site s.size key v := by
    intro s free
    apply hslots _ _ (s.getElem?_extend_top _)
    rwa [Stack.size_extend]
  refine ⟨hslots, ?_, ?_, ?_, ?_⟩
  · intro s index k named holds free
    have hpeek : s.peek index = some (.table id) := by
      rw [Stack.peek, named, Option.bind_some, holds]
    refine ⟨?_, htop s free⟩
    rw [pushCopy_of_peek (m := ⟨s, w⟩) hpeek, push_apply, if_pos (Nat.lt_of_succ_lt free)]
  · intro s index k named holds fits
    have hk : k < s.slots.length := (List.getElem?_eq_some_iff.mp holds).1
    have hremove : s.remove index = .ok (.table id, { s with slots := s.slots.eraseIdx k }) :=
      Stack.remove_ok_iff.mpr ⟨k, named, holds, rfl⟩
    refine ⟨_, take_of_ok (m := ⟨s, w⟩) (f := (·.remove index)) hremove, rfl, ?_⟩
    intro k' holds'
    apply hslots _ _ holds'
    have hlength : (s.slots.eraseIdx k).length = s.slots.length - 1 := List.length_eraseIdx_of_lt hk
    change (s.slots.eraseIdx k).length < s.config.capacity
    change s.slots.length ≤ s.config.capacity at fits
    omega
  · intro s name bound free
    have plain : site.ReadsPlainly w.heap Heap.globals name := .inl (bare Heap.globals)
    have hpush := pushGlobal_of_plain (m := ⟨s, w⟩) plain (Nat.lt_of_succ_lt free)
    have hfield : w.heap.field Heap.globals name = .table id := by
      rw [Heap.field, bound]
      rfl
    rw [hfield] at hpush
    exact ⟨hpush, htop s free⟩
  · intro s tableName free
    let handle : FunctionBinding := ⟨key, some (tableName, id)⟩
    have plain : site.ReadsPlainly w.heap handle.home handle.name := .inl (bare id)
    rw [← hv]
    exact ScriptFunction.pushBound_of_plain (m := ⟨s, w⟩) plain free

/-- Storing a value in the table of a slot: by every index that names the slot once the value lies
on top, the stack is as it was, the table shows the value, and every other key and every other table
shows what it showed. -/
structure Machine.StoresField (m : Machine β σ) (site : Script.Site β σ) (k : Nat) (id : ObjectId)
    (key : String) (v : Value) (w : World β σ) : Prop where
  stored : ∀ index, (m.stack.extend [v]).offset? index = some k →
    (push v >>= fun _ => storeField site index key) m = .ok () { m with world := w }
  shown : w.Shows site id key v.detached
  kept : ∀ other name, (other ≠ id ∨ name ≠ key) →
    ∃ u, m.world.Shows site other name u ∧ w.Shows site other name u
  values : ∀ other u, (other ≠ id ∨ u.normalKey ≠ .text key) →
    (w.heap.table other).get u = (m.world.heap.table other).get u

theorem storesField_of_bare (bare : m.world.heap.Bare) (known : id < m.world.heap.tables.size)
    (holds : m.stack.slots[k]? = some (.table id))
    (free : m.stack.size < m.stack.config.capacity) :
    m.StoresField site k id key v (m.receiving id key v).world := by
  have bare' : (m.world.heap.receiving id key v).Bare := bare.receiving known key v
  constructor
  · intro index named
    have holds' : (m.stack.extend [v]).slots[k]? = some (.table id) := by
      rw [Stack.slots_extend, List.getElem?_append_left (List.getElem?_eq_some_iff.mp holds).1,
        holds]
    rw [bind_of_ok (push_ok_iff.mpr ⟨free, rfl⟩)]
    exact storeField_of_bare (m := { m with stack := m.stack.extend [v] }) bare rfl named holds'
  · exact shows_of_field bare' (Heap.field_receiving_same known key v)
  · intro other name ne
    have hkey : other ≠ id ∨ (Value.text name).normalKey ≠ .text key := by
      rcases ne with hother | hname
      · exact .inl hother
      · exact .inr fun h => hname (Value.text_inj h)
    have hfield : (m.world.heap.receiving id key v).field other name =
        m.world.heap.field other name := by
      rw [Heap.field, Heap.get_receiving_ne known hkey, Heap.field]
    exact ⟨_, shows_of_field bare rfl, shows_of_field bare' hfield⟩
  · intro other u ne
    exact Heap.get_receiving_ne known ne v

end Writing

/-- A field is one place, however it is named. What is stored in the table of a slot is read back by
name and by key, through every other way to the table, and nothing else changes. An absolute index
names a slot whatever lies above it. On every stack both ways to read come to the same, an index
from the top being one further away when the key lies there. A table that is stored by an index that
names the top is stored in itself, and one that is exchanged is looked up under itself. -/
theorem stored_field_shows (site : Script.Site β σ) (m : Machine β σ) (k : Nat) (id : ObjectId)
    (key : String) (v : Value) (bare : m.world.heap.Bare)
    (known : id < m.world.heap.tables.size) (holds : m.stack.slots[k]? = some (.table id))
    (free : m.stack.size < m.stack.config.capacity) :
    (∃ w, m.StoresField site k id key v w) ∧
    (∀ index vs, 0 < index → m.stack.offset? index = some k →
      (m.stack.extend vs).offset? index = some k) ∧
    (∀ (n n' : Machine β σ) name index, 0 < index →
      (pushField site index name n = .ok () n' ↔ pushKeyed site index name n = .ok () n')) ∧
    (∀ (n n' : Machine β σ) name (depth : Nat), 0 < depth →
      (pushField site (-depth) name n = .ok () n' ↔
        pushKeyed site (-((depth : Int) + 1)) name n = .ok () n')) ∧
    (∀ (s : Stack) index, (s.extend [.table id]).offset? index = some s.size →
      ∃ w, storeField site index key ⟨s.extend [.table id], m.world⟩ = .ok () ⟨s, w⟩ ∧
        w.Shows site id key (.table id)) ∧
    (∀ (s : Stack) index, (s.extend [.table id]).offset? index = some s.size →
      s.size < s.config.capacity →
      swapField site index ⟨s.extend [.table id], m.world⟩ = .ok ()
        ⟨s.extend [((m.world.heap.table id).get (.table id)).detached], m.world⟩) := by
  refine ⟨⟨_, storesField_of_bare bare known holds free⟩, ?_, ?_, ?_, ?_, ?_⟩
  · intro index vs hpos named
    exact Stack.offset?_extend_of_pos vs hpos named
  · intro n n' name index hpos
    apply pushField_iff_pushKeyed
    intro j hj
    exact (Stack.offset?_extend_iff_of_pos _ hpos hj).symm
  · intro n n' name depth hpos
    apply pushField_iff_pushKeyed
    intro j hj
    exact (Stack.offset?_extend_iff_of_neg _ hpos).symm
  · intro s index named
    let topped : Machine β σ := ⟨s.extend [.table id], m.world⟩
    have hrun : storeField site index key topped =
        .ok () ({ topped with stack := s }.receiving id key (.table id)) :=
      storeField_of_bare bare rfl named (s.getElem?_extend_top _)
    have hfield := Heap.field_receiving_same (h := m.world.heap) known key (.table id)
    exact ⟨_, hrun, shows_of_field (bare.receiving known key _) hfield⟩
  · intro s index named free
    exact swapField_self (m := ⟨s.extend [.table id], m.world⟩) bare rfl named free

/-- A number is stored in the table at the bottom of a stack, by an index from the top, and read
back by name, by key, through the global that the table is bound to and through a handle. -/
theorem stored_field_shows_number :
    let site : Script.Site Unit Unit := .outermost fun _ _ args => return args
    let globals : Table := { Table.empty with entries := [(.text "alias", .table 1)] }
    let w : World Unit Unit := ⟨{ Heap.initial with tables := #[globals, .empty] }, [], ()⟩
    let s : Stack := ⟨[.table 1], Config.standard.withCapacity 3, false, []⟩
    w.heap.Bare ∧ ∃ w', (push (.integer 7) >>= fun _ => storeField site (-2) "k") ⟨s, w⟩ =
        .ok () ⟨s, w'⟩ ∧
      pushField site (-1) "k" ⟨s, w'⟩ = .ok () ⟨s.extend [.integer 7], w'⟩ ∧
      pushKeyed site (-2) "k" ⟨s, w'⟩ = .ok () ⟨s.extend [.integer 7], w'⟩ ∧
      pushGlobal site "alias" ⟨s, w'⟩ = .ok () ⟨s.extend [.table 1], w'⟩ ∧
      ScriptFunction.pushBound site ⟨"k", some ("alias", 1)⟩ ⟨s, w'⟩ =
        .ok () ⟨s.extend [.integer 7], w'⟩ := by
  intro site globals w s
  have bare : w.heap.Bare
    | 0 => rfl
    | 1 => rfl
    | _ + 2 => rfl
  obtain ⟨⟨w', stores⟩, -⟩ := stored_field_shows site ⟨s, w⟩ 0 1 "k" (.integer 7)
    bare (by decide) rfl (by decide)
  have hshown := stores.shown.slots s 0 rfl (by decide)
  have hbound : (w'.heap.table Heap.globals).get (.text "alias") = .table 1 := by
    rw [stores.values _ _ (.inl (by decide))]
    decide
  exact ⟨bare, w', stores.stored (-2) rfl, hshown.named (-1) rfl, hshown.keyed (-2) rfl,
    (stores.shown.globals s "alias" hbound (by decide)).1,
    stores.shown.handles s "alias" (by decide)⟩

end ScriptBridge
