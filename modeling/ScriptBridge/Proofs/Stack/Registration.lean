import ScriptBridge.Proofs.Stack.Members

/-!
# Registering callbacks

A callback that is registered becomes a function and the value of a global. `register_cases` takes a
registration apart, and `Heap.Binds` says what it does to the tables where no metamethod of the
globals takes the write for itself. Every registration gives back the slot that it takes, so a batch
is installed as a whole or not at all: `install_all_or_nothing`.
-/

namespace ScriptBridge

open HostM StackM

variable {β σ : Type}

/-! ## The heap -/

/-- A callback has become a function and the value of the global of its name. What the other globals
and the other tables hold, and their metatables, are as they were. -/
structure Heap.Binds (h h' : Heap β) (callback : Callback β) (config : Config) : Prop where
  bound : (h'.table Heap.globals).get (.text callback.name) = .function h.functions.size
  functions : h'.functions = h.functions.push (.host callback config)
  kept : ∀ id key, id ≠ Heap.globals ∨ key.normalKey ≠ .text callback.name →
    (h'.table id).get key = (h.table id).get key
  metatables : ∀ id, (h'.table id).metatable = (h.table id).metatable
  size : h'.tables.size = h.tables.size

namespace Heap

variable {h h' : Heap β} {callback : Callback β} {config : Config}

theorem binds_of_storing (known : Heap.globals < h.tables.size)
    (stored : h' = ((Member.callback callback).made config h).storing Heap.globals callback.name
      (.function h.functions.size)) : h.Binds h' callback config := by
  let made := (Member.callback callback).made config h
  have htables : made.tables = h.tables := Member.tables_made _ _ _
  have hknown : Heap.globals < made.tables.size := by rwa [htables]
  have hglobals : h'.table Heap.globals =
      (h.table Heap.globals).set (.text callback.name) (.function h.functions.size) := by
    rw [stored, storing, table_modifyTable_same hknown, Member.table_made]
  have hother : ∀ id, id ≠ Heap.globals → h'.table id = h.table id := by
    intro id ne
    rw [stored, storing, table_modifyTable_ne _ ne, Member.table_made]
  constructor
  · rw [hglobals, Table.get_set_same]
  · rw [stored]
    rfl
  · intro id key ne
    by_cases hid : id = Heap.globals
    · subst hid
      have hkey := ne.resolve_left fun h => h rfl
      rw [hglobals, Table.get_set_ne _ hkey]
    · rw [hother id hid]
  · intro id
    by_cases hid : id = Heap.globals
    · subst hid
      rw [hglobals, Table.metatable_set]
    · rw [hother id hid]
  · rw [stored, storing, modifyTable, Array.size_modify, htables]

/-- The global is a function that behaves as the callback. -/
theorem Binds.function (binds : h.Binds h' callback config) :
    ∃ id, (h'.table Heap.globals).get (.text callback.name) = .function id ∧
      h'.functions[id]? = some (.host callback config) := by
  refine ⟨h.functions.size, binds.bound, ?_⟩
  rw [binds.functions, Array.getElem?_push_size]

theorem Binds.functions_kept (binds : h.Binds h' callback config) {id : ObjectId}
    {f : FunctionObject β} (found : h.functions[id]? = some f) : h'.functions[id]? = some f := by
  have hlt : id < h.functions.size := (Array.getElem?_eq_some_iff.mp found).1
  rw [binds.functions, Array.getElem?_push_lt hlt, ← found, Array.getElem?_eq_getElem hlt]

/-- A registration that does not name a metamethod leaves the globals as open to writes as they
were. -/
theorem Binds.writesPlainly {site : Script.Site β σ} {name : String}
    (binds : h.Binds h' callback config)
    (apart : (h.table Heap.globals).metatable = some Heap.globals → callback.name ≠ "__newindex")
    (plain : site.WritesPlainly h Heap.globals name) :
    site.WritesPlainly h' Heap.globals name := by
  refine ⟨by rw [binds.size]; exact plain.known, ?_⟩
  rcases plain.plain with hnone | ⟨hlevel, hfree⟩
  · left
    rw [binds.metatables, hnone]
  · right
    refine ⟨hlevel, ?_⟩
    by_cases hname : name = callback.name
    · left
      subst hname
      rw [binds.bound]
      exact Value.noConfusion
    · have hget : (h'.table Heap.globals).get (.text name) =
          (h.table Heap.globals).get (.text name) :=
        binds.kept _ _ (.inr fun h => hname (Value.text_inj h))
      rcases hfree with hpresent | hmeta
      · left
        rwa [hget]
      · right
        rw [← hmeta]
        simp only [metamethod, metatable, binds.metatables]
        cases hmetatable : (h.table Heap.globals).metatable with
        | none => rfl
        | some id =>
          simp only
          apply binds.kept
          by_cases hid : id = Heap.globals
          · right
            intro h
            subst hid
            exact apart hmetatable (Value.text_inj h).symm
          · exact .inl hid

end Heap

/-! ## One callback -/

/-- A registration was done: the slots are as they were, the callback is noted, and its function was
written to the globals. -/
structure Machine.Registers (m : Machine β σ) (site : Script.Site β σ) (callback : Callback β)
    (m' : Machine β σ) : Prop where
  free : m.stack.size < m.stack.config.capacity
  stack : m'.stack = m.stack.note callback.name callback.minArgs
  written : ∃ w, script site (site.writeField Heap.globals (.text callback.name)
      (.function m.world.heap.functions.size)) (m.making (.callback callback)) =
        .ok () ⟨m.stack, w⟩ ∧ m'.world.heap = w.heap

section Register

variable {site : Script.Site β σ} {m m' : Machine β σ} {callback : Callback β}

theorem register_of_full (full : m.stack.config.capacity ≤ m.stack.size) :
    register site callback m = .error (.error m.stack.overflow) m := by
  have hpush := pushCallback_eq callback m
  rw [if_neg (Nat.not_lt_of_le full)] at hpush
  exact bind_of_error hpush

/-- A registration is refused before anything happens, or fails when the global is written, or is
done. -/
theorem register_cases (site : Script.Site β σ) (callback : Callback β) (m : Machine β σ) :
    (m.stack.config.capacity ≤ m.stack.size ∧
      register site callback m = .error (.error m.stack.overflow) m) ∨
    (m.stack.size < m.stack.config.capacity ∧ ∃ failure w,
      script site (site.writeField Heap.globals (.text callback.name)
        (.function m.world.heap.functions.size)) (m.making (.callback callback)) =
          .error failure ⟨m.stack, w⟩ ∧
      register site callback m = .error failure ⟨m.stack, w⟩) ∨
    ∃ m', register site callback m = .ok () m' ∧ m.Registers site callback m' := by
  by_cases free : m.stack.size < m.stack.config.capacity
  · right
    let carrying := m.carrying (.callback callback)
    have hpush : (pushCallback callback : StackM β σ Unit) m = .ok () carrying := by
      rw [pushCallback_eq, if_pos free]
      rfl
    have htake : (popValue : StackM β σ Value) carrying =
        .ok (.function m.world.heap.functions.size) (m.making (.callback callback)) :=
      popValue_apply (m := carrying) rfl
    have hbind : bindGlobal site callback.name carrying =
        script site (site.writeField Heap.globals (.text callback.name)
          (.function m.world.heap.functions.size)) (m.making (.callback callback)) :=
      bind_of_ok htake
    cases hwrite : script site (site.writeField Heap.globals (.text callback.name)
        (.function m.world.heap.functions.size)) (m.making (.callback callback)) with
    | ok _ m₁ =>
      right
      have hstack : m₁ = ⟨m.stack, m₁.world⟩ := by
        rw [show m.stack = m₁.stack from (script_ok hwrite).2.symm]
      refine ⟨_, (bind_of_ok hpush).trans ((bind_of_ok (hbind.trans hwrite)).trans rfl), free, ?_,
        m₁.world, hstack ▸ hwrite, rfl⟩
      rw [hstack]
    | error failure m₁ =>
      left
      have hstack : m₁ = ⟨m.stack, m₁.world⟩ := by
        rw [show m.stack = m₁.stack from (script_failure hwrite).symm]
      refine ⟨free, failure, m₁.world, by rw [← hstack], ?_⟩
      rw [← hstack]
      exact (bind_of_ok hpush).trans (bind_of_error (hbind.trans hwrite))
  · left
    have full := Nat.le_of_not_lt free
    exact ⟨full, register_of_full full⟩

theorem registers_of_ok (run : register site callback m = .ok () m') :
    m.Registers site callback m' := by
  rcases register_cases site callback m with ⟨-, hrun⟩ | ⟨-, _, _, -, hrun⟩ | ⟨_, hrun, registers⟩
  · cases run.symm.trans hrun
  · cases run.symm.trans hrun
  · cases run.symm.trans hrun
    exact registers

/-- A registration that fails leaves the stack as it was. -/
theorem stack_of_register_error {failure : Failure StackError}
    (run : register site callback m = .error failure m') : m'.stack = m.stack := by
  rcases register_cases site callback m with ⟨-, hrun⟩ | ⟨-, _, _, -, hrun⟩ | ⟨_, hrun, -⟩
  · cases run.symm.trans hrun
    rfl
  · cases run.symm.trans hrun
    rfl
  · cases run.symm.trans hrun

/-- What a registration does to the heap, where no metamethod takes the write. -/
theorem Machine.Registers.binds (registers : m.Registers site callback m')
    (known : Heap.globals < m.world.heap.tables.size)
    (raw : m.world.heap.WritesRaw Heap.globals callback.name) :
    m.world.heap.Binds m'.world.heap callback m.stack.config := by
  obtain ⟨w, hwrite, hheap⟩ := registers.written
  let written : Machine β σ := ⟨m.stack, w⟩
  have hstored : written.world.heap = ((Member.callback callback).made m.stack.config
      m.world.heap).storing Heap.globals callback.name (.function m.world.heap.functions.size) :=
    heap_of_written known raw hwrite
  exact Heap.binds_of_storing known (hheap.trans hstored)

theorem register_of_plain (plain : site.WritesPlainly m.world.heap Heap.globals callback.name)
    (free : m.stack.size < m.stack.config.capacity) :
    ∃ m', register site callback m = .ok () m' ∧ m.Registers site callback m' := by
  rcases register_cases site callback m with ⟨full, -⟩ | ⟨-, failure, w, hwrite, -⟩ | hdone
  · omega
  · -- the heap with the new function has the same tables
    have plain' : site.WritesPlainly (m.making (.callback callback)).world.heap Heap.globals
        callback.name := ⟨plain.known, plain.plain⟩
    have hdone := Script.Site.writeField_of_plain (v := .function m.world.heap.functions.size)
      plain' rfl
    have hscript : script site (site.writeField Heap.globals (.text callback.name)
        (.function m.world.heap.functions.size)) (m.making (.callback callback)) = .ok () _ :=
      bind_of_ok (attemptScript_of_ok hdone)
    rw [hscript] at hwrite
    cases hwrite
  · exact hdone

end Register

/-! ## Batches -/

/-- The globals take values under some names without a metamethod, and none of the values becomes
one: the globals are not their own metatable, or the name of the metamethod is none of the names. -/
structure Script.Site.AssignsGlobals (site : Script.Site β σ) (h : Heap β) (names : List String) :
    Prop where
  plain : ∀ name ∈ names, site.WritesPlainly h Heap.globals name
  apart : (h.table Heap.globals).metatable = some Heap.globals → "__newindex" ∉ names

/-- A batch was installed: the slots are as they were, every name is the global of the last callback
of that name, and the other globals, the other tables and the functions that there were are as they
were. -/
structure Machine.Installed (m : Machine β σ) (batch : CallbackBatch β) (m' : Machine β σ) :
    Prop where
  slots : m'.stack.slots = m.stack.slots
  config : m'.stack.config = m.stack.config
  bound : ∀ before callback after, batch = before ++ callback :: after →
    callback.name ∉ CallbackBatch.names after →
    ∃ id, (m'.world.heap.table Heap.globals).get (.text callback.name) = .function id ∧
      m'.world.heap.functions[id]? = some (.host callback m.stack.config)
  kept : ∀ id (key : Value), (id ≠ Heap.globals ∨ ∀ callback ∈ batch,
      key.normalKey ≠ .text callback.name) →
    (m'.world.heap.table id).get key = (m.world.heap.table id).get key
  functions : ∀ (id : ObjectId) f, m.world.heap.functions[id]? = some f →
    m'.world.heap.functions[id]? = some f

section Install

variable {site : Script.Site β σ} {m m₁ m' : Machine β σ} {callback : Callback β}
  {batch : CallbackBatch β}

theorem Machine.installed_nil (m : Machine β σ) : m.Installed [] m where
  slots := rfl
  config := rfl
  bound before callback after h := by
    cases before <;> cases h
  kept _ _ _ := rfl
  functions _ _ h := h

/-- A callback and then the rest of a batch. -/
theorem Machine.Installed.cons (registers : m.Registers site callback m₁)
    (binds : m.world.heap.Binds m₁.world.heap callback m.stack.config)
    (installed : m₁.Installed batch m') : m.Installed (callback :: batch) m' := by
  have hslots : m₁.stack.slots = m.stack.slots := by rw [registers.stack]; rfl
  have hconfig : m₁.stack.config = m.stack.config := by rw [registers.stack]; rfl
  constructor
  · rw [installed.slots, hslots]
  · rw [installed.config, hconfig]
  · intro before last after hbatch hlast
    cases before with
    | nil =>
      -- no later callback has the name, so the rest of the batch leaves the global
      obtain ⟨rfl, rfl⟩ := List.cons.inj hbatch
      obtain ⟨id, hbound, hfunction⟩ := binds.function
      refine ⟨id, ?_, installed.functions id _ hfunction⟩
      rw [← hbound]
      apply installed.kept
      right
      intro other hother h
      exact hlast (Value.text_inj h ▸ List.mem_map_of_mem hother)
    | cons first before =>
      obtain ⟨-, hrest⟩ := List.cons.inj hbatch
      rw [← hconfig]
      exact installed.bound before last after hrest hlast
  · intro id key ne
    have hfirst : id ≠ Heap.globals ∨ key.normalKey ≠ .text callback.name :=
      ne.imp_right fun h => h callback List.mem_cons_self
    have hrest : id ≠ Heap.globals ∨ ∀ other ∈ batch, key.normalKey ≠ .text other.name :=
      ne.imp_right fun h other hother => h other (List.mem_cons_of_mem _ hother)
    rw [installed.kept id key hrest, binds.kept id key hfirst]
  · intro id f found
    exact installed.functions id f (binds.functions_kept found)

theorem Script.Site.AssignsGlobals.rest
    (assigns : site.AssignsGlobals m.world.heap (CallbackBatch.names (callback :: batch)))
    (binds : m.world.heap.Binds m₁.world.heap callback m.stack.config) :
    site.AssignsGlobals m₁.world.heap (CallbackBatch.names batch) := by
  constructor
  · intro name hname
    apply binds.writesPlainly
    · intro hmetatable h
      exact assigns.apart hmetatable (h ▸ List.mem_cons_self)
    · exact assigns.plain name (List.mem_cons_of_mem _ hname)
  · intro hmetatable hname
    rw [binds.metatables] at hmetatable
    exact assigns.apart hmetatable (List.mem_cons_of_mem _ hname)

/-- Every registration finds the slot free that the one before it gave back. -/
theorem install_of_free (assigns : site.AssignsGlobals m.world.heap (CallbackBatch.names batch))
    (free : m.stack.size < m.stack.config.capacity) :
    ∃ m', install site batch m = .ok () m' ∧ m.Installed batch m' := by
  induction batch generalizing m with
  | nil => exact ⟨m, rfl, m.installed_nil⟩
  | cons callback batch ih =>
    have plain := assigns.plain callback.name List.mem_cons_self
    obtain ⟨m₁, hregister, registers⟩ := register_of_plain plain free
    have raw : m.world.heap.WritesRaw Heap.globals callback.name :=
      plain.plain.imp_right And.right
    have binds := registers.binds plain.known raw
    have free₁ : m₁.stack.size < m₁.stack.config.capacity := by
      rw [registers.stack]
      exact free
    obtain ⟨m', hinstall, installed⟩ := ih (assigns.rest binds) free₁
    exact ⟨m', (bind_of_ok hregister).trans hinstall, installed.cons registers binds⟩

theorem install_of_full (hne : batch ≠ []) (full : m.stack.config.capacity ≤ m.stack.size) :
    install site batch m = .error (.error m.stack.overflow) m := by
  cases batch with
  | nil => exact absurd rfl hne
  | cons callback batch => exact bind_of_error (register_of_full full)

end Install

/-- A batch is installed as a whole or not at all. With a free slot it is installed, each name as
the last callback of that name; on a full stack nothing happens, and a batch that is not empty
reports the overflow. However an installation ends, one of the two is the case. -/
theorem install_all_or_nothing (site : Script.Site β σ) (batch : CallbackBatch β) (m : Machine β σ)
    (assigns : site.AssignsGlobals m.world.heap (CallbackBatch.names batch)) :
    (m.stack.size < m.stack.config.capacity →
      ∃ m', install site batch m = .ok () m' ∧ m.Installed batch m') ∧
    (m.stack.config.capacity ≤ m.stack.size → batch ≠ [] →
      install site batch m = .error (.error m.stack.overflow) m) ∧
    (∀ m', install site batch m = .ok () m' → m.Installed batch m') ∧
    (∀ failure m', install site batch m = .error failure m' → m' = m) := by
  have hending : (∃ m', install site batch m = .ok () m' ∧ m.Installed batch m') ∨
      install site batch m = .error (.error m.stack.overflow) m := by
    by_cases free : m.stack.size < m.stack.config.capacity
    · exact .inl (install_of_free assigns free)
    · cases batch with
      | nil => exact .inl ⟨m, rfl, m.installed_nil⟩
      | cons callback batch =>
        exact .inr (install_of_full (List.cons_ne_nil _ _) (Nat.le_of_not_lt free))
  refine ⟨install_of_free assigns, fun full hne => install_of_full hne full, ?_, ?_⟩
  · intro m' run
    rcases hending with ⟨m₁, hrun, installed⟩ | hrun
    · cases run.symm.trans hrun
      exact installed
    · cases run.symm.trans hrun
  · intro failure m' run
    rcases hending with ⟨m₁, hrun, -⟩ | hrun
    · cases run.symm.trans hrun
    · cases run.symm.trans hrun
      rfl

/-- One free slot is enough for three callbacks, two of them of one name; without it none of them is
installed. -/
theorem install_all_or_nothing_shadowed :
    let site : Script.Site Nat Unit := .outermost fun _ _ args => return args
    let last : Callback Nat := ⟨"f", 1, 3⟩
    let batch : CallbackBatch Nat := [⟨"f", 0, 1⟩, ⟨"g", 0, 2⟩, last]
    let m : Machine Nat Unit := ⟨.ofConfig (Config.standard.withCapacity 1), ⟨.initial, [], ()⟩⟩
    let full : Machine Nat Unit := { m with stack := m.stack.extend [.nil] }
    site.AssignsGlobals m.world.heap batch.names ∧
      (∃ m', install site batch m = .ok () m' ∧ m'.stack.slots = [] ∧
        ∃ id, (m'.world.heap.table Heap.globals).get (.text "f") = .function id ∧
          m'.world.heap.functions[id]? = some (.host last m.stack.config)) ∧
      install site batch full = .error (.error (.overflow 1)) full := by
  intro site last batch m full
  have assigns : site.AssignsGlobals m.world.heap batch.names :=
    ⟨fun _ _ => ⟨by decide, .inl rfl⟩, fun h => nomatch h⟩
  obtain ⟨hfree, -⟩ := install_all_or_nothing site batch m assigns
  obtain ⟨-, hfull, -⟩ := install_all_or_nothing site batch full assigns
  obtain ⟨m', hrun, installed⟩ := hfree (by decide)
  have hlast := installed.bound [⟨"f", 0, 1⟩, ⟨"g", 0, 2⟩] last [] rfl (by decide)
  exact ⟨assigns, ⟨m', hrun, installed.slots, hlast⟩, hfull (by decide) (List.cons_ne_nil _ _)⟩

end ScriptBridge
