import ScriptBridge.Proofs.Record.Decision
import ScriptBridge.Proofs.Session.Scopes
import ScriptBridge.Proofs.Stack.Members

/-!
# Positions

A slot has two indices, one from the bottom and one from the top. The one from the bottom is its
position: it names the same slot for as long as nothing at it or below it is taken off, whatever
happens above. `Session.ReachedAbove` says what a stack can become by steps and by the ends of
scopes that leave the lowest slots alone, and `positions_sound_and_stable` that these slots keep
their values and positions, so that a new table is found by its position during all that.
-/

namespace ScriptBridge

open HostM StackM Session

variable {β σ : Type}

/-! ## The two indices of a slot -/

namespace Stack

variable {s s' : Stack} {index position : Int} {k : Nat}

/-- Where every slot has a position, the index of a slot is not zero and not further from it than
there are slots, and an index from the top is counted from there. -/
theorem absolute_eq_some_iff_of_le (hle : s.size ≤ maxIndex) :
    s.absolute index = some position ↔
      index ≠ 0 ∧ index.natAbs ≤ s.size ∧
        position = if 0 < index then index else s.size + 1 + index := by
  rw [absolute_eq_some_iff]
  constructor
  · rintro ⟨k, -, rfl, hk⟩
    obtain ⟨hlt, hindex⟩ := offset?_eq_some_iff.mp hk
    refine ⟨by omega, by omega, ?_⟩
    split <;> omega
  · rintro ⟨hne, habs, rfl⟩
    split
    next hpos =>
      refine ⟨index.toNat - 1, by omega, by omega, offset?_eq_some_iff.mpr ?_⟩
      omega
    next hneg =>
      refine ⟨s.size - index.natAbs, by omega, by omega, offset?_eq_some_iff.mpr ?_⟩
      omega

/-- Slots that lie at the bottom of another stack have their values and positions there. -/
theorem Holds.peek_position (located : s.absolute index = some position)
    (h : s'.Holds (s.slots.take position.toNat)) :
    s'.peek position = s.peek index ∧ s'.absolute position = some position := by
  obtain ⟨k, hindex, rfl, hk⟩ := absolute_eq_some_iff.mp located
  have hlt : k < s.size := offset?_lt hk
  have hcount : ((k : Int) + 1).toNat = k + 1 := by omega
  rw [hcount] at h
  -- the slot is the topmost of those at the bottom, so there is one more of them than below it
  have hlength : (s.slots.take (k + 1)).length = k + 1 := List.length_take_of_le hlt
  have hlt' : k < s'.size := by
    have hle := h.length_le
    omega
  have hslot : s'.slots[k]? = s.slots[k]? := by
    obtain ⟨rest, hrest⟩ := h
    rw [← hrest, List.getElem?_append_left (by omega), List.getElem?_take_of_lt (by omega)]
  refine ⟨?_, absolute_eq_some_iff.mpr ⟨k, hindex, rfl, offset?_position hlt'⟩⟩
  simp only [peek, offset?_position hlt', hk, Option.bind_some, hslot]

theorem peek_of_absolute (located : s.absolute index = some position) :
    s.peek position = s.peek index ∧ s.absolute position = some position :=
  Holds.peek_position located (List.take_prefix _ _)

/-- The index from the top of a slot that has a position. -/
theorem absolute_from_top (located : s.absolute index = some position) :
    s.absolute (position - (s.size + 1)) = some position := by
  obtain ⟨k, hindex, rfl, hk⟩ := absolute_eq_some_iff.mp located
  refine absolute_eq_some_iff.mpr ⟨k, hindex, rfl, offset?_eq_some_iff.mpr ⟨offset?_lt hk, ?_⟩⟩
  omega

theorem exists_peek_of_absolute (located : s.absolute index = some position) :
    ∃ v, s.peek index = some v ∧ s.peek position = some v := by
  obtain ⟨k, -, -, hk⟩ := absolute_eq_some_iff.mp located
  have hlt : k < s.slots.length := offset?_lt hk
  have hvalue : s.peek index = some s.slots[k] := by
    simp only [peek, hk, Option.bind_some, List.getElem?_eq_getElem hlt]
  exact ⟨_, hvalue, (peek_of_absolute located).1.trans hvalue⟩

/-- Whatever asks for the value at an index that names no slot finds none. -/
theorem inspect_of_absent (hle : s.size ≤ maxIndex) (absent : s.absolute index = none) :
    inspect s index = ⟨.none, none, none, none, none, none, false⟩ ∧
      s.table index = .error (.invalidIndex index) := by
  have hpeek : s.peek index = none := (absolute_eq_none_iff hle index).mp absent
  constructor
  · simp only [inspect, kind, toDouble?, toInteger?, toText?, isTrue, absent, hpeek,
      Option.elim_none, Option.bind_none]
  · simp only [table, hpeek]

end Stack

/-! ## Runs above a part of a stack -/

namespace Session

/-- Neither a step nor one that comes to run within it, however deep within scopes, takes off one of
so many slots at the bottom. -/
def Step.StaysAbove (count : Nat) (site : Script.Site Body Memory) (step : Step)
    (m : Machine Body Memory) : Prop :=
  ∀ inner m', Runs site "" [.mk step false] m inner m' → inner.LeavesAlone count m'.stack

/-- What a stack becomes by steps and by the ends of scopes, at any sites and in any worlds, when
none of them takes off one of so many slots at the bottom. A step may end in an error or a panic,
and others may follow it. -/
inductive ReachedAbove (count : Nat) (start : Stack) : Stack → Prop
  | start : ReachedAbove count start start
  | step {m : Machine Body Memory} (reached : ReachedAbove count start m.stack)
    {site : Script.Site Body Memory} {step : Step} (above : step.StaysAbove count site m) :
    ReachedAbove count start (Ending.machine (perform site step m)).stack
  | finish {m : Machine Body Memory} (reached : ReachedAbove count start m.stack)
    (scope : BalanceScope) :
    ReachedAbove count start (Ending.machine ((scope.finish : SessionM Unit) m)).stack
  | abandon {m : Machine Body Memory} (reached : ReachedAbove count start m.stack)
    {scope : BalanceScope} (younger : scope.entry < m.stack.size → count ≤ scope.entry) :
    ReachedAbove count start (Ending.machine ((scope.abandon : SessionM Unit) m)).stack

section Runs

variable {count : Nat} {p : List Value} {m : Machine Body Memory}

theorem ReachedAbove.of_ok {start : Stack} {m' : Machine Body Memory}
    {site : Script.Site Body Memory} {step : Step} {gain : Gain}
    (reached : ReachedAbove count start m.stack) (above : step.StaysAbove count site m)
    (run : perform site step m = .ok gain m') : ReachedAbove count start m'.stack := by
  have h := reached.step above
  rwa [run] at h

theorem spares_perform_of_staysAbove {site : Script.Site Body Memory} {step : Step}
    (above : step.StaysAbove p.length site m) (hm : m.stack.Holds p) :
    (perform site step).Spares p m := by
  refine spares_perform step hm (above step m .first) ?_
  rintro label delta steps ending rfl inner m' runs
  exact above inner m' (.within runs)

/-- A step without steps within it. -/
theorem Step.staysAbove_of_leavesAlone {site : Script.Site Body Memory} {step : Step}
    (hscope : ∀ label delta steps ending, step ≠ .inScope label delta steps ending)
    (alone : step.LeavesAlone count m.stack) : step.StaysAbove count site m := by
  intro inner m' runs
  cases runs with
  | first => exact alone
  | within => exact absurd rfl (hscope _ _ _ _)
  | later gave noted runs => cases runs

/-- A scope that is not older than some slots is dropped without them. -/
theorem spares_abandon_of_younger {scope : BalanceScope}
    (younger : scope.entry < m.stack.size → p.length ≤ scope.entry) (hm : m.stack.Holds p) :
    (scope.abandon : SessionM Unit).Spares p m := by
  by_cases hlt : scope.entry < m.stack.size
  · exact BalanceScope.spares_abandon hm (younger hlt)
  · unfold Spares
    rw [BalanceScope.abandon_apply, if_neg hlt]
    exact hm

/-- The slots that every step of a run leaves alone are there at its end. -/
theorem ReachedAbove.holds {start s : Stack} (h : ReachedAbove count start s)
    (hle : count ≤ start.size) : s.Holds (start.slots.take count) := by
  -- each end of the run asks for as many slots as were taken at its start
  have hlength : (start.slots.take count).length = count := List.length_take_of_le hle
  induction h with
  | start => exact List.take_prefix _ _
  | step _ above ih =>
    rw [← hlength] at above
    exact spares_perform_of_staysAbove above ih
  | finish _ scope ih => exact spares_of_moves (BalanceScope.moves_finish (.holds _) scope) ih
  | abandon _ younger ih =>
    rw [← hlength] at younger
    exact spares_abandon_of_younger younger ih

/-- A run above a slot leaves its value and its position. -/
theorem ReachedAbove.peek_position {s s' : Stack} {index position : Int}
    (located : s.absolute index = some position) (h : ReachedAbove position.toNat s s') :
    s'.peek position = s.peek index ∧ s'.absolute position = some position := by
  refine Stack.Holds.peek_position located (h.holds ?_)
  obtain ⟨k, -, rfl, hk⟩ := Stack.absolute_eq_some_iff.mp located
  have hlt := Stack.offset?_lt hk
  omega

end Runs

end Session

/-! ## Tables by their positions -/

/-- Everything that is done to a table by way of an index is done to one table. -/
structure Machine.Addresses (m : Machine β σ) (site : Script.Site β σ) (index : Int)
    (id : ObjectId) : Prop where
  stores : ∀ key, storeField site index key m =
    (popValue >>= fun v => script site (site.writeField id (.text key) v)) m
  swaps : swapField site index m =
    (popValue >>= fun key => script site (site.readField id key) >>= push) m
  reads : ∀ key, pushField site index key m =
    (script site (site.readField id (.text key)) >>= push) m
  adds : ∀ key (member : Member β), addMember site index key member.push m =
    if m.stack.size < m.stack.config.capacity then
      script site (site.writeField id (.text key) (member.value m.world.heap)) (m.making member)
    else .error (.error m.stack.overflow) m

theorem Machine.addresses_of_table {m : Machine β σ} {index position : Int} {id : ObjectId}
    (site : Script.Site β σ) (located : m.stack.absolute index = some position)
    (holds : m.stack.peek index = some (.table id)) : m.Addresses site index id := by
  have table : m.stack.table index = .ok id := by simp only [Stack.table, holds]
  have hview : (view (·.table index) : StackM β σ ObjectId) m = .ok id m := view_of_ok table
  refine ⟨fun key => bind_of_ok hview, bind_of_ok hview, fun key => bind_of_ok hview,
    fun key member => ?_⟩
  split
  next free => exact addMember_of_table located free table
  next full => exact addMember_of_full located (Nat.le_of_not_lt full)

/-- The position of a value that is pushed is one more than there were slots. -/
theorem Stack.absolute_extend_singleton {s : Stack} (v : Value) (hle : s.size + 1 ≤ maxIndex) :
    (s.extend [v]).absolute ((s.size : Int) + 1) = some ((s.size : Int) + 1) ∧
      (s.extend [v]).peek ((s.size : Int) + 1) = some v := by
  have hlt : s.size < (s.extend [v]).size := by
    rw [size_extend]
    exact Nat.lt_succ_self _
  have hoffset := offset?_position hlt
  refine ⟨absolute_eq_some_iff.mpr ⟨s.size, hle, rfl, hoffset⟩, ?_⟩
  simp only [peek, hoffset, Option.bind_some, slots_extend]
  exact List.getElem?_concat_length

/-- A new table is found by its position during every run above it. -/
theorem StackM.addresses_of_pushTable {m m' n : Machine Body Memory} {position index : Int}
    (pushed : (pushTable : StackM Body Memory Int) m = .ok position m')
    (reached : ReachedAbove position.toNat m'.stack n.stack)
    (same : index = position ∨ index = position - (n.stack.size + 1)) :
    n.stack.absolute index = some position ∧
      ∀ site, n.Addresses site index m.world.heap.tables.size := by
  obtain ⟨rfl, hindex, rfl⟩ := pushTable_ok pushed
  obtain ⟨hposition, htable⟩ :=
    Stack.absolute_extend_singleton (.table m.world.heap.tables.size) hindex
  obtain ⟨hkept, located⟩ := reached.peek_position hposition
  have hlocated : n.stack.absolute index = some ((m.stack.size : Int) + 1) := by
    obtain rfl | rfl := same
    · exact located
    · exact Stack.absolute_from_top located
  have holds : n.stack.peek index = some (.table m.world.heap.tables.size) := by
    rw [← (Stack.peek_of_absolute hlocated).1, hkept, htable]
  exact ⟨hlocated, fun site => Machine.addresses_of_table site hlocated holds⟩

/-- Positions are sound. On a stack on which every slot has a position, an index that is not zero
and not further from it than there are slots has one, which names the same slot. No other index has
one, and whatever asks for the value there finds none.

They are stable too: during a run that leaves alone a slot and everything below it, the position of
the slot is what it was and names the same value. So the position at which an empty table is pushed
is an index of this table during every such run, as is the index that then counts from the top, and
by each of them values are stored in it, read from it and added to it. -/
theorem positions_sound_and_stable :
    (∀ (s : Stack) (index : Int), s.size ≤ maxIndex →
      (∀ position, s.absolute index = some position ↔ index ≠ 0 ∧ index.natAbs ≤ s.size ∧
        position = if 0 < index then index else s.size + 1 + index) ∧
      (∀ position, s.absolute index = some position →
        (∃ v, s.peek index = some v ∧ s.peek position = some v) ∧
        s.absolute position = some position) ∧
      (s.absolute index = none →
        inspect s index = ⟨.none, none, none, none, none, none, false⟩ ∧
        s.table index = .error (.invalidIndex index))) ∧
    (∀ (s s' : Stack) (index position : Int), s.absolute index = some position →
      ReachedAbove position.toNat s s' →
      s'.peek position = s.peek index ∧ s'.absolute position = some position) ∧
    (∀ (m m' : Machine Body Memory) (position : Int), pushTable m = .ok position m' →
      position = m.stack.size + 1 ∧ ∃ id, m.world.heap.tables[id]? = none ∧
        m'.world.heap.tables[id]? = some .empty ∧ m'.stack.peek position = some (.table id) ∧
        ∀ n : Machine Body Memory, ReachedAbove position.toNat m'.stack n.stack →
          ∀ index, index = position ∨ index = position - (n.stack.size + 1) →
            n.stack.absolute index = some position ∧
            ∀ site : Script.Site Body Memory, n.Addresses site index id) := by
  refine ⟨fun s index hle => ⟨fun position => Stack.absolute_eq_some_iff_of_le hle,
      fun position located =>
        ⟨Stack.exists_peek_of_absolute located, (Stack.peek_of_absolute located).2⟩,
      Stack.inspect_of_absent hle⟩,
    fun s s' index position located reached => reached.peek_position located, ?_⟩
  intro m m' position pushed
  obtain ⟨hposition, hindex, hm'⟩ := pushTable_ok pushed
  refine ⟨hposition, m.world.heap.tables.size, Array.getElem?_size, ?_, ?_,
    fun n reached index same => addresses_of_pushTable pushed reached same⟩
  · rw [hm']
    exact Array.getElem?_push_size
  · rw [hm', hposition]
    exact (Stack.absolute_extend_singleton _ hindex).2

/-- A table is pushed above a value. Another value is pushed above it, a member is added to the
table by its index from the top, and the other value is popped again. The lowest index of all names
no slot. -/
theorem positions_sound_and_stable_member :
    let site : Script.Site Body Memory := .outermost fun _ _ args => return args
    let m : Machine Body Memory :=
      ⟨⟨[.nil], Config.standard, false, []⟩, ⟨.initial, [], .empty⟩⟩
    ∃ m' n : Machine Body Memory, pushTable m = .ok 2 m' ∧ ReachedAbove 2 m'.stack n.stack ∧
      n.stack.slots = [.nil, .table 1] ∧ (n.world.heap.table 1).get (.text "k") = .integer 7 ∧
      n.stack.peek 2 = some (.table 1) ∧ n.stack.absolute (-1) = some 2 ∧
      n.Addresses site (-1) 1 ∧
      inspect n.stack (-2147483648) = ⟨.none, none, none, none, none, none, false⟩ := by
  intro site m
  obtain ⟨m', m₁, m₂, n, pushed, hposition, hpeek, run₁, run₂, htakes, run₃, hslots, hfield⟩ :
      ∃ m' m₁ m₂ n : Machine Body Memory, pushTable m = .ok 2 m' ∧
        m'.stack.absolute (-1) = some 2 ∧ m'.stack.peek (-1) = some (.table 1) ∧
        perform site (.push (.given (.integer 5))) m' = .ok .nothing m₁ ∧
        perform site (.addMember (-2) "k" (.integer 7)) m₁ = .ok .nothing m₂ ∧
        (Step.pop 1).takesFrom m₂.stack = some 2 ∧
        perform site (.pop 1) m₂ = .ok .nothing n ∧ n.stack.slots = [.nil, .table 1] ∧
        (n.world.heap.table 1).get (.text "k") = .integer 7 :=
    ⟨_, _, _, _, rfl, rfl, rfl, rfl, rfl, rfl, rfl, rfl, rfl⟩
  have pushes : (Step.push (.given (.integer 5))).StaysAbove 2 site m' :=
    Step.staysAbove_of_leavesAlone (fun _ _ _ _ h => nomatch h) fun _ h => nomatch h
  have adds : (Step.addMember (-2) "k" (.integer 7)).StaysAbove 2 site m₁ :=
    Step.staysAbove_of_leavesAlone (fun _ _ _ _ h => nomatch h) fun _ h => nomatch h
  have pops : (Step.pop 1).StaysAbove 2 site m₂ := by
    refine Step.staysAbove_of_leavesAlone (fun _ _ _ _ h => nomatch h) fun k hk => ?_
    cases htakes.symm.trans hk
    exact Nat.le_refl 2
  have reached : ReachedAbove 2 m'.stack n.stack :=
    ((ReachedAbove.start.of_ok pushes run₁).of_ok adds run₂).of_ok pops run₃
  have hsize : n.stack.size = 2 := by
    rw [Stack.size, hslots]
    rfl
  obtain ⟨hsound, hstable, htable⟩ := positions_sound_and_stable
  have hkept : n.stack.peek 2 = some (.table 1) :=
    (hstable m'.stack n.stack (-1) 2 hposition reached).1.trans hpeek
  obtain ⟨-, id, -, -, hid, haddresses⟩ := htable m m' 2 pushed
  have hsame : m'.stack.peek 2 = m'.stack.peek (-1) :=
    (hstable m'.stack m'.stack (-1) 2 hposition .start).1
  cases hid.symm.trans (hsame.trans hpeek)
  obtain ⟨hlocated, haddressed⟩ := haddresses n reached (-1) (.inr (by rw [hsize]; rfl))
  obtain ⟨hsound, -, habsent⟩ := hsound n.stack (-2147483648) (by rw [hsize]; decide)
  have absent : n.stack.absolute (-2147483648) = none := by
    refine Option.eq_none_iff_forall_ne_some.mpr fun position located => ?_
    have hnear := ((hsound position).mp located).2.1
    omega
  exact ⟨m', n, pushed, reached, hslots, hfield, hkept, hlocated, haddressed site,
    (habsent absent).1⟩

end ScriptBridge
