import ScriptBridge.Proofs.Record.Course
import ScriptBridge.Proofs.Record.Hydrate
import ScriptBridge.Proofs.Session.Moves
import ScriptBridge.Proofs.Stack.Bottom
import ScriptBridge.Proofs.Stack.Fields

/-!
# What records and calls of script functions leave alone

Reading fields, filling records and calling script functions work above the stack that they find,
and take off nothing but what they put there. So they spare the whole of it: not only when they
come to something, but also when a script stops them halfway, with a part of what they put there
still on top.
-/

namespace ScriptBridge

open HostM StackM

variable {β σ ι : Type} {p : List Value} {m : Machine β σ} {site : Script.Site β σ}

/-! ## The ends of a scope -/

namespace BalanceScope

variable {α : Type} {scope : BalanceScope} {a : α}

/-- What is dropped when a scope is closed lies above the values. -/
theorem spares_close {count : Nat} (hm : m.stack.Holds p)
    (habove : p.length ≤ m.stack.size - count) :
    (do RecordM.lift (pop count); scope.finish; return a : RecordM β σ α).Spares p m := by
  refine spares_bind (spares_mapError (spares_pop hm fun _ => habove)) fun _ m₁ _ hm₁ => ?_
  exact spares_bind (spares_of_moves (moves_finish (.holds p) scope) hm₁)
    fun _ _ _ hm₂ => spares_pure hm₂

theorem spares_leave (hm : m.stack.Holds p) (hentry : p.length ≤ scope.entry) :
    (do scope.abandon; return a : RecordM β σ α).Spares p m :=
  spares_bind (spares_abandon hm hentry) fun _ _ _ hm₁ => spares_pure hm₁

end BalanceScope

/-! ## Fields -/

section Fields

variable {view : TableView} {f : Field} {key : String}

namespace TableView

/-- The key is above the stack, and so is the value that it is exchanged for. -/
theorem spares_lookup (hm : m.stack.Holds p) : (view.lookup site f key).Spares p m := by
  have up := Upward.holds p
  have hle := hm.length_le
  refine spares_bind (spares_of_moves (moves_pushText up key) hm) fun _ m₁ hpushed hm₁ => ?_
  have hkeyed : m₁.stack.size = m.stack.size + 1 := pushesOne_push _ _ _ hpushed
  refine spares_bind (spares_swapField hm₁ fun _ _ => by omega) fun _ m₂ hswapped hm₂ => ?_
  have hvalued : m₂.stack.size = m₁.stack.size := size_of_swapField hswapped
  refine spares_stack (spares_bind (spares_pop hm₂ fun _ => by omega) fun _ m₃ _ hm₃ => ?_)
  exact spares_bind (spares_of_moves (moves_log up _ _) hm₃) fun _ _ _ hm₄ => spares_pure hm₄

theorem spares_mapField (hm : m.stack.Holds p) : (view.mapField site f key).Spares p m := by
  refine spares_bind (spares_mapError (spares_lookup hm)) fun found m₁ _ hm₁ => spares_stack ?_
  split
  · exact spares_fail hm₁
  · exact spares_pure hm₁

theorem spares_requireField (hm : m.stack.Holds p) :
    (view.requireField site f key).Spares p m := by
  refine spares_bind (spares_mapError (spares_lookup hm)) fun found m₁ _ hm₁ => ?_
  obtain ⟨assigned, kind⟩ := found
  cases assigned with
  | some f => exact spares_pure hm₁
  | none => exact spares_fail hm₁

end TableView

theorem Mapping.spares_apply (mapping : Mapping ι) (hm : m.stack.Holds p) :
    (mapping.apply site view f).Spares p m := by
  unfold Mapping.apply
  split
  · exact TableView.spares_requireField hm
  · exact spares_bind (TableView.spares_mapField hm) fun _ _ _ hm₁ => spares_pure hm₁

end Fields

/-! ## Records -/

section Records

variable [DecidableEq ι] {keep : Record ι → σ → σ} {schema : Schema ι} {r : Record ι}
  {tableName : String}

namespace Schema

theorem spares_applyKeeping {view : TableView} (hm : m.stack.Holds p) :
    (schema.applyKeeping keep site view r).Spares p m := by
  induction schema generalizing r m with
  | nil => exact spares_pure hm
  | cons mapping rest ih =>
    refine spares_bind (spares_attempt (mapping.spares_apply hm)) fun outcome m₁ _ hm₁ => ?_
    cases outcome with
    | ok f =>
      exact spares_bind (spares_of_moves (moves_modifyMemory (.holds p) _) hm₁)
        fun _ _ _ hm₂ => ih hm₂
    | error e => exact spares_pure hm₁

theorem spares_applyTopKeeping (hm : m.stack.Holds p) :
    (schema.applyTopKeeping keep site tableName r).Spares p m := by
  have hview : (RecordM.lift (TableView.ofTop tableName) : RecordM β σ TableView).Spares p m :=
    spares_mapError (spares_of_moves (Session.moves_ofTop (.holds p) tableName) hm)
  refine spares_bind (spares_attempt hview) fun outcome m₁ _ hm₁ => ?_
  cases outcome with
  | ok view => exact spares_applyKeeping hm₁
  | error e => exact spares_pure hm₁

end Schema

/-- The table lies above the stack until it is dropped with the scope or on its own. -/
theorem spares_hydrateTop {scope : BalanceScope} {id : ObjectId}
    (htop : m.stack.peek top = some (.table id)) (hm : m.stack.Holds p)
    (habove : p.length + 1 ≤ m.stack.size) (hentry : p.length ≤ scope.entry) :
    (hydrateTop keep site scope schema r tableName).Spares p m := by
  have up := Upward.holds p
  refine spares_bind (Schema.spares_applyTopKeeping hm) fun result m₁ happlied hm₁ => ?_
  have hstack : m₁.stack = m.stack := ((ends_applyTopKeeping htop).of_ok happlied).1.stack
  obtain ⟨r', outcome⟩ := result
  cases outcome with
  | error e =>
    exact spares_bind (spares_of_moves (moves_log up _ _) hm₁) fun _ m₂ _ hm₂ =>
      BalanceScope.spares_leave hm₂ hentry
  | ok =>
    have hkept : p.length ≤ m₁.stack.size - 1 := by
      rw [hstack]
      omega
    exact BalanceScope.spares_close hm₁ hkept

theorem spares_hydrateKeeping (hm : m.stack.Holds p) :
    (hydrateKeeping keep site schema r tableName).Spares p m := by
  have up := Upward.holds p
  have hle := hm.length_le
  refine spares_bind (spares_of_moves (BalanceScope.moves_enter up "hydrate" 0) hm)
    fun scope m₁ hentered hm₁ => ?_
  cases hentered
  have hpush : (RecordM.lift (pushGlobal site tableName) : RecordM β σ Unit).Spares p m :=
    spares_mapError (spares_of_moves (moves_pushGlobal up site tableName) hm₁)
  refine spares_bind (spares_attempt hpush) fun outcome m₂ hran hm₂ => ?_
  cases outcome with
  | error e => exact BalanceScope.spares_leave hm₂ hle
  | ok =>
    obtain ⟨v, hpushed⟩ : ∃ v, Pushed site Heap.globals tableName m m.stack v m₂ :=
      (ends_pushGlobal site tableName m).of_ok (ok_of_mapError (attempt_ok_iff.mp hran))
    have hkind : m₂.stack.kind top = v.kind := by rw [hpushed.stack, Stack.kind_top_extend]
    have hsize : m₂.stack.size = m.stack.size + 1 := by
      rw [hpushed.stack, Stack.size_extend]
      rfl
    refine spares_stack ?_
    simp only [hkind]
    split
    · refine spares_bind (spares_of_moves (moves_log up _ _) hm₂) fun _ m₃ hlogged hm₃ => ?_
      cases hlogged
      have hkept : p.length ≤ m₂.stack.size - 1 := by omega
      exact BalanceScope.spares_close hm₃ hkept
    next htable =>
      obtain ⟨id, rfl⟩ := eq_table_of_kind (Decidable.not_not.mp htable)
      have htop : m₂.stack.peek top = some (.table id) := by
        rw [hpushed.stack, Stack.peek_top_extend_singleton]
      exact spares_hydrateTop htop hm₂ (by omega) hle

end Records

/-! ## Calls of script functions -/

namespace StackM

theorem pushesOne_pushField (index : Int) (key : String) :
    PushesOne (pushField site index key) := by
  intro m m' h
  obtain ⟨k, -, id, v, w, -, -, -, rfl⟩ := pushField_ok_iff.mp h
  exact m.stack.size_extend [v]

end StackM

namespace ScriptFunction

variable {f : ScriptFunction} {scope : BalanceScope} {binding : FunctionBinding}

/-- The table of a binding is pushed before the value and removed from below it. -/
theorem spares_pushBound (hm : m.stack.Holds p) : (pushBound site binding).Spares p m := by
  have up := Upward.holds p
  have hle := hm.length_le
  obtain ⟨name, table⟩ := binding
  cases table with
  | none => exact spares_of_moves (moves_pushGlobal up site name) hm
  | some entry =>
    obtain ⟨tableName, id⟩ := entry
    refine spares_bind (spares_of_moves (moves_push up _) hm) fun _ m₁ htabled hm₁ => ?_
    refine spares_bind (spares_of_moves (moves_pushField up site top name) hm₁)
      fun _ m₂ hvalued hm₂ => ?_
    have hsize : m₂.stack.size = m.stack.size + 2 := by
      rw [pushesOne_pushField _ _ _ _ hvalued, pushesOne_push _ _ _ htabled]
    refine spares_discard (spares_remove hm₂ fun k hk => ?_)
    -- the value is on top by now, so the table is the second from there
    have hsecond : m₂.stack.offset? (-2) = some (m₂.stack.size - 2) :=
      Stack.offset?_neg (n := 2) (by omega) (by omega)
    have hk' : k = m₂.stack.size - 2 := Option.some.inj (hk.symm.trans hsecond)
    omega

/-- A script that fails leaves its text in the place of the function and its inputs. -/
theorem ends_liftInvoke {s : Stack} {callee : Value} {args : List Value} {handler : Int}
    (hstack : m.stack = s.extend (callee :: args)) (hcount : args.length = f.inputs)
    (hfits : m.stack.size ≤ m.stack.config.capacity) :
    (RecordM.lift (invoke site f.inputs f.outputs handler) : RecordM β σ Unit).Ends m
      (fun _ _ => True)
      (fun e m' => ∀ text, e = .stack (.script ⟨.runtime, text⟩) → m'.stack = s.extend [.text text])
      (fun _ => True) := by
  have hinvoke := ends_invoke site f.outputs handler hstack hfits
  rw [hcount] at hinvoke
  refine ends_mapError (hinvoke.mono (fun _ _ _ => trivial) ?_ fun _ _ => trivial)
  intro e m' hfailed text he
  cases he
  generalize m'.stack = left at hfailed ⊢
  cases hfailed with
  | refused other => exact absurd rfl (other _)
  | faulted text => rfl

/-- The call takes off the function and its inputs, which lie above the stack. -/
theorem spares_invokePushed {s : Stack} {callee : Value} {args : List Value} {name : String}
    {handler : Int} (hstack : m.stack = s.extend (callee :: args)) (hcount : args.length = f.inputs)
    (hfits : m.stack.size ≤ m.stack.config.capacity) (hm : m.stack.Holds p)
    (habove : p.length ≤ s.size) : (f.invokePushed site scope name handler).Spares p m := by
  have hsize : m.stack.size = s.size + (args.length + 1) := by
    rw [hstack, Stack.size_extend]
    rfl
  have hinvoke : (RecordM.lift (invoke site f.inputs f.outputs handler) :
      RecordM β σ Unit).Spares p m := by
    refine spares_mapError (spares_invoke hm fun parts hparts => ?_)
    have hparted := (Stack.callParts_ok hparts).2.1
    omega
  refine spares_bind (spares_attempt hinvoke) fun outcome m₁ hran hm₁ => ?_
  split
  · exact spares_pure hm₁
  next text =>
    have hleft := (ends_liftInvoke hstack hcount hfits).of_error (attempt_error_iff.mp hran)
    have hfaulted : m₁.stack.size = s.size + 1 := by
      rw [hleft text rfl, Stack.size_extend]
      rfl
    exact BalanceScope.spares_close hm₁ (by omega)
  · exact spares_fail hm₁

theorem spares_pushResults {handler : Int} {inputs : List Arg} (hinputs : f.inputs = inputs.length)
    (hm : m.stack.Holds p) : (f.pushResults site scope binding handler inputs).Spares p m := by
  have up := Upward.holds p
  have hle := hm.length_le
  refine spares_bind (spares_mapError (spares_pushBound hm)) fun _ m₁ hbound hm₁ => spares_stack ?_
  obtain ⟨v, hpushed⟩ := (ends_pushBound site binding m).of_ok (ok_of_mapError hbound)
  have hsize : m₁.stack.size = m.stack.size + 1 := by
    rw [hpushed.stack, Stack.size_extend]
    rfl
  dsimp only
  split
  · exact BalanceScope.spares_close hm₁ (by omega)
  · refine spares_bind (spares_mapError (spares_of_moves (moves_pushAll up _) hm₁))
      fun _ m₂ hargs hm₂ => ?_
    obtain ⟨hroom, hstack₂⟩ := pushAll_ok (ok_of_mapError hargs)
    have hstack : m₂.stack = m.stack.extend (v :: inputs.map Arg.toValue) := by
      rw [hstack₂, hpushed.stack, Stack.extend_extend]
      rfl
    have hcount : (inputs.map Arg.toValue).length = f.inputs := by
      rw [List.length_map, hinputs]
    have hfits : m₂.stack.size ≤ m₂.stack.config.capacity := by
      have hfree := hpushed.room
      rw [hpushed.stack] at hroom
      rw [hstack]
      simp only [Stack.size_extend, Stack.config_extend, List.length_cons, List.length_nil]
        at hroom ⊢
      omega
    exact spares_invokePushed hstack hcount hfits hm₂ hle

/-- A call leaves the results above the stack until they are dropped. -/
theorem spares_call {inputs outputs : List Arg} (hm : m.stack.Holds p) :
    (f.call site inputs outputs).Spares p m := by
  have up := Upward.holds p
  have hle := hm.length_le
  refine spares_stack ?_
  cases hprepare : f.prepare m.stack inputs.length outputs.length with
  | error e => exact spares_pure hm
  | ok needs =>
    obtain ⟨binding, handler⟩ := needs
    obtain ⟨hinputs, -, hbound, hhandler⟩ := prepare_ok hprepare
    refine spares_bind (spares_of_moves (BalanceScope.moves_enter up callLabel 0) hm)
      fun scope _ hentered _ => ?_
    cases hentered
    refine spares_bind (spares_attempt (spares_pushResults hinputs hm))
      fun outcome m₁ hran hm₁ => ?_
    cases outcome with
    | error e => exact BalanceScope.spares_leave hm₁ hle
    | ok outcome =>
      cases outcome with
      | error e => exact spares_pure hm₁
      | ok =>
        refine spares_stack ?_
        obtain ⟨results, hcount, hstack⟩ :=
          (ends_pushResults (Int.add_zero _) hbound hinputs hhandler).of_ok (attempt_ok_iff.mp hran)
        have hsize : m₁.stack.size = m.stack.size + f.outputs := by
          rw [hstack, Stack.size_extend, hcount]
        split
        · exact BalanceScope.spares_leave hm₁ hle
        · exact BalanceScope.spares_close hm₁ (by omega)

end ScriptFunction

end ScriptBridge
