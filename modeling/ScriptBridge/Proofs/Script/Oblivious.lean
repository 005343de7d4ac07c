import ScriptBridge.Proofs.Stack.Ends
import ScriptBridge.Stack.Invoke

/-!
# Actions that do not see the journal

The journal is written and never read: what an action does is the same in worlds that differ in
nothing else. `ScriptM.Oblivious` says so of an action of a script. Every way to build an action
keeps it, and so do the operations on values at a site from which calls do; `Oblivious` has one
lemma for each of them, in the order of their definitions.
-/

namespace ScriptBridge

variable {β σ α γ : Type}

/-! ## Two runs -/

/-- Two runs came to the same result, or ended the same way without one, and the states after them
are related. -/
inductive Agree {E S : Type} (returns : α → S → S → Prop) (stops : E → S → S → Prop) :
    EStateM.Result E S α → EStateM.Result E S α → Prop
  | ok {a : α} {s₁ s₂ : S} (related : returns a s₁ s₂) :
    Agree returns stops (.ok a s₁) (.ok a s₂)
  | error {e : E} {s₁ s₂ : S} (related : stops e s₁ s₂) :
    Agree returns stops (.error e s₁) (.error e s₂)

theorem Agree.mono {E S : Type} {returns returns' : α → S → S → Prop}
    {stops stops' : E → S → S → Prop} {r₁ r₂ : EStateM.Result E S α}
    (h : Agree returns' stops' r₁ r₂)
    (hreturns : ∀ a s₁ s₂, returns' a s₁ s₂ → returns a s₁ s₂)
    (hstops : ∀ e s₁ s₂, stops' e s₁ s₂ → stops e s₁ s₂) : Agree returns stops r₁ r₂ := by
  cases h with
  | ok related => exact .ok (hreturns _ _ _ related)
  | error related => exact .error (hstops _ _ _ related)

/-- Runs agree when their first parts do and what follows does. -/
theorem Agree.bind {E S : Type} {x₁ x₂ : EStateM E S γ} {f₁ f₂ : γ → EStateM E S α}
    {between : γ → S → S → Prop} {returns : α → S → S → Prop} {stops : E → S → S → Prop}
    {s₁ s₂ : S} (hx : Agree between stops (x₁ s₁) (x₂ s₂))
    (hf : ∀ c t₁ t₂, between c t₁ t₂ → Agree returns stops (f₁ c t₁) (f₂ c t₂)) :
    Agree returns stops ((x₁ >>= f₁) s₁) ((x₂ >>= f₂) s₂) := by
  generalize h₁ : x₁ s₁ = r₁ at hx
  generalize h₂ : x₂ s₂ = r₂ at hx
  cases hx with
  | ok related =>
    rw [bind_of_ok h₁, bind_of_ok h₂]
    exact hf _ _ _ related
  | error related =>
    rw [bind_of_error h₁, bind_of_error h₂]
    exact .error related

/-- An action does the same in related states, and leaves related ones. -/
def Respects {E S : Type} (related : S → S → Prop) (action : EStateM E S α) : Prop :=
  ∀ ⦃s₁ s₂ : S⦄, related s₁ s₂ →
    Agree (fun _ => related) (fun _ => related) (action s₁) (action s₂)

section Respects

variable {E S : Type} {related : S → S → Prop}

theorem respects_pure (a : α) : Respects related (pure a : EStateM E S α) := fun _ _ h => .ok h

theorem respects_throw (e : E) : Respects related (throw e : EStateM E S α) := fun _ _ h => .error h

theorem respects_bind {x : EStateM E S γ} {f : γ → EStateM E S α} (hx : Respects related x)
    (hf : ∀ c, Respects related (f c)) : Respects related (x >>= f) :=
  fun _ _ h => (hx h).bind fun c _ _ h => hf c h

theorem respects_ite {c : Prop} [Decidable c] {x y : EStateM E S α} (hx : Respects related x)
    (hy : Respects related y) : Respects related (if c then x else y) := by
  split
  · exact hx
  · exact hy

theorem respects_discard {x : EStateM E S α} (hx : Respects related x) :
    Respects related (discard x : EStateM E S Unit) := by
  have hmap : (discard x : EStateM E S Unit) = x >>= fun _ => pure () := by
    funext s
    simp only [discard, Functor.mapConst, EStateM.map, Function.comp_apply, Function.const, bind,
      EStateM.bind]
    cases x s <;> rfl
  rw [hmap]
  exact respects_bind hx fun _ => respects_pure ()

theorem respects_forM {f : γ → EStateM E S Unit} (hf : ∀ a, Respects related (f a))
    (as : List γ) : Respects related (as.forM f) := by
  induction as with
  | nil => exact respects_pure ()
  | cons a as ih => exact respects_bind (hf a) fun _ => ih

theorem respects_mapM {f : γ → EStateM E S α} (hf : ∀ a, Respects related (f a))
    (as : List γ) : Respects related (as.mapM f) := by
  induction as with
  | nil => exact respects_pure []
  | cons a as ih =>
    rw [List.mapM_cons]
    exact respects_bind (hf a) fun _ => respects_bind ih fun _ => respects_pure _

end Respects

/-! ## The journal -/

/-- Two worlds that differ in their journals at most. -/
structure World.Alike (w₁ w₂ : World β σ) : Prop where
  heap : w₁.heap = w₂.heap
  memory : w₁.memory = w₂.memory

namespace ScriptM

/-- Whatever is in the journal, the action does the same. -/
abbrev Oblivious (action : ScriptM β σ α) : Prop := Respects World.Alike action

theorem oblivious_heap : (heap : ScriptM β σ (Heap β)).Oblivious := by
  intro w₁ w₂ alike
  have hheap : (heap : ScriptM β σ (Heap β)) w₂ = .ok w₁.heap w₂ := by rw [alike.heap]; rfl
  rw [hheap]
  exact .ok alike

theorem oblivious_modifyHeap (f : Heap β → Heap β) :
    (modifyHeap f : ScriptM β σ Unit).Oblivious :=
  fun _ _ alike => .ok ⟨congrArg f alike.heap, alike.memory⟩

theorem oblivious_allocate (f : Heap β → α × Heap β) :
    (allocate f : ScriptM β σ α).Oblivious := by
  intro w₁ w₂ alike
  have hallocate : (allocate f : ScriptM β σ α) w₂ =
      .ok (f w₁.heap).1 { w₂ with heap := (f w₁.heap).2 } := by
    rw [alike.heap]
    rfl
  rw [hallocate]
  exact .ok ⟨rfl, alike.memory⟩

theorem oblivious_attempt {x : ScriptM β σ α} (hx : x.Oblivious) : (attempt x).Oblivious := by
  intro w₁ w₂ alike
  have hrun := hx alike
  simp only [attempt]
  generalize x w₁ = r₁ at hrun
  generalize x w₂ = r₂ at hrun
  cases hrun with
  | ok related => exact .ok related
  | @error failure _ _ related =>
    cases failure with
    | error v => exact .ok related
    | panic text => exact .error related
    | exhausted => exact .error related

theorem oblivious_readTable (id : ObjectId) (key : Value) :
    (readTable id key : ScriptM β σ Value).Oblivious := oblivious_allocate _

theorem oblivious_attached (vs : List Value) :
    (attached vs : ScriptM β σ (List Value)).Oblivious := oblivious_allocate _

end ScriptM

open ScriptM

namespace Script

/-! ## Failures and calls at a site -/

/-- Calls of functions do not see the journal. -/
def Engine.Oblivious (engine : Engine β σ) : Prop :=
  ∀ s id args, ScriptM.Oblivious (engine s id args)

namespace Surroundings

variable (s : Surroundings)

theorem oblivious_failDepth : (s.failDepth : ScriptM β σ α).Oblivious := respects_throw _

theorem oblivious_raise (v : Value) : (s.raise v : ScriptM β σ α).Oblivious := by
  unfold raise
  split
  · exact s.oblivious_failDepth
  · exact respects_throw _

theorem oblivious_fail (text : Bytes) : (s.fail text : ScriptM β σ α).Oblivious :=
  s.oblivious_raise _

theorem oblivious_failText (text : String) : (s.failText text : ScriptM β σ α).Oblivious :=
  s.oblivious_fail _

theorem oblivious_failAtCaller (text : Bytes) : (s.failAtCaller text : ScriptM β σ α).Oblivious :=
  s.oblivious_raise _

theorem oblivious_checkSlots (argCount room : Nat) :
    (s.checkSlots argCount room : ScriptM β σ Unit).Oblivious := by
  unfold checkSlots
  split
  · exact s.oblivious_failText _
  · exact respects_pure ()

theorem oblivious_deepened : (s.deepened : ScriptM β σ Surroundings).Oblivious := by
  unfold deepened
  split
  · exact s.oblivious_failDepth
  · exact respects_pure _

theorem oblivious_shownType (v : Value) : (shownType v : ScriptM β σ Bytes).Oblivious := by
  unfold shownType
  split
  · exact respects_pure _
  · refine respects_bind oblivious_heap fun h => ?_
    split <;> exact respects_pure _

theorem oblivious_failOperation (operation : String) (v : Value) (origin : Bytes) :
    (s.failOperation operation v origin : ScriptM β σ α).Oblivious :=
  respects_bind (oblivious_shownType v) fun _ => s.oblivious_fail _

theorem oblivious_resolve (room : Nat) (v : Value) (args : List Value) :
    (s.resolve room v args : ScriptM β σ (ObjectId × List Value)).Oblivious := by
  induction room generalizing v args with
  | zero =>
    unfold resolve
    split
    · exact respects_pure _
    · exact s.oblivious_failText _
    · contradiction
  | succ room ih =>
    unfold resolve
    split
    · exact respects_pure _
    · contradiction
    next hroom hother =>
      cases hroom
      refine respects_bind oblivious_heap fun h => ?_
      split
      · exact s.oblivious_failOperation _ _ _
      · exact ih _ _

theorem oblivious_callee (v : Value) (args : List Value) :
    (s.callee v args : ScriptM β σ (ObjectId × List Value)).Oblivious := s.oblivious_resolve _ _ _

end Surroundings

open Surroundings

theorem oblivious_present? (v key : Value) : (present? v key : ScriptM β σ _).Oblivious := by
  unfold present?
  split
  · refine respects_bind (oblivious_readTable _ _) fun found => ?_
    split <;> exact respects_pure _
  · exact respects_pure _

namespace Site

/-! ## Operations -/

theorem oblivious_metamethodOf (event : String) (a b : Value) :
    (metamethodOf event a b : ScriptM β σ Value).Oblivious := by
  refine respects_bind oblivious_heap fun h => ?_
  split <;> exact respects_pure _

theorem oblivious_tableLength (id : ObjectId) : (tableLength id : ScriptM β σ Value).Oblivious :=
  oblivious_allocate _

theorem oblivious_rawStore (site : Site β σ) (id : ObjectId) (key value : Value) :
    (site.rawStore id key value).Oblivious := by
  unfold rawStore
  split
  · exact oblivious_failText _ _
  · split
    · exact oblivious_failText _ _
    · exact oblivious_modifyHeap _
  · exact oblivious_modifyHeap _

theorem oblivious_failArithmetic (site : Site β σ) (isBitwise : Bool) (a b : Value)
    (placeA placeB : Place) :
    (site.failArithmetic isBitwise a b placeA placeB : ScriptM β σ α).Oblivious := by
  unfold failArithmetic
  split
  · exact oblivious_fail _ _
  · exact oblivious_failOperation _ _ _ _

theorem oblivious_failOrder (site : Site β σ) (a b : Value) :
    (site.failOrder a b : ScriptM β σ α).Oblivious := by
  refine respects_bind (oblivious_shownType a) fun x => ?_
  refine respects_bind (oblivious_shownType b) fun y => ?_
  dsimp only
  split <;> exact oblivious_fail _ _

variable {site : Site β σ} (quiet : Engine.Oblivious site.engine)
include quiet

theorem oblivious_call (id : ObjectId) (args : List Value) : (site.call id args).Oblivious :=
  respects_bind (oblivious_deepened _) fun s => quiet s id args

theorem oblivious_callValue (v : Value) (args : List Value) :
    (site.callValue v args).Oblivious := by
  refine respects_bind (oblivious_deepened _) fun s => ?_
  exact respects_bind (s.oblivious_callee v args) fun callee => quiet s callee.1 callee.2

theorem oblivious_callFirst (v : Value) (args : List Value) : (site.callFirst v args).Oblivious :=
  respects_bind (oblivious_callValue quiet v args) fun _ => respects_pure _

theorem oblivious_indexBeyond (limit : Nat) (place : Place) (v key : Value) :
    (site.indexBeyond limit place v key).Oblivious := by
  induction limit generalizing place v with
  | zero => exact oblivious_failText _ _
  | succ limit ih =>
    refine respects_bind oblivious_heap fun h => ?_
    split
    · split
      · exact respects_pure _
      · exact oblivious_failOperation _ _ _ _
    · exact respects_bind (oblivious_call quiet _ _) fun _ => respects_pure _
    · refine respects_bind (oblivious_present? _ _) fun found => ?_
      split
      · exact respects_pure _
      · exact ih _ _

theorem oblivious_index (place : Place) (v key : Value) : (site.index place v key).Oblivious := by
  refine respects_bind (oblivious_present? v key) fun found => ?_
  split
  · exact respects_pure _
  · exact oblivious_indexBeyond quiet _ _ _ _

theorem oblivious_storeBeyond (limit : Nat) (place : Place) (v key value : Value) :
    (site.storeBeyond limit place v key value).Oblivious := by
  induction limit generalizing place v with
  | zero => exact oblivious_failText _ _
  | succ limit ih =>
    refine respects_bind oblivious_heap fun h => ?_
    split
    · exact oblivious_rawStore _ _ _ _
    · exact oblivious_failOperation _ _ _ _
    · exact respects_discard (oblivious_call quiet _ _)
    · refine respects_bind (oblivious_present? _ _) fun found => ?_
      split
      · exact oblivious_rawStore _ _ _ _
      · exact ih _ _

theorem oblivious_store (place : Place) (v key value : Value) :
    (site.store place v key value).Oblivious := by
  refine respects_bind (oblivious_present? v key) fun found => ?_
  split
  · exact oblivious_rawStore _ _ _ _
  · exact oblivious_storeBeyond quiet _ _ _ _ _

theorem oblivious_textOf (v : Value) : (site.textOf v).Oblivious := by
  refine respects_bind oblivious_heap fun h => ?_
  split
  · exact respects_bind (oblivious_shownType v) fun _ => respects_pure _
  · refine respects_bind (oblivious_callFirst quiet _ _) fun text => ?_
    split
    · exact respects_pure _
    · exact respects_pure _
    · exact respects_pure _
    · exact oblivious_failAtCaller _ _

theorem oblivious_arithmeticBeyond (op : ArithmeticOp) (a b : Value) (placeA placeB : Place) :
    (site.arithmeticBeyond op a b placeA placeB).Oblivious := by
  refine respects_bind (oblivious_metamethodOf _ _ _) fun m => ?_
  split
  · exact oblivious_failArithmetic _ _ _ _ _ _
  · exact oblivious_callFirst quiet _ _

theorem oblivious_arithmetic (op : ArithmeticOp) (a b : Value) :
    (site.arithmetic op a b).Oblivious := by
  unfold arithmetic
  split
  · exact respects_pure _
  · exact oblivious_failText _ _
  · exact oblivious_arithmeticBeyond quiet _ _ _ _ _

theorem oblivious_negate (v : Value) (place : Place) : (site.negate v place).Oblivious := by
  unfold negate
  split
  · exact respects_pure _
  · exact respects_pure _
  · refine respects_bind oblivious_heap fun h => ?_
    split
    · exact oblivious_failArithmetic _ _ _ _ _ _
    · exact oblivious_callFirst quiet _ _

theorem oblivious_complement (v : Value) (place : Place) : (site.complement v place).Oblivious := by
  unfold complement
  split
  · exact respects_pure _
  · refine respects_bind oblivious_heap fun h => ?_
    split
    · exact oblivious_failArithmetic _ _ _ _ _ _
    · exact oblivious_callFirst quiet _ _

theorem oblivious_lengthOf (v : Value) (place : Place) : (site.lengthOf v place).Oblivious := by
  unfold lengthOf
  split
  · exact respects_pure _
  · refine respects_bind oblivious_heap fun h => ?_
    split
    · exact oblivious_tableLength _
    · exact oblivious_failOperation _ _ _ _
    · exact oblivious_callFirst quiet _ _

theorem oblivious_concat (a b : Value) (placeA placeB : Place) :
    (site.concat a b placeA placeB).Oblivious := by
  unfold concat
  split
  · exact respects_pure _
  · refine respects_bind (oblivious_metamethodOf _ _ _) fun m => ?_
    split
    · exact oblivious_failOperation _ _ _ _
    · exact oblivious_callFirst quiet _ _

theorem oblivious_equalBeyond (a b : Value) : (site.equalBeyond a b).Oblivious := by
  refine respects_bind (oblivious_metamethodOf _ _ _) fun m => ?_
  split
  · exact respects_pure _
  · exact respects_bind (oblivious_callFirst quiet _ _) fun _ => respects_pure _

theorem oblivious_orderBeyond (op : OrderOp) (a b : Value) :
    (site.orderBeyond op a b).Oblivious := by
  refine respects_bind (oblivious_metamethodOf _ _ _) fun m => ?_
  split
  · exact oblivious_failOrder _ _ _
  · exact respects_bind (oblivious_callFirst quiet _ _) fun _ => respects_pure _

/-! ## Accesses of the host -/

/-- What follows at a guarded site is done there, with the same engine. -/
theorem oblivious_guarded {f : Site β σ → ScriptM β σ α} {argCount : Nat}
    (hf : ∀ inner : Site β σ, Engine.Oblivious inner.engine → (f inner).Oblivious) :
    (site.guarded argCount >>= f).Oblivious := by
  have hguarded : site.guarded argCount >>= f =
      (site.reporting.around.deepened >>= fun s => f (.ofNative site.engine s argCount)) := by
    unfold guarded
    rw [bind_assoc]
    rfl
  rw [hguarded]
  exact respects_bind (oblivious_deepened _) fun s => hf _ quiet

theorem oblivious_readField (id : ObjectId) (key : Value) : (site.readField id key).Oblivious := by
  refine respects_bind (oblivious_allocate _) fun key => ?_
  refine respects_bind oblivious_heap fun h => ?_
  split
  · exact respects_bind (oblivious_readTable _ _) fun _ => respects_pure _
  · refine oblivious_guarded quiet fun inner hinner => ?_
    exact respects_bind (oblivious_index hinner _ _ _) fun _ => respects_pure _

theorem oblivious_writeField (id : ObjectId) (key v : Value) :
    (site.writeField id key v).Oblivious := by
  refine respects_bind (oblivious_allocate _) fun v => ?_
  refine respects_bind oblivious_heap fun h => ?_
  split
  · exact oblivious_rawStore _ _ _ _
  · exact oblivious_guarded quiet fun inner hinner => oblivious_store hinner _ _ _ _

end Site

end Script

/-! ## What the host makes of what a script throws -/

section Thrown

open Script Script.Site

variable {site : Script.Site β σ} (quiet : Engine.Oblivious site.engine)
include quiet

theorem oblivious_ofThrownWithin (limit : Nat) (v : Value) :
    (LuaError.ofThrownWithin site limit v).Oblivious := by
  induction limit generalizing v with
  | zero =>
    unfold LuaError.ofThrownWithin
    split
    · exact respects_pure _
    · exact respects_pure _
    · contradiction
  | succ limit ih =>
    unfold LuaError.ofThrownWithin
    split
    · exact respects_pure _
    · contradiction
    next hlimit hother =>
      cases hlimit
      refine respects_bind (oblivious_attempt (oblivious_textOf quiet _)) fun text => ?_
      split
      · exact respects_pure _
      · exact ih _

theorem oblivious_ofThrown (v : Value) : (LuaError.ofThrown site v).Oblivious := by
  have hnative : Engine.Oblivious (Site.ofNative site.engine site.around 0).engine := quiet
  exact oblivious_ofThrownWithin hnative _ _

theorem oblivious_callFunction (id : ObjectId) (args : List Value) :
    (callFunction site id args).Oblivious := by
  have hreporting : Engine.Oblivious site.reporting.engine := quiet
  refine respects_bind (oblivious_attached args) fun args => ?_
  exact respects_bind (oblivious_call hreporting id args) fun _ => respects_pure _

end Thrown

end ScriptBridge
