import ScriptBridge.Proofs.Record.Course
import ScriptBridge.Proofs.Record.Hydrate
import ScriptBridge.Proofs.Session.Oblivious
import ScriptBridge.Proofs.Stack.Above

/-!
# Records above different slots

Filling a record and calling a script function look at no slot but those that they pushed
themselves. So they come to the same above stacks that hold different values
(`above_hydrateKeeping`, `above_call`), as calls from the host do whose function lies above:
`operations_ignore_below`.
-/

namespace ScriptBridge

open HostM StackM BalanceScope

variable {ε β σ ι α : Type}

section Operations

variable {b₁ b₂ : Stack} (twins : b₁.Twins b₂) {site : Script.Site β σ}
  (quiet : Script.Engine.Oblivious site.engine) {vs : List Value} {m₁ m₂ : Machine β σ}

/-- Errors of the stack are passed on. -/
theorem above_lift {action : StackM β σ α} {returns : α → List Value → Prop}
    {fails : RecordError → List Value → Prop} (anyhow : ∀ e us, fails e us)
    (h : AgreeAbove b₁ b₂ returns (fun _ _ => True) (action m₁) (action m₂)) :
    AgreeAbove b₁ b₂ returns fails (RecordM.lift action m₁) (RecordM.lift action m₂) :=
  above_mapError h fun _ _ _ => anyhow _ _

/-! ## The ends of scopes -/

section Ends

variable (above : Machine.Above b₁ b₂ vs m₁ m₂) (scope : BalanceScope) {a : α}
  {returns : α → List Value → Prop} {fails : RecordError → List Value → Prop}
include twins above

/-- What is dropped at the end of a scope that is finished was pushed in it. -/
theorem above_close (us ws : List Value) (hvs : vs = us ++ ws) (anyhow : ∀ e us, fails e us)
    (h : returns a us) :
    AgreeAbove b₁ b₂ returns fails
      ((do RecordM.lift (StackM.pop ws.length); scope.finish; return a : RecordM β σ α) m₁)
      ((do RecordM.lift (StackM.pop ws.length); scope.finish; return a : RecordM β σ α) m₂) := by
  refine above_bind (above_lift anyhow (above_pop above us ws hvs))
    fun _ ps p₁ p₂ popped hps => ?_
  refine above_bind (above_finish twins popped scope) fun _ fs f₁ f₂ finished hfs => ?_
  exact above_pure finished (hfs ▸ hps ▸ h)

theorem above_leave {k : Nat} (entry : scope.entry = b₁.size + k) (h : returns a (vs.take k)) :
    AgreeAbove b₁ b₂ returns fails
      ((do scope.abandon; return a : RecordM β σ α) m₁)
      ((do scope.abandon; return a : RecordM β σ α) m₂) := by
  refine above_bind (above_abandon twins above entry) fun _ as a₁ a₂ abandoned has => ?_
  exact above_pure abandoned (has ▸ h)

end Ends

/-! ## Filling records -/

section Fill

variable {us : List Value} {id : ObjectId} (hvs : vs = us ++ [.table id])
  {fails : RecordError → List Value → Prop} (anyhow : ∀ e us, fails e us)
include twins quiet hvs

namespace TableView

/-- A key takes a slot above the table and gives it back. -/
theorem above_lookup (above : Machine.Above b₁ b₂ vs m₁ m₂) (view : TableView) (f : Field)
    (key : String) :
    AgreeAbove b₁ b₂ (fun _ us' => us' = vs) (fun _ _ => True) (view.lookup site f key m₁)
      (view.lookup site f key m₂) := by
  refine above_bind (above_push above twins (.text key) trivial) fun _ ks k₁ k₂ pushed hks => ?_
  have hkey : ks = us ++ [.table id, .text key] := by rw [hks, hvs, List.append_assoc]; rfl
  refine above_bind (above_swapField pushed twins quiet (fun _ _ => trivial) hkey) ?_
  rintro _ _ n₁ n₂ swapped ⟨v, rfl⟩
  rw [← hvs] at swapped
  refine above_stack swapped ?_
  have htop (b : Stack) : (b.extend (vs ++ [v])).peek top = some v := b.peek_top_extend vs v
  have hkind (b : Stack) : (b.extend (vs ++ [v])).kind top = v.kind := by
    rw [Stack.kind, htop]
    rfl
  simp only [htop, hkind]
  refine above_bind (above_pop swapped vs [v] rfl) fun _ us' n₁ n₂ popped hus' => ?_
  refine above_bind (above_log popped .trace _ _) fun _ us'' n₁ n₂ logged hus'' => ?_
  exact above_pure logged (hus''.trans hus')

include anyhow

theorem above_mapField (above : Machine.Above b₁ b₂ vs m₁ m₂) (view : TableView) (f : Field)
    (key : String) :
    AgreeAbove b₁ b₂ (fun _ us' => us' = vs) fails (view.mapField site f key m₁)
      (view.mapField site f key m₂) := by
  refine above_bind (above_lift anyhow (above_lookup twins quiet hvs above view f key))
    fun found us' n₁ n₂ looked hus' => ?_
  refine above_stack looked ?_
  rw [Stack.config_extend, Stack.config_extend, ← twins.config]
  split
  · exact above_fail looked (anyhow _ _)
  · exact above_pure looked hus'

theorem above_requireField (above : Machine.Above b₁ b₂ vs m₁ m₂) (view : TableView) (f : Field)
    (key : String) :
    AgreeAbove b₁ b₂ (fun _ us' => us' = vs) fails (view.requireField site f key m₁)
      (view.requireField site f key m₂) := by
  refine above_bind (above_lift anyhow (above_lookup twins quiet hvs above view f key))
    fun found us' n₁ n₂ looked hus' => ?_
  obtain ⟨assigned, kind⟩ := found
  cases assigned with
  | some f => exact above_pure looked hus'
  | none => exact above_fail looked (anyhow _ _)

end TableView

include anyhow in
theorem Mapping.above_apply (above : Machine.Above b₁ b₂ vs m₁ m₂) (mapping : Mapping ι)
    (view : TableView) (f : Field) :
    AgreeAbove b₁ b₂ (fun _ us' => us' = vs) fails (mapping.apply site view f m₁)
      (mapping.apply site view f m₂) := by
  unfold Mapping.apply
  split
  · exact TableView.above_requireField twins quiet hvs anyhow above view f mapping.key
  · refine above_bind (TableView.above_mapField twins quiet hvs anyhow above view f mapping.key)
      fun filled us' n₁ n₂ mapped hus' => ?_
    exact above_pure mapped hus'

variable [DecidableEq ι] (keep : Record ι → σ → σ)

/-- A schema that was read to its end leaves the table on top. -/
theorem Schema.above_applyKeeping (above : Machine.Above b₁ b₂ vs m₁ m₂) (view : TableView)
    (schema : Schema ι) (r : Record ι) :
    AgreeAbove b₁ b₂ (fun c us' => c.2 = .ok () → us' = vs) fails
      (schema.applyKeeping keep site view r m₁) (schema.applyKeeping keep site view r m₂) := by
  induction schema generalizing r m₁ m₂ with
  | nil => exact above_pure above fun _ => rfl
  | cons mapping rest ih =>
    have hmapping := mapping.above_apply twins quiet hvs (fun _ _ => trivial) above view
      (r mapping.field)
    refine above_bind (above_attempt hmapping) fun outcome us' n₁ n₂ applied hus' => ?_
    cases outcome with
    | error e => exact above_pure applied fun h => by cases h
    | ok f =>
      refine above_bind (above_modifyMemory applied _) fun _ us'' k₁ k₂ kept hus'' => ?_
      have hsame : us'' = vs := hus''.trans hus'
      rw [hsame] at kept
      exact ih kept _

theorem Schema.above_applyTopKeeping (above : Machine.Above b₁ b₂ vs m₁ m₂) (schema : Schema ι)
    (tableName : String) (r : Record ι) :
    AgreeAbove b₁ b₂ (fun c us' => c.2 = .ok () → us' = vs) fails
      (schema.applyTopKeeping keep site tableName r m₁)
      (schema.applyTopKeeping keep site tableName r m₂) := by
  have htop (b : Stack) : (b.extend vs).peek top = some (.table id) := by
    rw [hvs, Stack.peek_top_extend]
  have hview : AgreeAbove b₁ b₂ (fun _ us' => us' = vs) (fun _ _ => True)
      ((TableView.ofTop tableName : StackM β σ TableView) m₁)
      ((TableView.ofTop tableName : StackM β σ TableView) m₂) := by
    refine above_stack above ?_
    simp only [htop]
    exact above_pure above rfl
  have hlift := above_lift (fun _ _ => trivial) hview
  refine above_bind (above_attempt hlift) fun outcome us' n₁ n₂ found hus' => ?_
  cases outcome with
  | error e => exact above_pure found fun h => by cases h
  | ok view =>
    have hsame : us' = vs := hus'
    rw [hsame] at found
    exact above_applyKeeping twins quiet hvs keep found view schema r

include anyhow in
theorem above_hydrateTop (above : Machine.Above b₁ b₂ vs m₁ m₂) {scope : BalanceScope} {k : Nat}
    (entry : scope.entry = b₁.size + k) (schema : Schema ι) (r : Record ι) (tableName : String) :
    AgreeAbove b₁ b₂ (fun _ _ => True) fails (hydrateTop keep site scope schema r tableName m₁)
      (hydrateTop keep site scope schema r tableName m₂) := by
  refine above_bind (schema.above_applyTopKeeping twins quiet hvs keep above tableName r)
    fun c us' n₁ n₂ applied hus' => ?_
  obtain ⟨r, outcome⟩ := c
  cases outcome with
  | error e =>
    refine above_bind (above_log applied .debug _ _) fun _ ls l₁ l₂ logged _ => ?_
    exact above_leave twins logged scope entry trivial
  | ok done =>
    have hsame : us' = us ++ [.table id] := (hus' rfl).trans hvs
    exact above_close twins applied scope us [.table id] hsame anyhow trivial

end Fill

section Hydrate

variable [DecidableEq ι] (keep : Record ι → σ → σ) {fails : RecordError → List Value → Prop}
  (anyhow : ∀ e us, fails e us)
include twins quiet anyhow

theorem above_hydrateKeeping (above : Machine.Above b₁ b₂ vs m₁ m₂) (schema : Schema ι)
    (r : Record ι) (tableName : String) :
    AgreeAbove b₁ b₂ (fun _ _ => True) fails (hydrateKeeping keep site schema r tableName m₁)
      (hydrateKeeping keep site schema r tableName m₂) := by
  refine above_bind (above_enter twins above "hydrate" 0) ?_
  rintro scope us₀ n₁ n₂ entered ⟨hscope, hus₀⟩
  rw [hus₀] at entered
  have entry : scope.entry = b₁.size + vs.length := by rw [hscope]
  have hglobal := above_lift (fun _ _ => trivial)
    (above_pushGlobal entered twins quiet (fun _ _ => trivial) tableName)
  refine above_bind (above_attempt hglobal) fun outcome us k₁ k₂ pushed hus => ?_
  cases outcome with
  | error e =>
    exact above_leave twins pushed scope entry trivial
  | ok done =>
    obtain ⟨v, hv⟩ : ∃ v, us = vs ++ [v] := hus
    have hkind (b : Stack) : (b.extend us).kind top = v.kind := by
      rw [hv, Stack.kind, Stack.peek_top_extend]
      rfl
    refine above_stack pushed ?_
    rw [hkind, hkind]
    by_cases htable : v.kind = .table
    · obtain ⟨id, rfl⟩ := eq_table_of_kind htable
      rw [if_neg (not_not_intro htable)]
      exact above_hydrateTop twins quiet hv anyhow keep pushed entry schema r tableName
    · rw [if_pos htable]
      refine above_bind (above_log pushed .trace _ _) fun _ ls l₁ l₂ logged hls => ?_
      exact above_close twins logged scope vs [v] (hls.trans hv) anyhow trivial

end Hydrate

/-! ## Calls of script functions -/

section Call

variable {fails : StackError → List Value → Prop}
include twins quiet

namespace ScriptFunction

theorem above_pushBound (above : Machine.Above b₁ b₂ vs m₁ m₂) (anyhow : ∀ e us, fails e us)
    (binding : FunctionBinding) :
    AgreeAbove b₁ b₂ (fun _ us => ∃ v, us = vs ++ [v]) fails (pushBound site binding m₁)
      (pushBound site binding m₂) := by
  unfold pushBound
  cases binding.table with
  | none => exact above_pushGlobal above twins quiet anyhow binding.name
  | some bound =>
    obtain ⟨name, id⟩ := bound
    refine above_bind (above_push above twins (.table id) (anyhow _ _))
      fun _ us n₁ n₂ pushed hus => ?_
    refine above_bind (above_pushField pushed twins quiet anyhow hus binding.name) ?_
    rintro _ fs k₁ k₂ found ⟨v, hfs⟩
    have hremove (b : Stack) :
        (b.extend fs).remove (-2) = .ok (.table id, b.extend (vs ++ [v])) := by
      have hsplit : fs = vs ++ [.table id, v] := by rw [hfs, hus, List.append_assoc]; rfl
      rw [hsplit, ← Stack.extend_extend, Stack.remove_second_extend, Stack.extend_extend]
    refine above_discard ?_
    refine (above_take (f := (·.remove (-2))) found (hremove b₁) (hremove b₂)).mono
      (fun _ us' h => ⟨v, h.2⟩) fun _ _ h => h

/-- The failure of a function that was called is given back, with its text dropped. -/
theorem above_invokePushed {us args : List Value} {callee : Value} (hvs : vs = us ++ callee :: args)
    (f : ScriptFunction) (count : args.length + 1 = min (f.inputs + 1) maxCount)
    (above : Machine.Above b₁ b₂ vs m₁ m₂) (scope : BalanceScope) (name : String)
    {fails : RecordError → List Value → Prop} (anyhow : ∀ e us, fails e us) :
    AgreeAbove b₁ b₂
      (fun c us' => c = .ok () → ∃ results, results.length = f.outputs ∧ us' = us ++ results) fails
      (f.invokePushed site scope name 0 m₁) (f.invokePushed site scope name 0 m₂) := by
  rw [hvs] at above
  let given : RecordError → List Value → Prop := fun e us' =>
    ∀ failure, e = .stack (.script failure) → ∃ text, us' = us ++ [.text text]
  have hinvoke : AgreeAbove b₁ b₂
      (fun _ us' => ∃ results, results.length = f.outputs ∧ us' = us ++ results) given
      (RecordM.lift (invoke site f.inputs f.outputs 0) m₁)
      (RecordM.lift (invoke site f.inputs f.outputs 0) m₂) := by
    refine above_mapError (above_invoke quiet twins above count) fun e us' h failure hfailure => ?_
    cases hfailure
    exact h failure rfl
  refine above_bind (above_attempt hinvoke) fun outcome us' n₁ n₂ called hus' => ?_
  split
  · exact above_pure called fun _ => hus'
  next text =>
    obtain ⟨told, htold⟩ : ∃ told, us' = us ++ [.text told] := hus' _ rfl
    exact above_close twins called scope us [.text told] htold anyhow fun h => by cases h
  · exact above_fail called (anyhow _ _)

theorem above_pushResults (f : ScriptFunction) (above : Machine.Above b₁ b₂ vs m₁ m₂)
    (scope : BalanceScope) (binding : FunctionBinding) (inputs : List Arg)
    (count : f.inputs = inputs.length) {fails : RecordError → List Value → Prop}
    (anyhow : ∀ e us, fails e us) :
    AgreeAbove b₁ b₂
      (fun c us' => c = .ok () → ∃ results, results.length = f.outputs ∧ us' = vs ++ results) fails
      (f.pushResults site scope binding 0 inputs m₁)
      (f.pushResults site scope binding 0 inputs m₂) := by
  have hbound := above_lift anyhow (above_pushBound twins quiet above (fun _ _ => trivial) binding)
  refine above_bind hbound ?_
  rintro _ us n₁ n₂ pushed ⟨callee, rfl⟩
  have hkind (b : Stack) : (b.extend (vs ++ [callee])).kind top = callee.kind := by
    rw [Stack.kind, Stack.peek_top_extend]
    rfl
  refine above_stack pushed ?_
  rw [hkind, hkind]
  by_cases hfunction : callee.kind = .function
  · rw [if_neg (not_not_intro hfunction)]
    have hpush := above_lift anyhow
      (above_pushAll pushed twins (inputs.map Arg.toValue) fun _ => trivial)
    refine above_bind hpush ?_
    rintro _ us' k₁ k₂ ready ⟨hus', hroom⟩
    have hvs : us' = vs ++ callee :: inputs.map Arg.toValue := by
      rw [hus', List.append_assoc]
      rfl
    have harity : (inputs.map Arg.toValue).length + 1 = min (f.inputs + 1) maxCount := by
      have hcapacity := b₁.config.capacity_le
      have hmax : 0 < maxCount := by decide
      rw [List.length_map] at hroom ⊢
      rw [List.length_append, List.length_singleton] at hroom
      omega
    exact above_invokePushed twins quiet hvs f harity ready scope binding.name anyhow
  · rw [if_pos hfunction]
    exact above_close twins pushed scope vs [callee] rfl anyhow fun h => by cases h

omit quiet in
/-- Outputs are filled from the values on top. -/
theorem fillOutputs_twins {us : List Value} {outputs : List Arg} (h : outputs.length ≤ us.length)
    (countable : outputs.length ≤ maxIndex) :
    fillOutputs (b₂.extend us) outputs = fillOutputs (b₁.extend us) outputs := by
  induction outputs with
  | nil => rfl
  | cons a rest ih =>
    rw [List.length_cons] at h countable
    have hpeek (b : Stack) : (b.extend us).peek (-((rest.length + 1 : Nat) : Int)) =
        us[us.length - (rest.length + 1)]? := by
      have hle : rest.length + 1 ≤ (b.extend us).size := by
        rw [Stack.size_extend]
        omega
      have hindex : (b.extend us).size - (rest.length + 1) =
          b.slots.length + (us.length - (rest.length + 1)) := by
        rw [Stack.size_extend, Stack.size]
        omega
      rw [Stack.peek, Stack.offset?_neg (Nat.succ_pos _) hle, Option.bind_some, hindex,
        Stack.slots_extend, List.getElem?_append_right (Nat.le_add_right _ _),
        Nat.add_sub_cancel_left]
    have hfill : a.fill (b₂.extend us) (fromTop (rest.length + 1)) =
        a.fill (b₁.extend us) (fromTop (rest.length + 1)) := by
      rw [fromTop_of_le countable]
      simp only [Arg.fill, Stack.kind, hpeek, Stack.config_extend, twins.config]
    simp only [fillOutputs, hfill, ih (Nat.le_of_succ_le h) (Nat.le_of_succ_le countable)]

omit twins quiet in
/-- Without a handler, what a call needs does not depend on the stack. -/
theorem prepare_of_unhandled {f : ScriptFunction} (unhandled : f.handler = 0) (s t : Stack)
    (inputs outputs : Nat) : f.prepare s inputs outputs = f.prepare t inputs outputs := by
  simp only [prepare, if_pos unhandled]

theorem above_call {f : ScriptFunction} (unhandled : f.handler = 0)
    (above : Machine.Above b₁ b₂ vs m₁ m₂) (inputs outputs : List Arg)
    {fails : RecordError → List Value → Prop} (anyhow : ∀ e us, fails e us) :
    AgreeAbove b₁ b₂ (fun _ _ => True) fails (f.call site inputs outputs m₁)
      (f.call site inputs outputs m₂) := by
  refine above_stack above ?_
  rw [prepare_of_unhandled unhandled (b₂.extend vs) (b₁.extend vs)]
  cases hprepare : f.prepare (b₁.extend vs) inputs.length outputs.length with
  | error e => exact above_pure above trivial
  | ok prepared =>
    obtain ⟨binding, handler⟩ := prepared
    obtain ⟨hinputs, houtputs, -, hhandler⟩ := prepare_ok hprepare
    have hzero : handler = 0 := by
      rcases hhandler with hzero | habsolute
      · exact hzero
      · rw [unhandled] at habsolute
        cases habsolute
    rw [hzero]
    refine above_bind (above_enter twins above callLabel 0) ?_
    rintro scope us₀ n₁ n₂ entered ⟨hscope, hus₀⟩
    rw [hus₀] at entered
    have entry : scope.entry = b₁.size + vs.length := by rw [hscope]
    have hpush := above_pushResults twins quiet f entered scope binding inputs hinputs
      fun _ _ => trivial
    refine above_bind (above_attempt hpush) fun outcome us k₁ k₂ pushed hus => ?_
    rcases outcome with e | (e | done)
    · exact above_leave twins pushed scope entry trivial
    · exact above_pure pushed trivial
    · obtain ⟨results, hlength, hresults⟩ : ∃ results : List Value,
          results.length = f.outputs ∧ us = vs ++ results := hus rfl
      have hle : outputs.length ≤ us.length := by
        rw [hresults, List.length_append]
        omega
      refine above_stack pushed ?_
      rw [fillOutputs_twins twins hle (houtputs ▸ f.outputs_le)]
      obtain ⟨filled, fill⟩ := fillOutputs (b₁.extend us) outputs
      cases fill with
      | error e => exact above_leave twins pushed scope entry trivial
      | ok done =>
        rw [← hlength]
        exact above_close twins pushed scope vs results hresults anyhow trivial

end ScriptFunction

end Call

end Operations

/-! ## The operations together -/

/-- The same happens above two stacks: runs come to the same and leave the same values on top, the
same heap and the same memory, and each leaves its own stack below these as it was. -/
def SameAbove (b₁ b₂ : Stack) (r₁ r₂ : Ending ε β σ α) : Prop :=
  AgreeAbove b₁ b₂ (fun _ _ => True) (fun _ _ => True) r₁ r₂

/-- What a run above one stack comes to, a run above the other comes to as well. -/
theorem SameAbove.ok {b₁ b₂ : Stack} {r₁ r₂ : Ending ε β σ α} (same : SameAbove b₁ b₂ r₁ r₂)
    {a : α} {us : List Value} (h : ∃ m, r₁ = .ok a m ∧ m.stack = b₁.extend us) :
    ∃ m, r₂ = .ok a m ∧ m.stack = b₂.extend us := by
  obtain ⟨m, rfl, hstack⟩ := h
  cases same with
  | @ok _ vs _ n above _ =>
    have hvs : vs = us := by
      have hslots := congrArg Stack.slots (above.left.symm.trans hstack)
      exact List.append_cancel_left hslots
    exact ⟨n, rfl, by rw [above.right, hvs]⟩

/-- Values deeper in a stack never matter to an operation above them. Two stacks of one size and
configuration may hold what they like; under the same values, in the same world but for the journal,
a call without a handler whose function is among these values, a call of a script function without a
fault handler and the filling of a record by any schema come to the same, and touch nothing
below. -/
theorem operations_ignore_below {b₁ b₂ : Stack} (twins : b₁.Twins b₂) {site : Script.Site β σ}
    (quiet : Script.Engine.Oblivious site.engine) {w₁ w₂ : World β σ} (alike : w₁.Alike w₂)
    (vs : List Value) :
    (∀ inputs outputs, inputs < vs.length →
      SameAbove b₁ b₂ (invoke site inputs outputs 0 ⟨b₁.extend vs, w₁⟩)
        (invoke site inputs outputs 0 ⟨b₂.extend vs, w₂⟩)) ∧
    (∀ (f : ScriptFunction) inputs outputs, f.handler = 0 →
      SameAbove b₁ b₂ (f.call site inputs outputs ⟨b₁.extend vs, w₁⟩)
        (f.call site inputs outputs ⟨b₂.extend vs, w₂⟩)) ∧
    (∀ (ι : Type) [DecidableEq ι] (keep : Record ι → σ → σ) (schema : Schema ι) r tableName,
      SameAbove b₁ b₂ (hydrateKeeping keep site schema r tableName ⟨b₁.extend vs, w₁⟩)
        (hydrateKeeping keep site schema r tableName ⟨b₂.extend vs, w₂⟩)) := by
  have above : Machine.Above b₁ b₂ vs ⟨b₁.extend vs, w₁⟩ ⟨b₂.extend vs, w₂⟩ := ⟨rfl, rfl, alike⟩
  refine ⟨fun inputs outputs hinputs => ?_, fun f inputs outputs unhandled => ?_,
    fun ι _ keep schema r tableName => ?_⟩
  · let pre := vs.take (vs.length - min (inputs + 1) maxCount)
    obtain ⟨callee, args, htaken⟩ : ∃ callee args,
        vs.drop (vs.length - min (inputs + 1) maxCount) = callee :: args := by
      apply List.exists_cons_of_length_pos
      have hmax : 0 < maxCount := by decide
      rw [List.length_drop]
      omega
    have hvs : vs = pre ++ callee :: args := by rw [← htaken, List.take_append_drop]
    have count : args.length + 1 = min (inputs + 1) maxCount := by
      have hlength := congrArg List.length htaken
      rw [List.length_drop, List.length_cons] at hlength
      omega
    rw [hvs] at above ⊢
    exact (above_invoke quiet twins above count).mono (fun _ _ _ => trivial) fun _ _ _ => trivial
  · exact ScriptFunction.above_call twins quiet unhandled above inputs outputs fun _ _ => trivial
  · exact above_hydrateKeeping twins quiet keep (fun _ _ => trivial) above schema r tableName

/-- Two stacks without a value in common. What a callback that gives back its argument and a table
with one field come to above the first, they come to above the second. -/
theorem operations_ignore_below_echo :
    let site := hostSite Session.runBody
    let config := Config.standard.withCapacity 8
    let b₁ : Stack := ⟨[.nil, .integer 1], config, false, []⟩
    let b₂ : Stack := ⟨[.boolean true, .text "below"], config, false, []⟩
    let globals := (Table.empty.set (.text "echo") (.function 0)).set (.text "t") (.table 1)
    let heap : Heap Session.Body := { (Heap.initial : Heap Session.Body) with
      tables := #[globals, Table.empty.set (.text "size") (.integer 7)]
      functions := #[.host ⟨"echo", 1, .mk "echo" [] .all⟩ config] }
    let w₁ : World Session.Body Session.Memory := ⟨heap, [], .empty⟩
    let w₂ : World Session.Body Session.Memory := ⟨heap, [⟨.warn, "earlier"⟩], .empty⟩
    let f : ScriptFunction := .ofGlobal 1 1 "echo"
    let schema : Schema Unit := [⟨"size", true, ()⟩]
    let r : Record Unit := fun _ => .integer .signed64 0
    let vs : List Value := [.function 0, .integer 5]
    b₁.Twins b₂ ∧ Script.Engine.Oblivious site.engine ∧ w₁.Alike w₂ ∧
    (∃ m, invoke site 1 1 0 ⟨b₂.extend vs, w₂⟩ = .ok () m ∧
      m.stack = b₂.extend [.integer 5]) ∧
    (∃ m, f.call site [.integer 5] [.integer 0] ⟨b₂.extend vs, w₂⟩ =
      .ok ([.integer 5], .ok ()) m ∧ m.stack = b₂.extend vs) ∧
    (∃ m, hydrateKeeping (fun _ => id) site schema r "t" ⟨b₂.extend vs, w₂⟩ =
      .ok (r.set () (.integer .signed64 7), .ok true) m ∧ m.stack = b₂.extend vs) := by
  intro site config b₁ b₂ globals heap w₁ w₂ f schema r vs
  have twins : b₁.Twins b₂ := ⟨rfl, rfl⟩
  have quiet : Script.Engine.Oblivious site.engine := Session.quiet_hostSite
  have alike : w₁.Alike w₂ := ⟨rfl, rfl⟩
  obtain ⟨hinvoke, hcall, hhydrate⟩ := operations_ignore_below twins quiet alike vs
  have called : ∃ m, f.call site [.integer 5] [.integer 0] ⟨b₁.extend vs, w₁⟩ =
      .ok ([.integer 5], .ok ()) m ∧ m.stack = b₁.extend vs := by
    have found : (⟨"echo", none⟩ : FunctionBinding).Finds site w₁ (.function 0) w₁ :=
      FunctionBinding.finds_of_plain (.inl rfl)
    have reaches : f.Reaches site [.integer 5] 1 ⟨b₁.extend vs, w₁⟩ ⟨"echo", none⟩ 0 w₁ :=
      ⟨⟨0, rfl⟩, found, by decide, by decide, by decide⟩
    rw [ScriptFunction.call_of_reaches reaches]
    exact ⟨_, rfl, rfl⟩
  have filled : ∃ m, hydrateKeeping (fun _ => id) site schema r "t" ⟨b₁.extend vs, w₁⟩ =
      .ok (r.set () (.integer .signed64 7), .ok true) m ∧ m.stack = b₁.extend vs := by
    have found : heap.field Heap.globals "t" = .table 1 := by decide
    have plain : schema.HydratesPlainly site heap "t" := by
      refine ⟨.inl rfl, fun id hid mapping _ => ?_⟩
      rw [found] at hid
      cases hid
      exact .inl rfl
    obtain ⟨m, hrun, hkeeps⟩ := hydrateKeeping_of_plain (r := r) (m := ⟨b₁.extend vs, w₁⟩)
      (fun _ => id) plain
    rw [hydratedOn_of_found (by decide) found] at hrun
    exact ⟨m, hrun, hkeeps.stack⟩
  exact ⟨twins, quiet, alike, (hinvoke 1 1 (by decide)).ok ⟨_, rfl, rfl⟩,
    (hcall f _ _ rfl).ok called, (hhydrate Unit (fun _ => id) schema r "t").ok filled⟩

end ScriptBridge
