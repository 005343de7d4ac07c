import ScriptBridge.Proofs.Record.Decision

/-!
# Where the results of a call land

`Landed` says what becomes of the outputs when results are offered to them in order, and
`results_land` that this is what a call makes of the results of its function. Every other way for a
call to end leaves the outputs as they were.
-/

namespace ScriptBridge

open HostM StackM

variable {β σ : Type}

/-! ## One output -/

namespace Arg

/-- What an argument was offered does not change its type. -/
theorem type_offer (a : Arg) (v : Value) : (a.offer v).type = a.type := by
  cases a <;> cases v <;> rfl

theorem type_placeholder (type : ArgType) : (placeholder type).type = type := by
  cases type <;> rfl

theorem offer_of_accept? {a b : Arg} {v : Value} (h : a.accept? v = some b) : a.offer v = b := by
  rw [offer, h, Option.getD_some]

theorem offer_of_none {a : Arg} {v : Value} (h : a.accept? v = none) : a.offer v = a := by
  rw [offer, h, Option.getD_none]

variable {a : Arg} {s : Stack} {index : Int} {v : Value}

theorem fill_of_fit (found : s.peek index = some v)
    (fit : s.config.coercion = .strict → a.accept? v ≠ none) :
    ∃ fits, a.fill s index = .ok (fits, a.offer v) := by
  cases haccept : a.accept? v with
  | some b =>
    refine ⟨true, ?_⟩
    rw [offer_of_accept? haccept]
    simp only [fill, found, Option.bind_some, haccept]
  | none =>
    have hpermissive : ¬ s.config.coercion = .strict := fun strict => fit strict haccept
    refine ⟨false, ?_⟩
    rw [offer_of_none haccept]
    simp only [fill, found, Option.bind_some, haccept, if_neg hpermissive]

theorem fill_of_misfit (found : s.peek index = some v) (strict : s.config.coercion = .strict)
    (misfit : a.accept? v = none) :
    a.fill s index = .error (.typeMismatch index a.type v.kind) := by
  have hkind : s.kind index = v.kind := by rw [Stack.kind, found, Option.elim_some]
  simp only [fill, found, Option.bind_some, misfit, if_pos strict, hkind]

end Arg

/-! ## All outputs -/

/-- What becomes of outputs to which values are offered in order. Each output has taken its value or
kept what it held; a strict stack lets nothing be kept, and reports the first value that does not
fit, with the outputs before it filled and the others as they were. -/
inductive Landed (coercion : Coercion) (given : Nat → Value) (outputs : List Arg) :
    List Arg → Except StackError Unit → Prop
  | filled (fit : coercion = .strict → ∀ i (h : i < outputs.length),
        outputs[i].accept? (given i) ≠ none) :
    Landed coercion given outputs (outputs.mapIdx fun i a => a.offer (given i)) (.ok ())
  | refused {i : Nat} (strict : coercion = .strict) (h : i < outputs.length)
      (misfit : outputs[i].accept? (given i) = none)
      (first : ∀ j (hj : j < i), outputs[j].accept? (given j) ≠ none) :
    Landed coercion given outputs
      (outputs.mapIdx fun j a => if j < i then a.offer (given j) else a)
      (.error (.typeMismatch (-((outputs.length : Int) - i)) outputs[i].type (given i).kind))

namespace Landed

variable {coercion : Coercion} {given : Nat → Value} {a : Arg} {outputs filled : List Arg}
  {outcome : Except StackError Unit}

/-- No output changes its type. -/
theorem map_type (h : Landed coercion given outputs filled outcome) :
    filled.map Arg.type = outputs.map Arg.type := by
  apply List.ext_getElem
  · cases h <;> simp
  · intro i hi hi'
    cases h with
    | filled fit => simp [Arg.type_offer]
    | refused strict h misfit first =>
      simp only [List.getElem_map, List.getElem_mapIdx]
      split
      · exact Arg.type_offer _ _
      · rfl

/-- An output that takes its value, before others to which the following values are offered. -/
theorem cons (fit : coercion = .strict → a.accept? (given 0) ≠ none)
    (h : Landed coercion (fun i => given (i + 1)) outputs filled outcome) :
    Landed coercion given (a :: outputs) (a.offer (given 0) :: filled) outcome := by
  cases h with
  | filled rest =>
    have hfit : coercion = .strict → ∀ i (h : i < (a :: outputs).length),
        (a :: outputs)[i].accept? (given i) ≠ none := by
      intro strict i h
      cases i with
      | zero => exact fit strict
      | succ i => exact rest strict i (Nat.lt_of_succ_lt_succ h)
    have hlanded := Landed.filled hfit
    rwa [List.mapIdx_cons] at hlanded
  | @refused i strict h misfit first =>
    have hlt : i + 1 < (a :: outputs).length := Nat.succ_lt_succ h
    have hfirst : ∀ j (hj : j < i + 1), (a :: outputs)[j].accept? (given j) ≠ none := by
      intro j hj
      cases j with
      | zero => exact fit strict
      | succ j => exact first j (Nat.lt_of_succ_lt_succ hj)
    have hlanded : Landed coercion given (a :: outputs) _ _ := .refused strict hlt misfit hfirst
    have hindex : -(((a :: outputs).length : Int) - ((i + 1 : Nat) : Int)) =
        -((outputs.length : Int) - i) := by
      rw [List.length_cons]
      omega
    rw [hindex, List.mapIdx_cons, if_pos (Nat.succ_pos i)] at hlanded
    simpa only [Nat.add_lt_add_iff_right, List.getElem_cons_succ] using hlanded

/-- The first output does not take its value. -/
theorem of_misfit (strict : coercion = .strict) (misfit : a.accept? (given 0) = none)
    (outputs : List Arg) :
    Landed coercion given (a :: outputs) (a :: outputs)
      (.error (.typeMismatch (-((outputs.length : Int) + 1)) a.type (given 0).kind)) := by
  have hfirst : ∀ j (hj : j < 0), (a :: outputs)[j].accept? (given j) ≠ none :=
    fun j hj => absurd hj (Nat.not_lt_zero j)
  have hlanded := @Landed.refused coercion given (a :: outputs) 0 strict (Nat.succ_pos _) misfit
    hfirst
  have hsame : (a :: outputs).mapIdx (fun j b => if j < 0 then b.offer (given j) else b) =
      a :: outputs := by
    apply List.ext_getElem
    · rw [List.length_mapIdx]
    · intro j _ _
      rw [List.getElem_mapIdx, if_neg (Nat.not_lt_zero j)]
  rw [hsame, List.length_cons] at hlanded
  simpa using hlanded

end Landed

namespace ScriptFunction

/-- Values that lie on a stack in order land in the outputs in order. -/
theorem landed_fillOutputs (s : Stack) (given : Nat → Value) {outputs : List Arg}
    (countable : outputs.length ≤ maxIndex) :
    Landed s.config.coercion given outputs
      (fillOutputs (s.extend ((List.range outputs.length).map given)) outputs).1
      (fillOutputs (s.extend ((List.range outputs.length).map given)) outputs).2 := by
  -- a value that was offered stays below those that follow
  induction outputs generalizing s given with
  | nil => exact .filled fun _ i h => absurd h (Nat.not_lt_zero i)
  | cons a rest ih =>
    let following := (List.range rest.length).map fun i => given (i + 1)
    have hgiven : (List.range (a :: rest).length).map given = given 0 :: following := by
      rw [List.length_cons, List.range_succ_eq_map, List.map_cons, List.map_map]
      rfl
    have hlength : following.length = rest.length := by simp [following]
    have hindex : fromTop (rest.length + 1) = -((rest.length : Int) + 1) := fromTop_succ countable
    have hpeek : (s.extend (given 0 :: following)).peek (-((rest.length : Int) + 1)) =
        some (given 0) := by
      rw [← hlength]
      exact s.peek_below_extend (given 0) following
    have hbelow : s.extend (given 0 :: following) = (s.extend [given 0]).extend following := by
      rw [Stack.extend_extend]
      rfl
    rw [hgiven]
    by_cases fit : s.config.coercion = .strict → a.accept? (given 0) ≠ none
    · obtain ⟨fits, hfill⟩ := Arg.fill_of_fit (a := a) hpeek fit
      have hrest := ih (s.extend [given 0]) (fun i => given (i + 1)) (Nat.le_of_succ_le countable)
      simp only [fillOutputs, hindex, hfill]
      rw [hbelow]
      exact Landed.cons fit hrest
    · rw [Classical.not_imp, Classical.not_not] at fit
      obtain ⟨strict, misfit⟩ := fit
      simp only [fillOutputs, hindex, Arg.fill_of_misfit hpeek strict misfit]
      exact Landed.of_misfit strict misfit rest

/-! ## Calls -/

variable {f : ScriptFunction} {site : Script.Site β σ} {m m' : Machine β σ}
  {inputs outputs filled : List Arg} {e : RecordError}

/-- The function of a call was run with the inputs, gave results and left a machine. -/
def Returned (f : ScriptFunction) (site : Script.Site β σ) (inputs : List Arg) (outputs : Nat)
    (m : Machine β σ) (results : List Value) (m' : Machine β σ) : Prop :=
  ∃ binding id w, f.Reaches site inputs outputs m binding id w ∧
    attemptScript (ε := StackError) site (callFunction site id (inputs.map Arg.toValue))
      (f.running m w) = .ok (.ok results) m'

/-- The errors of a call that has no results: it did not get as far as the run of its function, or
this failed. -/
inductive Unfilled : RecordError → Prop
  | arity (name : String) (side : CallSide) (declared supplied : Nat) :
    Unfilled (.arity name side declared supplied)
  | unbound : Unfilled .unbound
  | invalidIndex (index : Int) : Unfilled (.stack (.invalidIndex index))
  | overflow (capacity : Nat) : Unfilled (.stack (.overflow capacity))
  | engine (raised : LuaError) : Unfilled (.stack (.engine raised))
  | notCallable (name : String) (found : Kind) : Unfilled (.notCallable name found)
  | call (name : String) (source : ScriptError) : Unfilled (.call name source)

theorem unfilled_of_prepare {s : Stack} {count counted : Nat}
    (h : f.prepare s count counted = .error e) : Unfilled e := by
  unfold prepare at h
  split at h
  · cases h
    apply Unfilled.arity
  split at h
  · cases h
    apply Unfilled.arity
  split at h
  · cases h
    exact .unbound
  split at h
  · cases h
  split at h
  · cases h
  · cases h
    apply Unfilled.invalidIndex

theorem unfilled_of_decisionAt {s : Stack} {binding : FunctionBinding} {v : Value}
    (h : f.decisionAt s binding v = .error e) : Unfilled e := by
  unfold decisionAt at h
  split at h
  · cases h
    apply Unfilled.overflow
  split at h
  · split at h
    · cases h
      apply Unfilled.overflow
    · cases h
  · cases h
    apply Unfilled.notCallable

/-- The results of a function land in the outputs of its call. -/
theorem Returned.lands {results : List Value}
    (returned : f.Returned site inputs outputs.length m results m') :
    ∃ filled outcome m'', f.call site inputs outputs m =
        .ok (filled, outcome.mapError .stack) m'' ∧
      Landed m.stack.config.coercion (fun i => results.getD i .nil) outputs filled outcome := by
  obtain ⟨binding, id, w, reaches, hrun⟩ := returned
  obtain ⟨handler, prepared⟩ := reaches.prepared
  obtain ⟨-, houtputs, -⟩ := prepare_ok prepared
  have hstack : m'.stack = m.stack := by
    rw [attemptScript_ok hrun]
    rfl
  have hcountable : outputs.length ≤ maxIndex := houtputs ▸ f.outputs_le
  have hlanded := landed_fillOutputs m.stack (fun i => results.getD i .nil) hcountable
  have hgiven : fitResults f.outputs results =
      (List.range outputs.length).map fun i => results.getD i .nil := by
    rw [fitResults_eq, houtputs]
  rw [call_of_results reaches hrun]
  simp only [settle, stack_bind, hstack, hgiven]
  cases hfilled : fillOutputs
      (m.stack.extend ((List.range outputs.length).map fun i => results.getD i .nil)) outputs with
  | mk filled outcome =>
    rw [hfilled] at hlanded
    cases outcome with
    | ok => exact ⟨filled, .ok (), m', rfl, hlanded⟩
    | error e => exact ⟨filled, .error e, _, rfl, hlanded⟩

theorem unfilled_of_reaches {binding : FunctionBinding} {id : ObjectId} {w : World β σ}
    {outcome : Except RecordError Unit}
    (reaches : f.Reaches site inputs outputs.length m binding id w)
    (none : ∀ results m₂, ¬ f.Returned site inputs outputs.length m results m₂)
    (run : f.call site inputs outputs m = .ok (filled, outcome) m') :
    filled = outputs ∧ ∃ e, outcome = .error e ∧ Unfilled e := by
  rw [call_of_reaches reaches] at run
  obtain ⟨r, m₂, hrun, hsettle⟩ := bind_ok_iff.mp run
  have hattempt := ok_of_mapError hrun
  cases r with
  | ok results => exact absurd ⟨binding, id, w, reaches, hattempt⟩ (none results m₂)
  | error raised =>
    obtain ⟨text, m₃, -, hreport⟩ := bind_ok_iff.mp hsettle
    cases hreport
    exact ⟨rfl, _, rfl, .call _ _⟩

/-- A call that has no results leaves its outputs. -/
theorem unfilled_of_not_returned {outcome : Except RecordError Unit}
    (none : ∀ results m₂, ¬ f.Returned site inputs outputs.length m results m₂)
    (run : f.call site inputs outputs m = .ok (filled, outcome) m') :
    filled = outputs ∧ ∃ e, outcome = .error e ∧ Unfilled e := by
  cases hprepared : f.prepare m.stack inputs.length outputs.length with
  | error e =>
    rw [call_of_unprepared hprepared] at run
    cases run
    exact ⟨rfl, e, rfl, unfilled_of_prepare hprepared⟩
  | ok needs =>
    obtain ⟨binding, handler⟩ := needs
    cases hpush : pushBound site binding m with
    | ok _ m₁ =>
      obtain ⟨v, w, found, -, -⟩ := pushBound_ok hpush
      cases hdecided : f.decisionAt m.stack binding v with
      | error e =>
        obtain ⟨w', journal, -, hcall⟩ := call_of_decisionAt hprepared found hdecided
        rw [hcall] at run
        cases run
        exact ⟨rfl, e, rfl, unfilled_of_decisionAt hdecided⟩
      | ok id =>
        exact unfilled_of_reaches (reaches_of_decisionAt hprepared found hdecided) none run
    | error failure m₁ =>
      rcases error_or_stopped failure with ⟨e, rfl⟩ | ⟨stop, rfl⟩
      · obtain ⟨hunfound, vs, habove⟩ := pushBound_error hpush
        obtain ⟨journal, hcall⟩ := call_of_raised_above hprepared habove
          (bind_of_error (mapError_of_error hpush))
        rw [hcall] at run
        cases run
        rcases hunfound with ⟨capacity, rfl⟩ | ⟨raised, rfl⟩
        · exact ⟨rfl, _, rfl, .overflow capacity⟩
        · exact ⟨rfl, _, rfl, .engine raised⟩
      · rw [call_of_stopped hprepared (bind_of_error (mapError_of_stopped hpush))] at run
        cases run

/-- A call with fresh outputs gives them back when it fills them. -/
theorem callTyped_ok_iff {types : List ArgType} :
    f.callTyped site inputs types m = .ok filled m' ↔
      f.call site inputs (types.map Arg.placeholder) m = .ok (filled, .ok ()) m' := by
  rw [callTyped, bind_ok_iff]
  constructor
  · rintro ⟨⟨outputs, outcome⟩, m₁, hcall, hgiven⟩
    cases outcome with
    | error e => cases hgiven
    | ok =>
      cases hgiven
      exact hcall
  · intro hcall
    exact ⟨(filled, .ok ()), m', hcall, rfl⟩

theorem call_cases {outcome : Except RecordError Unit}
    (run : f.call site inputs outputs m = .ok (filled, outcome) m') :
    (∃ results m₂ landed, f.Returned site inputs outputs.length m results m₂ ∧
      Landed m.stack.config.coercion (fun i => results.getD i .nil) outputs filled landed ∧
      outcome = landed.mapError .stack) ∨
    filled = outputs ∧ ∃ e, outcome = .error e ∧ Unfilled e := by
  by_cases hreturned : ∃ results m₂, f.Returned site inputs outputs.length m results m₂
  · obtain ⟨results, m₂, returned⟩ := hreturned
    obtain ⟨filled', landed, m₃, hcall, hlanded⟩ := returned.lands
    rw [hcall] at run
    cases run
    exact .inl ⟨results, m₂, landed, returned, hlanded, rfl⟩
  · refine .inr (unfilled_of_not_returned (fun results m₂ returned => ?_) run)
    exact hreturned ⟨results, m₂, returned⟩

theorem call_map_type {outcome : Except RecordError Unit}
    (run : f.call site inputs outputs m = .ok (filled, outcome) m') :
    filled.map Arg.type = outputs.map Arg.type := by
  rcases call_cases run with ⟨results, m₂, landed, -, hlanded, -⟩ | ⟨rfl, -⟩
  · exact hlanded.map_type
  · rfl

end ScriptFunction

open ScriptFunction

/-- The results of a call land in the right outputs. When the function was run and gave results, the
call comes to what `Landed` says of them, with nil for those that are missing; a call that comes to
anything else has an error of another kind and leaves its outputs. No output ever changes its type.
A call with fresh outputs gives back what the call gives when these are filled, in the types that
were asked for. -/
theorem results_land (f : ScriptFunction) (site : Script.Site β σ) (inputs outputs : List Arg)
    (m : Machine β σ) :
    (∀ results m₂, f.Returned site inputs outputs.length m results m₂ →
      ∃ filled landed m', f.call site inputs outputs m = .ok (filled, landed.mapError .stack) m' ∧
        Landed m.stack.config.coercion (fun i => results.getD i .nil) outputs filled landed) ∧
    (∀ filled outcome m', f.call site inputs outputs m = .ok (filled, outcome) m' →
      filled.map Arg.type = outputs.map Arg.type ∧
      ((∃ results m₂ landed, f.Returned site inputs outputs.length m results m₂ ∧
        Landed m.stack.config.coercion (fun i => results.getD i .nil) outputs filled landed ∧
        outcome = landed.mapError .stack) ∨
      filled = outputs ∧ ∃ e, outcome = .error e ∧ Unfilled e)) ∧
    ∀ types filled m',
      (f.callTyped site inputs types m = .ok filled m' ↔
        f.call site inputs (types.map Arg.placeholder) m = .ok (filled, .ok ()) m') ∧
      (f.callTyped site inputs types m = .ok filled m' → filled.map Arg.type = types) := by
  refine ⟨fun results m₂ returned => returned.lands, fun filled outcome m' run => ?_, ?_⟩
  · exact ⟨call_map_type run, call_cases run⟩
  · intro types filled m'
    refine ⟨callTyped_ok_iff, fun run => ?_⟩
    rw [call_map_type (callTyped_ok_iff.mp run), List.map_map]
    exact (List.map_congr_left fun type _ => Arg.type_placeholder type).trans (List.map_id types)

/-- On a strict stack a function gives two results for three outputs, and the second is of another
type: the first output is filled, and neither the second nor the third is. -/
theorem results_land_strict :
    let site : Script.Site Unit Unit := .outermost fun _ _ args => return args
    let config := (Config.standard.withCapacity 8).strict
    let globals := Table.empty.set (.text "f") (.function 0)
    let heap : Heap Unit := { (Heap.initial : Heap Unit) with
      tables := #[globals], functions := #[.host ⟨"f", 0, ()⟩ config] }
    let m : Machine Unit Unit := ⟨.ofConfig config, ⟨heap, [], ()⟩⟩
    ∃ m', (ScriptFunction.ofGlobal 2 3 "f").call site [.integer 5, .text "x"]
        [.integer 0, .boolean true, .double .zero] m =
      .ok ([.integer 5, .boolean true, .double .zero],
        .error (.stack (.typeMismatch (-2) .boolean .string))) m' := by
  intro site config globals heap m
  let f := ScriptFunction.ofGlobal 2 3 "f"
  have found : (⟨"f", none⟩ : FunctionBinding).Finds site m.world (.function 0) m.world :=
    FunctionBinding.finds_of_plain (.inl rfl)
  have reaches : f.Reaches site [.integer 5, .text "x"] 3 m ⟨"f", none⟩ 0 m.world :=
    ⟨⟨0, rfl⟩, found, by decide, by decide, by decide⟩
  have returned : f.Returned site [.integer 5, .text "x"] 3 m [.integer 5, .text "x"]
      (f.running m m.world) := ⟨_, _, _, reaches, rfl⟩
  obtain ⟨filled, landed, m', hcall, hlanded⟩ :=
    (results_land f site [.integer 5, .text "x"] [.integer 0, .boolean true, .double .zero] m).1
      _ _ returned
  cases hlanded with
  | filled fit => exact absurd rfl (fit rfl 1 (by decide))
  | @refused i strict h misfit first =>
    match i with
    | 0 => cases misfit
    | 1 => exact ⟨m', hcall⟩
    | 2 => exact absurd rfl (first 1 (by decide))

end ScriptBridge
