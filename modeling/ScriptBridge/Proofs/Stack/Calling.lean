import ScriptBridge.Proofs.Stack.Invoke

/-!
# Calls as their caller sees them

A caller that has pushed a function and its arguments finds one of three things in their place
afterwards: so many results as it asked for, one text, or what it pushed itself. Only the function
and the handler can stop the call.
-/

namespace ScriptBridge

open HostM StackM

variable {β σ : Type} {site : Script.Site β σ} {m : Machine β σ}
  {fails : StackError → Machine β σ → Prop} {stops : Stop → Prop}

/-- The call of a function with some arguments stops on some machine. -/
def CallStops (site : Script.Site β σ) (id : ObjectId) (stop : Stop) : Prop :=
  ∃ (args : List Value) (m : Machine β σ), ScriptStops site (callFunction site id args) m stop

theorem ends_callOutcome {callee : Value} {args : List Value}
    {returns : Except String (List Value) → Machine β σ → Prop}
    (hreturns : ∀ r m', m'.stack = m.stack → returns r m')
    (hstops : ∀ id stop, callee = .function id → CallStops site id stop → stops stop) :
    (callOutcome site callee args).Ends m returns fails stops := by
  cases callee with
  | function id =>
    refine ends_bind (ends_attemptScript (fun r w _ => ?_) fun stop h => ?_)
    · cases r with
      | ok results => exact ends_pure (hreturns _ _ rfl)
      | error e => exact ends_pure (hreturns _ _ rfl)
    · exact hstops id stop rfl ⟨args, m, h⟩
  | _ => exact ends_pure (hreturns _ _ rfl)

theorem ends_faultText {handler : Option Value} {fault : String}
    {returns : String → Machine β σ → Prop}
    (hreturns : ∀ text m', m'.stack = m.stack → returns text m')
    (hstops : ∀ id stop, handler = some (.function id) → CallStops site id stop → stops stop) :
    (faultText site handler fault).Ends m returns fails stops := by
  cases handler with
  | none => exact ends_pure (hreturns _ _ rfl)
  | some v =>
    cases v with
    | function id =>
      refine ends_bind (ends_attemptScript (fun r w _ => ?_) fun stop h => ?_)
      · cases r with
        | ok results => exact ends_pure (hreturns _ _ rfl)
        | error e => exact ends_pure (hreturns _ _ rfl)
      · exact hstops id stop rfl ⟨[.text fault], m, h⟩
    | _ => exact ends_pure (hreturns _ _ rfl)

theorem ends_invoke_of_refused {inputs outputs : Nat} {handler : Int} {e : StackError}
    {returns : Unit → Machine β σ → Prop}
    (hparts : m.stack.callParts inputs outputs handler = .error e) (h : fails e m) :
    (invoke site inputs outputs handler).Ends m returns fails stops := by
  refine ⟨?_, fun policy => ?_⟩
  · rw [invoke_of_refused hparts]
    exact h
  · have hpolicy : (m.withBalance policy).stack.callParts inputs outputs handler = .error e :=
      hparts
    rw [invoke_of_refused hparts, invoke_of_refused hpolicy]
    rfl

theorem ends_invoke_of_parts {inputs outputs : Nat} {handler : Int} {parts : Stack.CallParts}
    {returns : Unit → Machine β σ → Prop}
    (hparts : m.stack.callParts inputs outputs handler = .ok parts)
    (h : (callOutcome site parts.callee parts.args >>= settleCall site outputs parts.handler).Ends
      (m.calling parts.below inputs outputs) returns fails stops) :
    (invoke site inputs outputs handler).Ends m returns fails stops := by
  refine ⟨?_, fun policy => ?_⟩
  · rw [invoke_of_parts hparts]
    exact h.meets
  · have hpolicy : (m.withBalance policy).stack.callParts inputs outputs handler = .ok parts :=
      hparts
    rw [invoke_of_parts hparts, invoke_of_parts hpolicy]
    exact h.uniform policy

/-- What a call leaves on the stack when it fails: the function and its arguments if it was refused,
or the text of its failure in their place. -/
inductive FailedCall (s : Stack) (callee : Value) (args : List Value) : StackError → Stack → Prop
  | refused {e : StackError} (other : ∀ failure, e ≠ .script failure) :
    FailedCall s callee args e (s.extend (callee :: args))
  | faulted (text : String) :
    FailedCall s callee args (.script ⟨.runtime, text⟩) (s.extend [.text text])

theorem ends_settleCall {s : Stack} {outputs : Nat} {handler : Option Value} {callee : Value}
    {args : List Value} {r : Except String (List Value)} (hstack : m.stack = s)
    (hfree : s.size < s.config.capacity) (hroom : outputs ≤ s.config.capacity - s.size)
    (hstops : ∀ id stop, handler = some (.function id) → CallStops site id stop → stops stop) :
    (settleCall site outputs handler r).Ends m
      (fun _ m' => ∃ results, results.length = outputs ∧ m'.stack = s.extend results)
      (fun e m' => FailedCall s callee args e m'.stack) stops := by
  cases r with
  | ok results =>
    refine ends_pushAll (fun _ => ?_) (fun _ hfull => ?_)
    · exact ⟨fitResults outputs results, length_fitResults outputs results, by rw [← hstack]⟩
    · rw [hstack, length_fitResults] at hfull
      omega
  | error fault =>
    refine ends_bind (ends_faultText (fun text m' hm' => ?_) hstops)
    have hs : m'.stack = s := hm'.trans hstack
    refine ends_bind (ends_log (ends_bind (ends_push (fun _ => ?_) (fun hfull => ?_))))
    · refine ends_fail ?_
      change FailedCall s callee args _ (m'.stack.extend [.text text])
      rw [hs]
      exact .faulted text
    · change m'.stack.config.capacity ≤ m'.stack.size at hfull
      rw [hs] at hfull
      omega

/-- The call of a function that was pushed with its arguments. -/
theorem ends_invoke (site : Script.Site β σ) (outputs : Nat) (handler : Int) {s : Stack}
    {callee : Value} {args : List Value} (hstack : m.stack = s.extend (callee :: args))
    (hfits : m.stack.size ≤ m.stack.config.capacity) :
    (invoke site args.length outputs handler).Ends m
      (fun _ m' => ∃ results, results.length = outputs ∧ m'.stack = s.extend results)
      (fun e m' => FailedCall s callee args e m'.stack)
      (fun stop => ∃ id, (callee = .function id ∨
        m.stack.handlerAt handler = some (.function id)) ∧ CallStops site id stop) := by
  cases hparts : m.stack.callParts args.length outputs handler with
  | error e =>
    refine ends_invoke_of_refused hparts ?_
    rw [hstack]
    exact .refused (Stack.callParts_ne_script hparts)
  | ok parts =>
    obtain ⟨hslots, hsize, hroom, hhandler⟩ := Stack.callParts_ok hparts
    -- everything on the stack can be counted, so the call takes exactly what was pushed for it
    have hcountable : m.stack.size ≤ maxCount := Nat.le_trans hfits m.stack.config.capacity_le
    have hs : m.stack.size = s.size + (args.length + 1) := by rw [hstack, Stack.size_extend]; rfl
    have hbelow : parts.below.length = s.slots.length := by
      simp only [Stack.size] at *
      omega
    have hsplit : s.slots ++ callee :: args = parts.below ++ parts.callee :: parts.args := by
      rw [← hslots, hstack, Stack.slots_extend]
    obtain ⟨hslots, hcalled⟩ := List.append_inj hsplit hbelow.symm
    obtain ⟨hcallee, -⟩ := List.cons.inj hcalled
    have hconfig : m.stack.config = s.config := by rw [hstack, Stack.config_extend]
    have hcalling : (m.calling parts.below args.length outputs).stack = s := by
      change { m.stack with slots := parts.below } = s
      rw [hstack, ← hslots]
      rfl
    refine ends_invoke_of_parts hparts (ends_bind (ends_callOutcome (fun r m' hm' => ?_) ?_))
    · refine ends_settleCall (hm'.trans hcalling) ?_ ?_ fun id stop hid hstop => ?_
      · rw [hconfig] at hfits
        omega
      · rw [hconfig, hbelow] at hroom
        exact hroom
      · rw [hhandler] at hid
        exact ⟨id, .inr hid, hstop⟩
    · rw [← hcallee]
      exact fun id stop hid hstop => ⟨id, .inl hid, hstop⟩

end ScriptBridge
