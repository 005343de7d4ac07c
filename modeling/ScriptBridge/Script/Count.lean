import ScriptBridge.Script.Numeral
import ScriptBridge.Script.Operations

/-!
# Loops over numbers

A loop over integers counts its rounds before the first one, so that it ends even where its index
would leave the range of integers. As soon as the start or the step is no integer, the loop is one
over doubles, which ends when the index passes the limit.
-/

namespace ScriptBridge.Script

/-- What a loop over numbers keeps between its rounds: the index, the limit or how many rounds are
left, and the step. -/
structure Count where
  index : Value
  limit : Value
  step : Value

variable {β σ : Type}

namespace Count

/-- The least integral number not below a number. -/
def ceiling (d : Double) : Double := d.neg.floor.neg

/-- The last integer that a loop may reach toward a number, none when it does not reach any. -/
def bound? (isUpward : Bool) : Value → Option Int64
  | .integer i => some i
  | .number d =>
    match (if isUpward then d.floor else ceiling d).exactInteger? with
    | some i => some i
    | none =>
      if Double.zero.less d then (if isUpward then some Int64.maxValue else none)
      else if isUpward then none
      else some Int64.minValue
  | _ => none

/-- How many rounds follow the first one of a loop over integers. -/
def roundsAfter (first last step : Int64) : UInt64 :=
  if 0 < step then (last.toUInt64 - first.toUInt64) / step.toUInt64
  else (first.toUInt64 - last.toUInt64) / ((-(step + 1)).toUInt64 + 1)

/-- Fails because a part of a loop is no number. -/
def failPart {α : Type} (s : Surroundings) (part : String) (v : Value) : ScriptM β σ α := do
  s.fail (Bytes.ofString ("bad 'for' " ++ part ++ " (number expected, got ")
    ++ (← shownType v).untilZero ++ Bytes.ofString ")")

/-- The double that a part of a loop is. -/
def double (s : Surroundings) (part : String) (v : Value) : ScriptM β σ Double :=
  match v.numeric?.bind Value.toDouble? with
  | some d => return d
  | none => failPart s part v

/-- A loop over integers before its first round, if it has one. -/
def ofIntegers (s : Surroundings) (first : Int64) (limit : Value) (step : Int64) :
    ScriptM β σ (Option Count) := do
  if step = 0 then s.failText "'for' step is zero"
  else
    match limit.numeric? with
    | none => failPart s "limit" limit
    | some limit =>
      match bound? (0 < step) limit with
      | none => return none
      | some last =>
        if (if 0 < step then last < first else first < last) then return none
        else
          let rounds := Value.integer (Int64.ofUInt64 (roundsAfter first last step))
          return some ⟨.integer first, rounds, .integer step⟩

/-- A loop over doubles before its first round, if it has one. -/
def ofDoubles (s : Surroundings) (first limit step : Value) : ScriptM β σ (Option Count) := do
  let l ← double s "limit" limit
  let d ← double s "step" step
  let i ← double s "initial value" first
  if d.same .zero then s.failText "'for' step is zero"
  else if (if Double.zero.less d then l.less i else i.less l) then return none
  else return some ⟨.number i, .number l, .number d⟩

/-- A loop before its first round, if it has one. -/
def ofParts (s : Surroundings) (first limit step : Value) : ScriptM β σ (Option Count) :=
  match first, step with
  | .integer i, .integer d => ofIntegers s i limit d
  | _, _ => ofDoubles s first limit step

/-- A loop before its next round, if it has one. -/
def next? (c : Count) : Option Count :=
  match c.index, c.limit, c.step with
  | .integer i, .integer rounds, .integer step =>
    if rounds = 0 then none else some ⟨.integer (i + step), .integer (rounds - 1), c.step⟩
  | .number d, .number limit, .number step =>
    let d := d.add step
    if (if Double.zero.less step then d.atMost limit else limit.atMost d) then
      some ⟨.number d, c.limit, c.step⟩
    else none
  | _, _, _ => none

end Count

end ScriptBridge.Script
