import ScriptBridge.Script.Token

/-!
# Numbers in texts

A text is a number when it reads as a numeral of scripts, with blanks around it and a sign before
it. Where a number is asked for, such a text will do.
-/

namespace ScriptBridge

namespace Script

/-- The number that a text is. -/
def numberOfText? (bytes : Bytes) : Option Value :=
  let blank : Char → Bool := fun c => Token.isBlank c || Token.isNewline c
  let cs := (Token.characters bytes).dropWhile blank
  let cs := (cs.reverse.dropWhile blank).reverse
  let (isNegative, cs) := match cs with
    | '-' :: rest => (true, rest)
    | '+' :: rest => (false, rest)
    | rest => (false, rest)
  match Token.number? isNegative cs with
  | some (.integer i) => some (.integer (if isNegative then -i else i))
  | some (.number d) => some (.number (if isNegative then d.neg else d))
  | _ => none

end Script

/-- The number that a value is, or that its text is. -/
def Value.numeric? : Value → Option Value
  | .string bytes => Script.numberOfText? bytes
  | .integer i => some (.integer i)
  | .number d => some (.number d)
  | _ => none

end ScriptBridge
