/-!
# Powers of two and of ten

The binary formats are cut at powers of two, decimal digits at powers of ten.
-/

namespace ScriptBridge

/-- The power of two of an exponent. -/
abbrev pow2 (exponent : Nat) : Nat := Nat.pow 2 exponent

/-- The power of ten of an exponent. -/
abbrev pow10 (exponent : Nat) : Nat := Nat.pow 10 exponent

end ScriptBridge
