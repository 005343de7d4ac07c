/-!
# Configuration of a stack

The capacity of a stack, whether its scripts see the standard libraries, and how it reacts to
values of another type and to scopes that end at an unexpected size.
-/

namespace ScriptBridge

/-- What a read does with a value of another type than expected: keep the previous value, or
report an error. -/
inductive Coercion where
  | permissive
  | strict
deriving DecidableEq, Repr, Inhabited

/-- What a scope does that ends at an unexpected size. -/
inductive BalancePolicy where
  | ignore
  | log
  | panic
deriving DecidableEq, Repr, Inhabited

/-- The greatest position that an index can name. -/
def maxIndex : Nat := 2147483647

/-- The greatest count. -/
def maxCount : Nat := 18446744073709551615

/-- The index of the topmost slot. -/
def top : Int := -1

/-- The configuration of a stack. The capacity is a count. -/
structure Config where
  capacity : Nat
  openLibs : Bool
  coercion : Coercion
  balance : BalancePolicy
  capacity_le : capacity ≤ maxCount
deriving DecidableEq, Repr

namespace Config

/-- The capacity of a stack for which no other one is asked. -/
def defaultCapacity : Nat := 1000000

/-- The configuration of a stack for which nothing else is asked. -/
def standard : Config := ⟨defaultCapacity, true, .permissive, .panic, by decide⟩

/-- The configuration with another capacity, so bounded that an index can name every slot. -/
def withCapacity (config : Config) (capacity : Nat) : Config :=
  { config with
    capacity := min capacity maxIndex
    capacity_le := Nat.le_trans (Nat.min_le_right _ _) (by decide) }

/-- The configuration with or without the standard libraries. -/
def withOpenLibs (config : Config) (openLibs : Bool) : Config :=
  { config with openLibs := openLibs }

/-- The configuration with another reaction to mistyped values. -/
def withCoercion (config : Config) (coercion : Coercion) : Config :=
  { config with coercion := coercion }

/-- The configuration with another reaction to unbalanced scopes. -/
def withBalance (config : Config) (balance : BalancePolicy) : Config :=
  { config with balance := balance }

/-- The configuration that reports mistyped values. -/
def strict (config : Config) : Config := config.withCoercion .strict

end Config

end ScriptBridge
