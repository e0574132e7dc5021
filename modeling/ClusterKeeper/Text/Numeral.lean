/-!
# Whole numbers in settings

A setting is a run of decimal digits, with a plus sign in front if wanted. The
digits are read from the left, and the first that is wrong decides the fault.

* `Numeral.read`: the number, if it is below a bound.
-/

namespace ClusterKeeper.Numeral

/-- Why a text is no number below the bound. -/
inductive Fault where
  | empty
  | invalidDigit
  | tooLarge
  deriving DecidableEq, Repr

/-- The fault in words. -/
def Fault.message : Fault → String
  | .empty => "cannot parse integer from empty string"
  | .invalidDigit => "invalid digit found in string"
  | .tooLarge => "number too large to fit in target type"

/-- Append the digits to `n`, which stays below `bound`. -/
def digits (bound : Nat) (n : Nat) : List Char → Except Fault Nat
  | [] => .ok n
  | c :: rest =>
    if c.isDigit then
      let n := n * 10 + (c.toNat - 48)
      if n < bound then digits bound n rest else .error .tooLarge
    else .error .invalidDigit

/-- The number that a setting holds, if it is below `bound`. -/
def read (bound : Nat) (s : String) : Except Fault Nat :=
  match s.toList with
  | [] => .error .empty
  | ['+'] => .error .invalidDigit
  | '+' :: rest => digits bound 0 rest
  | cs => digits bound 0 cs

end ClusterKeeper.Numeral
