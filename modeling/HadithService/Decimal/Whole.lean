/-!
# Whole numbers in texts

A whole number is written in decimal digits, perhaps after a plus sign.  The digits are taken
one by one, so a text with two faults shows the one that comes first.
-/

namespace HadithService

/-- Why a text is not a number below a bound. -/
inductive NumberFault where
  | invalidDigit
  | tooLarge
deriving DecidableEq, Repr

/-- How the fault is told. -/
def NumberFault.message : NumberFault → String
  | .invalidDigit => "invalid digit found in string"
  | .tooLarge => "number too large to fit in target type"

namespace Decimal

/-- The number that some digits are, after the digits of `n`. -/
def digitsBelow (bound : Nat) : Nat → List Char → Except NumberFault Nat
  | n, [] => .ok n
  | n, c :: rest =>
    if !c.isDigit then .error .invalidDigit
    else
      let next := n * 10 + (c.toNat - '0'.toNat)
      if bound ≤ next then .error .tooLarge else digitsBelow bound next rest

/-- The number below a bound that a text is. -/
def wholeBelow (bound : Nat) (s : String) : Except NumberFault Nat :=
  match s.toList with
  | [] => .error .invalidDigit
  | ['+'] => .error .invalidDigit
  | '+' :: rest => digitsBelow bound 0 rest
  | cs => digitsBelow bound 0 cs

end Decimal

end HadithService
