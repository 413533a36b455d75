/-!
Unsigned decimal numbers as they are written in parameters: an optional plus sign and ASCII
digits. Reading stops at the first fault from the left, so of a stray character and an overflow
the earlier one is reported.
-/

namespace Postroom.Text

inductive NumeralError where
  | empty
  | invalidDigit
  | tooLarge
  deriving DecidableEq, Repr

def NumeralError.message : NumeralError → String
  | .empty => "cannot parse integer from empty string"
  | .invalidDigit => "invalid digit found in string"
  | .tooLarge => "number too large to fit in target type"

/-- The value of an ASCII digit in `base`, letters standing for ten and more. -/
def digitValue? (base : Nat) (c : Char) : Option Nat :=
  let value? : Option Nat :=
    if '0' ≤ c ∧ c ≤ '9' then some (c.toNat - '0'.toNat)
    else if 'a' ≤ c ∧ c ≤ 'z' then some (c.toNat - 'a'.toNat + 10)
    else if 'A' ≤ c ∧ c ≤ 'Z' then some (c.toNat - 'A'.toNat + 10)
    else none
  value?.filter (· < base)

/-- Continue a number below `limit` with more digits. -/
def readDigits (base limit : Nat) : Nat → List Char → Except NumeralError Nat
  | acc, [] => .ok acc
  | acc, c :: cs =>
      match digitValue? base c with
      | none => .error .invalidDigit
      | some d =>
          if acc * base + d < limit then readDigits base limit (acc * base + d) cs
          else .error .tooLarge

/-- Read a decimal number below `limit`. -/
def readNat (limit : Nat) (s : String) : Except NumeralError Nat :=
  match s.toList with
  | [] => .error .empty
  | ['+'] | ['-'] => .error .invalidDigit
  | '+' :: digits => readDigits 10 limit 0 digits
  | digits => readDigits 10 limit 0 digits

end Postroom.Text
