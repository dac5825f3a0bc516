/-!
# Numerals

An unsigned decimal numeral is an optional `+` and one or more ASCII digits.  It is read from left
to right against a bound, so a numeral with several faults reports the first one.

* `read`: the number, or the first fault.
-/

namespace FormReply

/-- Why a text is not a numeral within the bound. -/
inductive NumeralError where
  | empty
  | invalidDigit
  /-- The value exceeds the bound. -/
  | tooLarge
deriving DecidableEq, Repr

/-- The wording of a numeral's fault. -/
def NumeralError.message : NumeralError → String
  | .empty => "cannot parse integer from empty string"
  | .invalidDigit => "invalid digit found in string"
  | .tooLarge => "number too large to fit in target type"

namespace Numeral

/-- The value of a decimal digit. -/
def digitValue (c : Char) : Nat := c.toNat - '0'.toNat

/-- Reads digits behind the value of the digits before them. -/
def readDigits (bound value : Nat) : List Char → Except NumeralError Nat
  | [] => .ok value
  | c :: rest =>
    if c.isDigit then
      let value := value * 10 + digitValue c
      if value ≤ bound then readDigits bound value rest else .error .tooLarge
    else .error .invalidDigit

/-- Reads a numeral of at most `bound`. -/
def read (bound : Nat) (text : List Char) : Except NumeralError Nat :=
  match text with
  | [] => .error .empty
  | '+' :: [] => .error .invalidDigit
  | '+' :: digits => readDigits bound 0 digits
  | digits => readDigits bound 0 digits

end Numeral

end FormReply
