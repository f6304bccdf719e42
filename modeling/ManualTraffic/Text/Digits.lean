/-
# ManualTraffic.Text.Digits -- whole numbers in digits

A whole number is written in decimal digits (`Text.wholeNumber?`) or in the digits
of a base up to sixteen (`Text.readDigits?`), where from ten on the digits are the
letters `a` to `f`, small or capital.
-/
import ManualTraffic.Text.Blank

namespace ManualTraffic

set_option autoImplicit false

namespace Text

/-! ## Decimal digits -/

/-- The whole number of a run of decimal digits; there is at least one. -/
def decimal? (ds : List Char) : Option Nat :=
  if ds ≠ [] ∧ ds.all Char.isDigit then some (Nat.ofDigitChars 10 ds 0) else none

/-- The whole number that a text writes without a sign, blanks around it aside. -/
def wholeNumber? (text : String) : Option Nat := decimal? (trim text.toList)

/-! ## Digits of a base -/

/-- The value of a digit. -/
def digitValue? (c : Char) : Option Nat :=
  if c.isDigit then some (c.toNat - 48)
  else if 'a' ≤ c ∧ c ≤ 'f' then some (c.toNat - 87)
  else if 'A' ≤ c ∧ c ≤ 'F' then some (c.toNat - 55)
  else none

/-- The number that digits of a base write after those of `value`. -/
def readDigits? (base : Nat) : Nat → List Char → Option Nat
  | value, [] => some value
  | value, c :: rest =>
      match digitValue? c with
      | some digit =>
          if digit < base then readDigits? base (base * value + digit) rest else none
      | none => none

end Text

end ManualTraffic
