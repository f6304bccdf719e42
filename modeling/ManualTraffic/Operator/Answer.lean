/-
# ManualTraffic.Operator.Answer -- what an answer says

An answer to a statistic is a whole number: an optional sign and digits, blanks
around them aside.  It is read as the number nearest to it, which is taken if it is
whole and at most `2 ^ 53 - 1` in magnitude.  An answer to a confirmation is compared
without regard to letter case and with its blanks.
-/
import ManualTraffic.Binary64.Text
import ManualTraffic.Text.Digits
import ManualTraffic.Text.Lowercase

namespace ManualTraffic

set_option autoImplicit false

namespace Answer

/-- The greatest magnitude of an answer, `2 ^ 53 - 1`. -/
def limit : Nat := Nat.pow 2 53 - 1

/-- The sign and the magnitude of a whole number. -/
def signed? : List Char → Option (Bool × Nat)
  | '-' :: ds => (Text.decimal? ds).map fun n => (true, n)
  | '+' :: ds => (Text.decimal? ds).map fun n => (false, n)
  | ds => (Text.decimal? ds).map fun n => (false, n)

/-- A whole number up to the limit; no other whole number is rounded to such a one. -/
def isSafe (value : Binary64) : Bool :=
  match value.whole? with
  | some (_, n) => n ≤ limit
  | none => false

/-- The number that an answer gives: the nearest one to what it writes, if that is safe.
A zero keeps its sign. -/
def integer? (answer : String) : Option Binary64 :=
  match signed? (Text.trim answer.toList) with
  | some (negative, n) =>
      let value := Binary64.ofNat negative n
      if isSafe value then some value else none
  | none => none

/-- The answers that accept a value. -/
def accepting : List String := ["", "yes", "y", "ye"]

/-- The answers that reject a value. -/
def rejecting : List String := ["no", "n"]

def accepts (answer : String) : Bool := accepting.contains (Text.lower answer)

def rejects (answer : String) : Bool := rejecting.contains (Text.lower answer)

end Answer

end ManualTraffic
