/-
# ManualTraffic.Decimal.Numeral -- the parts of a written number

A numeral is a run of digits, then perhaps a point with a second run, then
perhaps an exponent.  `Numeral.scan` takes the longest numeral off the front of
a text; which parts may be empty is for the language that uses it to say.
-/
import ManualTraffic.Decimal.Basic

namespace ManualTraffic

set_option autoImplicit false

/-- The digits before the point, those after it (`none` without a point), and
the power of ten. -/
structure Numeral where
  whole : List Char
  fraction : Option (List Char)
  exponent : Int
  deriving DecidableEq

namespace Numeral

/-- The longest run of digits and what follows it. -/
def digits (text : List Char) : List Char × List Char :=
  (text.takeWhile Char.isDigit, text.dropWhile Char.isDigit)

/-- A point and the digits after it. -/
def scanFraction : List Char → Option (List Char) × List Char
  | '.' :: text => (some (digits text).1, (digits text).2)
  | text => (none, text)

/-- The digits of an exponent after its sign: at least one. -/
def scanPower (negative : Bool) (text : List Char) : Option (Int × List Char) :=
  match digits text with
  | ([], _) => none
  | (ds, rest) =>
      let power : Int := Nat.ofDigitChars 10 ds 0
      some (if negative then -power else power, rest)

/-- An exponent with its mark.  A text that starts with no mark has exponent
zero; a mark with no digit after it is refused. -/
def scanExponent : List Char → Option (Int × List Char)
  | c :: text =>
      if c = 'e' ∨ c = 'E' then
        match text with
        | '-' :: text => scanPower true text
        | '+' :: text => scanPower false text
        | text => scanPower false text
      else some (0, c :: text)
  | [] => some (0, [])

/-- The numeral at the front of a text, and the rest. -/
def scan (text : List Char) : Option (Numeral × List Char) :=
  let (whole, text) := digits text
  let (fraction, text) := scanFraction text
  (scanExponent text).map fun (exponent, rest) => (⟨whole, fraction, exponent⟩, rest)

/-- All digits of a numeral, in order. -/
def allDigits (n : Numeral) : List Char := n.whole ++ n.fraction.getD []

/-- The number that a numeral writes. -/
def toDecimal (n : Numeral) (negative : Bool) : Decimal :=
  ⟨negative, Nat.ofDigitChars 10 n.allDigits 0, n.exponent - (n.fraction.getD []).length⟩

end Numeral

end ManualTraffic
