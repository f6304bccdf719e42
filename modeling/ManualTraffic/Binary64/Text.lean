/-
# ManualTraffic.Binary64.Text -- how a number is written and read

`Binary64.text` writes the fewest digits that read back: positionally while the
leading digit stands within 21 places before the point or six after it, else
with an exponent (`1e+21`, `1e-7`).  Zero of either sign is `0`.
`Binary64.fixed` writes a given count of decimals, halves going away from zero.
`Binary64.ofText?` reads a number as an operator or a caller writes it: a signed
numeral, `Infinity`, or a hexadecimal, octal or binary whole number.
-/
import ManualTraffic.Decimal.Numeral
import ManualTraffic.Decimal.Shortest
import ManualTraffic.Text.Blank
import ManualTraffic.Text.Digits

namespace ManualTraffic

set_option autoImplicit false

namespace Binary64

/-! ## Writing -/

/-- A sign in front of a magnitude. -/
def signed (negative : Bool) (magnitude : List Char) : List Char :=
  if negative then '-' :: magnitude else magnitude

/-- Digits without the zeros at their end. -/
def stripZeros (ds : List Char) : List Char := (ds.reverse.dropWhile (· == '0')).reverse

/-- An exponent with its mark and sign. -/
def power (e : Int) : List Char :=
  'e' :: (if e < 0 then '-' else '+') :: Nat.toDigits 10 e.natAbs

/-- The digits `ds` with the decimal point after the first `point` places. -/
def place (ds : List Char) (point : Int) : List Char :=
  if 0 < point ∧ point ≤ 21 then
    let whole := ds.take point.toNat
    let pad := List.replicate (point.toNat - ds.length) '0'
    match ds.drop point.toNat with
    | [] => whole ++ pad
    | rest => whole ++ '.' :: rest
  else if -6 < point ∧ point ≤ 0 then
    '0' :: '.' :: (List.replicate (-point).toNat '0' ++ ds)
  else
    match ds with
    | [d] => d :: power (point - 1)
    | d :: rest => d :: '.' :: (rest ++ power (point - 1))
    | [] => []

/-- A decimal in positional or exponent form, whichever its size asks for. -/
def layout (d : Decimal) : List Char :=
  place (stripZeros (Nat.toDigits 10 d.coefficient)) d.top

/-- The text of a number, character by character.  A whole number below
`2 ^ 53` is its own digits. -/
def chars (x : Binary64) : List Char :=
  match x with
  | .nan => "NaN".toList
  | .infinite negative => signed negative "Infinity".toList
  | .finite negative u _ =>
      if u = 0 then ['0']
      else if u % one = 0 ∧ u < Nat.pow 2 53 * one then signed negative (Nat.toDigits 10 (u / one))
      else signed negative (layout (Decimal.shortest x negative u))

/-- The text of a number: the fewest digits that read back. -/
def text (x : Binary64) : String := String.ofList x.chars

/-- A number with exactly `places` decimals, halves going away from zero; from
`10 ^ 21` on, its plain text. -/
def fixed (places : Nat) (x : Binary64) : String :=
  match x with
  | .finite negative u _ =>
      if Nat.pow 10 21 * one ≤ u then x.text
      else
        let ds := Nat.toDigits 10 ((2 * u * Nat.pow 10 places + one) / (2 * one))
        let padded := List.replicate (places + 1 - ds.length) '0' ++ ds
        let point := padded.length - places
        String.ofList
          (signed (negative && u != 0) (padded.take point ++ '.' :: padded.drop point))
  | x => x.text

/-! ## Reading -/

/-- A whole number of digits in a base; there is at least one. -/
def ofBase? (base : Nat) (ds : List Char) : Option Binary64 :=
  if ds = [] then none else (Text.readDigits? base 0 ds).map (ofNat false)

/-- A numeral or `Infinity` after its sign. -/
def ofMagnitude? (negative : Bool) (cs : List Char) : Option Binary64 :=
  if cs = "Infinity".toList then some (.infinite negative)
  else
    match Numeral.scan cs with
    | some (n, []) =>
        if n.allDigits = [] then none else some (n.toDecimal negative).toBinary64
    | _ => none

/-- The number that a text writes, blanks around it aside.  A blank text is
zero; a text that writes no number gives `none`. -/
def ofText? (text : String) : Option Binary64 :=
  match Text.trim text.toList with
  | [] => some zero
  | '0' :: 'x' :: ds | '0' :: 'X' :: ds => ofBase? 16 ds
  | '0' :: 'o' :: ds | '0' :: 'O' :: ds => ofBase? 8 ds
  | '0' :: 'b' :: ds | '0' :: 'B' :: ds => ofBase? 2 ds
  | '-' :: cs => ofMagnitude? true cs
  | '+' :: cs => ofMagnitude? false cs
  | cs => ofMagnitude? false cs

end Binary64

end ManualTraffic
