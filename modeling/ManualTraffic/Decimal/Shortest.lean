/-
# ManualTraffic.Decimal.Shortest -- the fewest digits that read back

The shortest decimal of a number is looked for on ever finer grids of powers of
ten: the grid on which it has one digit, then two, up to seventeen.
On each grid only the two neighbours of the number can read back to it, the
nearer one is tried first, and the first hit is the answer.
-/
import ManualTraffic.Decimal.Basic

namespace ManualTraffic

set_option autoImplicit false

namespace Decimal

/-- The place just above the leading digit of `u` units (`0 < u`).  One unit is
above `10 ^ -350`, so the count of digits is taken there. -/
def topOfUnits (u : Nat) : Int :=
  (Nat.toDigits 10 (u * Nat.pow 10 350 / Binary64.one)).length - 350

/-- The two multiples of `10 ^ exponent` around `u` units, the nearer one first;
from half-way the even one. -/
def neighbours (u : Nat) (exponent : Int) : List Nat :=
  let n := u * Nat.pow 10 (-exponent).toNat
  let d := Binary64.one * Nat.pow 10 exponent.toNat
  let below := n / d
  if 2 * (n % d) < d ∨ (2 * (n % d) = d ∧ below % 2 = 0) then [below, below + 1]
  else [below + 1, below]

/-- The nearest multiple of `10 ^ exponent` that reads back to `x`. -/
def onGrid? (x : Binary64) (negative : Bool) (u : Nat) (exponent : Int) : Option Decimal :=
  ((neighbours u exponent).map fun c => ⟨negative, c, exponent⟩).find? (·.toBinary64 = x)

/-- The exact decimal value of `u` units. -/
def ofUnits (negative : Bool) (u : Nat) : Decimal := ⟨negative, u * Nat.pow 5 1074, -1074⟩

/-- The shortest decimal that reads back to `x`, which is `u` units: the first
hit on the grids of 1 to 17 digits. -/
def shortest (x : Binary64) (negative : Bool) (u : Nat) : Decimal :=
  ((List.range 17).findSome? fun (k : Nat) => onGrid? x negative u (topOfUnits u - (k + 1))).getD
    (ofUnits negative u)

end Decimal

end ManualTraffic
