/-
# ManualTraffic.Decimal.Basic -- a sign, a coefficient and a power of ten

The exact value of a written number.  `Decimal.toBinary64` is the nearest
binary64 number to it, found with one rounding from the exact ratio.
-/
import ManualTraffic.Binary64.Basic

namespace ManualTraffic

set_option autoImplicit false

/-- The number `coefficient * 10 ^ exponent`, negated when `negative`. -/
structure Decimal where
  negative : Bool
  coefficient : Nat
  exponent : Int
  deriving DecidableEq

namespace Decimal

/-- The place just above the leading digit: a non-zero number lies below
`10 ^ top` and not below `10 ^ (top - 1)`. -/
def top (d : Decimal) : Int := (Nat.toDigits 10 d.coefficient).length + d.exponent

/-- The nearest binary64 number.  A number of more than 310 places is beyond the
format, and one whose digits start after the 330th decimal is nearest to zero;
both are settled before any power of ten is computed. -/
def toBinary64 (d : Decimal) : Binary64 :=
  if d.coefficient = 0 ∨ d.top < -330 then .ofNat d.negative 0
  else if 310 < d.top then .infinite d.negative
  else .ofRatio d.negative (d.coefficient * Nat.pow 10 d.exponent.toNat * Binary64.one)
    (Nat.pow 10 (-d.exponent).toNat)

end Decimal

end ManualTraffic
