/-
# ManualTraffic.Binary64.Basic -- the numbers of a test, held exactly

Counters, frame sizes and rates are IEEE 754 binary64 numbers.  A finite one is
held as a sign and a whole number of *units*, where one unit is the least
positive number of the format, `2 ^ -1074`; the number one is `2 ^ 1074` units.
So every finite number is exact natural-number arithmetic away, and each
operation is the exact operation followed by one rounding
(`Binary64.ofRatio`): to the nearest number of the format, to the even
neighbour from half-way, and to infinity beyond the last one.

`Binary64.ofRatio_units` says that rounding leaves a number of the format
alone, which is what makes whole numbers below `2 ^ 53` exact.
-/

namespace ManualTraffic

set_option autoImplicit false

namespace Binary64

/-- The number one, in units. -/
def one : Nat := Nat.pow 2 1074

/-- The distance between neighbours of the format around `u` units: 53
significant bits, but never less than one unit. -/
def spacing (u : Nat) : Nat := Nat.pow 2 (u.log2 - 52)

/-- A magnitude that the format holds: a multiple of its own spacing, below
`2 ^ 1024`. -/
def Representable (u : Nat) : Prop := u < Nat.pow 2 2098 ∧ u % spacing u = 0

instance (u : Nat) : Decidable (Representable u) := inferInstanceAs (Decidable (_ ∧ _))

/-- The quotient rounded to the nearest whole number, from half-way to the even
one. -/
def divHalfEven (n d : Nat) : Nat :=
  if 2 * (n % d) < d then n / d
  else if d < 2 * (n % d) then n / d + 1
  else n / d + n / d % 2

theorem divHalfEven_mul (q : Nat) {d : Nat} (pos : 0 < d) : divHalfEven (q * d) d = q := by
  simp [divHalfEven, Nat.mul_mod_left, Nat.mul_div_cancel _ pos, pos]

theorem spacing_pos (u : Nat) : 0 < spacing u := Nat.two_pow_pos (u.log2 - 52)

end Binary64

/-- An IEEE 754 binary64 number.  Zero keeps its sign. -/
inductive Binary64 where
  | nan
  | infinite (negative : Bool)
  | finite (negative : Bool) (units : Nat) (representable : Binary64.Representable units)
  deriving DecidableEq

namespace Binary64

/-- The number nearest to `n / d` units (`d` positive), with the given sign. -/
def ofRatio (negative : Bool) (n d : Nat) : Binary64 :=
  let step := spacing (n / d)
  let u := divHalfEven n (d * step) * step
  if h : Representable u then .finite negative u h else .infinite negative

/-- Rounding leaves a number of the format as it is. -/
theorem ofRatio_units (negative : Bool) {u d : Nat} (h : Representable u) (pos : 0 < d) :
    ofRatio negative (u * d) d = .finite negative u h := by
  have whole : u = u / spacing u * spacing u :=
    (Nat.div_mul_cancel (Nat.dvd_of_mod_eq_zero h.2)).symm
  have rounded : divHalfEven (u * d) (d * spacing u) = u / spacing u := by
    have regroup : u * d = u / spacing u * (d * spacing u) := by
      calc u * d = u / spacing u * spacing u * d := by rw [← whole]
        _ = u / spacing u * (d * spacing u) := by rw [Nat.mul_assoc, Nat.mul_comm d]
    rw [regroup]
    exact divHalfEven_mul _ (Nat.mul_pos pos (spacing_pos u))
  have back : divHalfEven (u * d) (d * spacing u) * spacing u = u := by rw [rounded, ← whole]
  simp only [ofRatio, Nat.mul_div_cancel _ pos, back, h, dif_pos]

/-! ## Numbers from whole numbers -/

/-- The number nearest to the whole number `n`, with the given sign. -/
def ofNat (negative : Bool) (n : Nat) : Binary64 := ofRatio negative (n * one) 1

def zero : Binary64 := ofNat false 0

/-- The whole number that a number is, sign and magnitude; zero keeps its sign. -/
def whole? : Binary64 → Option (Bool × Nat)
  | .finite negative u _ => if u % one = 0 then some (negative, u / one) else none
  | _ => none

/-! ## Tests -/

def isFinite : Binary64 → Bool
  | .finite .. => true
  | _ => false

/-- A finite number above zero. -/
def isPositive : Binary64 → Bool
  | .finite false u _ => 0 < u
  | _ => false

/-- Zero of either sign. -/
def isZero : Binary64 → Bool
  | .finite _ u _ => u = 0
  | _ => false

def isWhole (x : Binary64) : Bool := x.whole?.isSome

/-! ## Arithmetic -/

/-- The exact product, rounded; nothing times infinity is not a number. -/
def mul : Binary64 → Binary64 → Binary64
  | .finite s u _, .finite t v _ => ofRatio (s != t) (u * v) one
  | .infinite s, .finite t v _ => if v = 0 then .nan else .infinite (s != t)
  | .finite s u _, .infinite t => if u = 0 then .nan else .infinite (s != t)
  | .infinite s, .infinite t => .infinite (s != t)
  | _, _ => .nan

/-- The exact quotient, rounded; a non-zero number over zero is infinite. -/
def div : Binary64 → Binary64 → Binary64
  | .finite s u _, .finite t v _ =>
      if v = 0 then if u = 0 then .nan else .infinite (s != t)
      else ofRatio (s != t) (u * one) v
  | .infinite s, .finite t _ _ => .infinite (s != t)
  | .finite s _ _, .infinite t => ofNat (s != t) 0
  | _, _ => .nan

instance : Mul Binary64 := ⟨mul⟩
instance : Div Binary64 := ⟨div⟩

end Binary64

end ManualTraffic
