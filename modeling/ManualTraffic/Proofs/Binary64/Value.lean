/-
# ManualTraffic.Proofs.Binary64.Value -- numbers as rationals

A finite number is a rational (`Binary64.value`), and a product or a quotient is the exact one,
rounded.  So it is finite exactly if the exact one is below the point from which on numbers are
rounded to infinity (`InRange`, `isFinite_mul_iff`, `isFinite_div_iff`).  Of numbers that are
not a NaN neither a product of finite ones nor a quotient by one above zero is a NaN.
-/
import ManualTraffic.Proofs.Binary64.Rounding
import Mathlib.Algebra.Order.Field.Basic
import Mathlib.Algebra.Order.Field.Rat

namespace ManualTraffic

set_option autoImplicit false

namespace Binary64

variable {x y : Binary64} {negative s t : Bool} {n d u v : Nat}

/-- The exact value of a finite number; the others have none, and are given zero. -/
def value : Binary64 → ℚ
  | .finite negative u _ => (if negative then -(u : ℚ) else u) / one
  | _ => 0

/-- A rational that is rounded to a finite number. -/
def InRange (q : ℚ) : Prop := |q| < limit

theorem one_pos_rat : (0 : ℚ) < one := Nat.cast_pos.2 one_pos

theorem abs_value_finite (held : Representable u) :
    |(Binary64.finite negative u held).value| = u / one := by
  rw [value, abs_div, Nat.abs_cast]
  cases negative with
  | false => rw [if_neg Bool.false_ne_true, Nat.abs_cast]
  | true => rw [if_pos rfl, abs_neg, Nat.abs_cast]

theorem abs_value_ofNat (held : Representable (n * one)) : |(ofNat negative n).value| = n := by
  rw [ofNat_of_representable held, abs_value_finite, Nat.cast_mul,
    mul_div_cancel_right₀ _ one_pos_rat.ne']

theorem value_ofNat (held : Representable (n * one)) : (ofNat false n).value = n := by
  rw [ofNat_of_representable held, value, if_neg Bool.false_ne_true, Nat.cast_mul,
    mul_div_cancel_right₀ _ one_pos_rat.ne']

theorem ofRatio_ne_nan (negative : Bool) (n d : Nat) : ofRatio negative n d ≠ .nan := by
  intro nan
  rw [ofRatio_eq] at nan
  split at nan <;> cases nan

theorem exists_finite_of_isFinite (finite : x.isFinite = true) :
    ∃ negative u held, x = .finite negative u held := by
  cases x with
  | nan | infinite => cases finite
  | finite negative u held => exact ⟨negative, u, held, rfl⟩

theorem ne_nan_of_isFinite (finite : x.isFinite = true) : x ≠ .nan := by
  rintro rfl
  cases finite

theorem exists_finite_of_isPositive (positive : x.isPositive = true) :
    ∃ u held, x = .finite false u held ∧ 0 < u := by
  cases x with
  | nan | infinite => cases positive
  | finite negative u held =>
      cases negative with
      | true => cases positive
      | false => exact ⟨u, held, rfl, of_decide_eq_true positive⟩

/-- The value of a number is rounded to that number. -/
theorem inRange_value (finite : x.isFinite = true) : InRange x.value := by
  obtain ⟨negative, u, held, rfl⟩ := exists_finite_of_isFinite finite
  have kept : (ofRatio negative (u * 1) 1).isFinite = true := by
    rw [ofRatio_units negative held Nat.one_pos, isFinite]
  rw [isFinite_ofRatio_iff _ _ Nat.one_pos, Nat.mul_one, Nat.mul_one, overflow] at kept
  rw [InRange, abs_value_finite, div_lt_iff₀ one_pos_rat]
  exact_mod_cast kept

theorem InRange.div {q r : ℚ} (inRange : InRange q) (one_le : 1 ≤ r) : InRange (q / r) := by
  rw [InRange, abs_div, abs_of_pos (zero_lt_one.trans_le one_le)]
  exact (div_le_self (abs_nonneg q) one_le).trans_lt inRange

theorem mul_eq (x y : Binary64) : x * y = mul x y := rfl

theorem div_eq (x y : Binary64) : x / y = div x y := rfl

/-! ## Products -/

theorem finite_mul_finite (held : Representable u) (held' : Representable v) :
    Binary64.finite s u held * .finite t v held' = ofRatio (s != t) (u * v) one := by
  rw [mul_eq, mul]

/-- A product of finite numbers is finite exactly if the exact product is in range. -/
theorem isFinite_mul_iff (finite : x.isFinite = true) (finite' : y.isFinite = true) :
    (x * y).isFinite = true ↔ InRange (x.value * y.value) := by
  obtain ⟨s, u, held, rfl⟩ := exists_finite_of_isFinite finite
  obtain ⟨t, v, held', rfl⟩ := exists_finite_of_isFinite finite'
  rw [finite_mul_finite, isFinite_ofRatio_iff _ _ one_pos, InRange, abs_mul, abs_value_finite,
    abs_value_finite, div_mul_div_comm, div_lt_iff₀ (mul_pos one_pos_rat one_pos_rat), ← mul_assoc,
    overflow]
  exact_mod_cast Iff.rfl

theorem mul_ne_nan (finite : x.isFinite = true) (finite' : y.isFinite = true) :
    x * y ≠ .nan := by
  obtain ⟨s, u, held, rfl⟩ := exists_finite_of_isFinite finite
  obtain ⟨t, v, held', rfl⟩ := exists_finite_of_isFinite finite'
  rw [finite_mul_finite]
  exact ofRatio_ne_nan _ _ _

/-! ## Quotients -/

theorem finite_div_finite (held : Representable u) (held' : Representable v) (some : v ≠ 0) :
    Binary64.finite s u held / .finite t v held' = ofRatio (s != t) (u * one) v := by
  rw [div_eq, div, if_neg some]

/-- A quotient of a finite number by one above zero is finite exactly if the exact quotient is
in range. -/
theorem isFinite_div_iff (finite : x.isFinite = true) (positive : y.isPositive = true) :
    (x / y).isFinite = true ↔ InRange (x.value / y.value) := by
  obtain ⟨s, u, held, rfl⟩ := exists_finite_of_isFinite finite
  obtain ⟨v, held', rfl, above⟩ := exists_finite_of_isPositive positive
  have above' : (0 : ℚ) < v := Nat.cast_pos.2 above
  rw [finite_div_finite held held' above.ne', isFinite_ofRatio_iff _ _ above, InRange, abs_div,
    abs_value_finite, abs_value_finite, div_div_div_cancel_right₀ one_pos_rat.ne',
    div_lt_iff₀ above', overflow, Nat.mul_right_comm, Nat.mul_lt_mul_right one_pos]
  exact_mod_cast Iff.rfl

/-- A quotient of no NaN by a number above zero is no NaN. -/
theorem div_ne_nan (number : x ≠ .nan) (positive : y.isPositive = true) : x / y ≠ .nan := by
  obtain ⟨v, held, rfl, above⟩ := exists_finite_of_isPositive positive
  cases x with
  | nan => exact absurd rfl number
  | infinite negative => nofun
  | finite negative u held' =>
      rw [finite_div_finite held' held above.ne']
      exact ofRatio_ne_nan _ _ _

/-- A quotient by a number above zero is finite only if what is divided is. -/
theorem isFinite_of_div (positive : y.isPositive = true) (number : x ≠ .nan)
    (finite : (x / y).isFinite = true) : x.isFinite = true := by
  obtain ⟨v, held, rfl, above⟩ := exists_finite_of_isPositive positive
  cases x with
  | nan => exact absurd rfl number
  | infinite negative => cases finite
  | finite negative u held' => rfl

end Binary64

end ManualTraffic
