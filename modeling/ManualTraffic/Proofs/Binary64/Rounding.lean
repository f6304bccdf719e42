/-
# ManualTraffic.Proofs.Binary64.Rounding -- what rounding a quotient gives

A quotient is rounded to a multiple of the spacing around it: of one unit at the low end, and
elsewhere of the power of two that leaves it 53 significant bits (`Binade`).  A multiple of
that power which is not above `2 ^ 53` of them is a number of the format, if it is not too
large (`representable_mul`).  So rounding gives an infinity exactly from the point on that is
half-way between the last number and `2 ^ 1024` (`isFinite_ofRatio_iff`), and a whole number
stays what it is exactly if its 53 leading bits are all it has (`whole?_ofNat_iff`); from
`2 ^ 53` on, none is rounded to a number below (`le_of_whole?_ofNat`).
-/
import ManualTraffic.Binary64.Basic
import Mathlib.Algebra.Order.Ring.Nat
import Mathlib.Tactic.Ring

namespace ManualTraffic

set_option autoImplicit false

namespace Binary64

variable {n d e u : Nat} {negative : Bool}

theorem spacing_eq (u : Nat) : spacing u = 2 ^ (u.log2 - 52) := rfl

theorem one_pos : 0 < one := by decide +kernel

/-! ## Nearest whole numbers -/

theorem divHalfEven_cases (n d : Nat) :
    (divHalfEven n d = n / d ∧ 2 * (n % d) ≤ d) ∨
      (divHalfEven n d = n / d + 1 ∧ d ≤ 2 * (n % d)) := by
  unfold divHalfEven
  split
  · exact .inl ⟨rfl, by omega⟩
  · split
    · exact .inr ⟨rfl, by omega⟩
    · rcases Nat.mod_two_eq_zero_or_one (n / d) with even | odd
      · exact .inl ⟨by omega, by omega⟩
      · exact .inr ⟨by omega, by omega⟩

/-- From half-way up, an odd quotient goes to its upper neighbour. -/
theorem divHalfEven_of_odd (odd : n / d % 2 = 1) (upper : d ≤ 2 * (n % d)) :
    divHalfEven n d = n / d + 1 := by
  unfold divHalfEven
  rw [if_neg (by omega), odd]
  split <;> rfl

/-- A quotient below an even number is rounded up to it from half a unit before it on. -/
theorem divHalfEven_lt_iff {k middle : Nat} (pos : 0 < d) (even : k % 2 = 0) (fewer : n / d < k)
    (half : 2 * middle + d = 2 * (d * k)) : divHalfEven n d < k ↔ n < middle := by
  have parts := Nat.div_add_mod n d
  have rest := Nat.mod_lt n pos
  have near := divHalfEven_cases n d
  have odd := divHalfEven_of_odd (n := n) (d := d)
  rcases Nat.lt_or_eq_of_le (Nat.succ_le_of_lt fewer) with inner | last
  · have below : d * (n / d + 2) ≤ d * k := Nat.mul_le_mul_left d inner
    rw [Nat.mul_add] at below
    omega
  · have upper : d * (n / d + 1) = d * k := congrArg (d * ·) last
    rw [Nat.mul_add] at upper
    omega

/-! ## Binades -/

/-- The quotient of `n` and `d` has at most 53 bits above the place of `2 ^ e`, and just so
many unless that is the last place. -/
structure Binade (n d e : Nat) : Prop where
  lt : n < d * 2 ^ e * 2 ^ 53
  normal : e = 0 ∨ d * 2 ^ e * 2 ^ 52 ≤ n

/-- The spacing around a quotient is the place of its last significant bit. -/
theorem binade (n : Nat) (pos : 0 < d) : Binade n d ((n / d).log2 - 52) := by
  generalize place : (n / d).log2 - 52 = e
  constructor
  · have above : n / d < 2 ^ (e + 53) :=
      Nat.lt_of_lt_of_le Nat.lt_log2_self (Nat.pow_le_pow_right (by decide) (by omega))
    rw [Nat.div_lt_iff_lt_mul pos, Nat.mul_comm, Nat.pow_add, ← Nat.mul_assoc] at above
    exact above
  · by_cases last : e = 0
    · exact .inl last
    · have some : n / d ≠ 0 := by
        intro none
        rw [none, Nat.log2_zero] at place
        omega
      have bits : (n / d).log2 = e + 52 := by omega
      have below : 2 ^ (e + 52) ≤ n / d := bits ▸ Nat.log2_self_le some
      rw [Nat.le_div_iff_mul_le pos, Nat.mul_comm, Nat.pow_add, ← Nat.mul_assoc] at below
      exact .inr below

namespace Binade

variable (binade : Binade n d e) (pos : 0 < d)

include binade pos

theorem quotient_lt : n / (d * 2 ^ e) < 2 ^ 53 := by
  rw [Nat.div_lt_iff_lt_mul (Nat.mul_pos pos (Nat.two_pow_pos e)), Nat.mul_comm]
  exact binade.lt

/-- A rounded quotient has at most 53 bits, unless it is the next power of two. -/
theorem rounded_le : divHalfEven n (d * 2 ^ e) ≤ 2 ^ 53 := by
  have quotient := binade.quotient_lt pos
  rcases divHalfEven_cases n (d * 2 ^ e) with ⟨down, -⟩ | ⟨up, -⟩ <;> omega

theorem le_rounded (inner : e ≠ 0) : 2 ^ 52 ≤ divHalfEven n (d * 2 ^ e) := by
  have lower : 2 ^ 52 ≤ n / (d * 2 ^ e) := by
    rw [Nat.le_div_iff_mul_le (Nat.mul_pos pos (Nat.two_pow_pos e)), Nat.mul_comm]
    exact binade.normal.resolve_left inner
  rcases divHalfEven_cases n (d * 2 ^ e) with ⟨down, -⟩ | ⟨up, -⟩ <;> omega

end Binade

/-! ## Numbers of the format -/

/-- What has no bit below the place of `2 ^ e`, and at most 53 above it, is a multiple of its
own spacing. -/
theorem spacing_dvd {m : Nat} (bits : m ≤ 2 ^ 53) (e : Nat) : spacing (m * 2 ^ e) ∣ m * 2 ^ e := by
  rw [spacing_eq]
  rcases Nat.lt_or_eq_of_le bits with fewer | rfl
  · refine Nat.dvd_trans (Nat.pow_dvd_pow 2 ?_) (Nat.dvd_mul_left _ _)
    by_cases zero : m * 2 ^ e = 0
    · rw [zero, Nat.log2_zero]
      omega
    · have below : m * 2 ^ e < 2 ^ (53 + e) := by
        rw [Nat.pow_add]
        exact Nat.mul_lt_mul_of_pos_right fewer (Nat.two_pow_pos e)
      have short := (Nat.log2_lt zero).2 below
      omega
  · rw [← Nat.pow_add, Nat.log2_two_pow]
    exact Nat.pow_dvd_pow 2 (by omega)

theorem representable_mul {m : Nat} (bits : m ≤ 2 ^ 53) (below : m * 2 ^ e < Nat.pow 2 2098) :
    Representable (m * 2 ^ e) :=
  ⟨below, Nat.mod_eq_zero_of_dvd (spacing_dvd bits e)⟩

/-! ## The end of the format -/

/-- The magnitude that a quotient is rounded to, whether the format has it or not. -/
def rounded (n d : Nat) : Nat := divHalfEven n (d * spacing (n / d)) * spacing (n / d)

theorem ofRatio_eq (negative : Bool) (n d : Nat) :
    ofRatio negative n d =
      if h : Representable (rounded n d) then .finite negative (rounded n d) h
      else .infinite negative := rfl

theorem representable_rounded_iff (n : Nat) (pos : 0 < d) :
    Representable (rounded n d) ↔ rounded n d < Nat.pow 2 2098 :=
  ⟨And.left, representable_mul ((binade n pos).rounded_le pos)⟩

theorem isFinite_ofRatio (negative : Bool) (n d : Nat) :
    (ofRatio negative n d).isFinite = true ↔ Representable (rounded n d) := by
  rw [ofRatio_eq]
  split
  · rename_i held
    exact ⟨fun _ => held, fun _ => rfl⟩
  · rename_i left
    refine ⟨fun finite => ?_, fun held => absurd held left⟩
    cases finite

/-- The spacing one binade before the last one. -/
def lastHalf : Nat := Nat.pow 2 2044

theorem lastHalf_pos : 0 < lastHalf := by decide +kernel

/-- The exponent as a variable, so that nothing evaluates the power. -/
theorem lastHalf_eq : ∃ k, k = 2044 ∧ lastHalf = 2 ^ k := ⟨2044, rfl, by decide +kernel⟩

theorem range_eq : Nat.pow 2 2098 = 2 ^ 54 * lastHalf := by decide +kernel

/-- Half-way between the last number of the format and `2 ^ 1024`. -/
def limit : Nat := Nat.pow 2 1024 - Nat.pow 2 970

/-- The same in units. -/
def overflow : Nat := limit * one

theorem overflow_eq : overflow = (2 ^ 54 - 1) * lastHalf := by decide +kernel

section

variable (fits : Binade n d e) (pos : 0 < d)

include fits pos

/-- Before the last binade nothing is rounded out of the range. -/
theorem below_of_low (low : 2 ^ e ≤ lastHalf) :
    divHalfEven n (d * 2 ^ e) * 2 ^ e < Nat.pow 2 2098 ∧ n < overflow * d := by
  have bits := fits.rounded_le pos
  rw [overflow_eq, range_eq]
  constructor
  · calc divHalfEven n (d * 2 ^ e) * 2 ^ e ≤ 2 ^ 53 * lastHalf := Nat.mul_le_mul bits low
      _ < 2 ^ 54 * lastHalf := Nat.mul_lt_mul_of_pos_right (by decide) lastHalf_pos
  · calc n < d * 2 ^ e * 2 ^ 53 := fits.lt
      _ ≤ d * lastHalf * 2 ^ 53 := Nat.mul_le_mul_right _ (Nat.mul_le_mul_left d low)
      _ ≤ d * lastHalf * (2 ^ 54 - 1) := Nat.mul_le_mul_left _ (by decide)
      _ = (2 ^ 54 - 1) * lastHalf * d := by ring

/-- Behind the last binade everything is out of it. -/
theorem beyond_of_high (inner : e ≠ 0) (high : 2 ^ 2 * lastHalf ≤ 2 ^ e) :
    Nat.pow 2 2098 ≤ divHalfEven n (d * 2 ^ e) * 2 ^ e ∧ overflow * d ≤ n := by
  have bits := fits.le_rounded pos inner
  rw [overflow_eq, range_eq]
  constructor
  · calc 2 ^ 54 * lastHalf = 2 ^ 52 * (2 ^ 2 * lastHalf) := by ring
      _ ≤ divHalfEven n (d * 2 ^ e) * 2 ^ e := Nat.mul_le_mul bits high
  · calc (2 ^ 54 - 1) * lastHalf * d ≤ 2 ^ 54 * lastHalf * d :=
          Nat.mul_le_mul_right d (Nat.mul_le_mul_right lastHalf (by decide))
      _ = d * (2 ^ 2 * lastHalf) * 2 ^ 52 := by ring
      _ ≤ d * 2 ^ e * 2 ^ 52 := Nat.mul_le_mul_right _ (Nat.mul_le_mul_left d high)
      _ ≤ n := fits.normal.resolve_left inner

/-- In the last binade the half-way point decides: from there on the greatest quotient, which
is odd, is rounded up. -/
theorem below_iff_of_last (last : 2 ^ e = 2 * lastHalf) :
    divHalfEven n (d * 2 ^ e) * 2 ^ e < Nat.pow 2 2098 ↔ n < overflow * d := by
  have range : Nat.pow 2 2098 = 2 ^ 53 * 2 ^ e := by
    rw [last, range_eq]
    ring
  have half : 2 * (overflow * d) + d * 2 ^ e = 2 * (d * 2 ^ e * 2 ^ 53) := by
    rw [last, overflow_eq]
    ring
  rw [range, Nat.mul_lt_mul_right (Nat.two_pow_pos e)]
  exact divHalfEven_lt_iff (Nat.mul_pos pos (Nat.two_pow_pos e)) (by decide)
    (fits.quotient_lt pos) half

end

theorem rounded_lt_iff (n : Nat) (pos : 0 < d) :
    rounded n d < Nat.pow 2 2098 ↔ n < overflow * d := by
  have fits := binade n pos
  rw [rounded, spacing_eq]
  generalize (n / d).log2 - 52 = e at fits ⊢
  obtain ⟨k, place, half⟩ := lastHalf_eq
  rcases Nat.lt_trichotomy e (k + 1) with low | last | high
  · have lower : 2 ^ e ≤ lastHalf := half ▸ Nat.pow_le_pow_right (by decide) (by omega)
    have bounds := below_of_low fits pos lower
    exact ⟨fun _ => bounds.2, fun _ => bounds.1⟩
  · refine below_iff_of_last fits pos ?_
    rw [last, half, Nat.pow_succ, Nat.mul_comm]
  · have upper : 2 ^ 2 * lastHalf ≤ 2 ^ e := by
      rw [half, ← Nat.pow_add]
      exact Nat.pow_le_pow_right (by decide) (by omega)
    have bounds := beyond_of_high fits pos (by omega) upper
    exact ⟨fun below => absurd bounds.1 (Nat.not_le_of_lt below),
      fun below => absurd bounds.2 (Nat.not_le_of_lt below)⟩

/-- **Overflow.** A quotient is rounded to a finite number exactly below the half-way point,
from which on the nearest neighbour is `2 ^ 1024`, whose last bit is even. -/
theorem isFinite_ofRatio_iff (negative : Bool) (n : Nat) (pos : 0 < d) :
    (ofRatio negative n d).isFinite = true ↔ n < overflow * d := by
  rw [isFinite_ofRatio, representable_rounded_iff n pos, rounded_lt_iff n pos]

/-! ## Whole numbers -/

/-- What is not below one unit is not rounded to zero. -/
theorem rounded_pos (pos : 0 < d) (some : d ≤ n) : 0 < rounded n d := by
  have fits := binade n pos
  rw [rounded]
  refine Nat.mul_pos ?_ (spacing_pos _)
  rw [spacing_eq]
  by_cases last : (n / d).log2 - 52 = 0
  · have quotient : 0 < n / d := Nat.div_pos some pos
    rw [last, Nat.pow_zero, Nat.mul_one]
    rcases divHalfEven_cases n d with ⟨down, -⟩ | ⟨up, -⟩ <;> omega
  · exact Nat.lt_of_lt_of_le (by decide) (fits.le_rounded pos last)

/-- The exponent of the number one as a variable, so that nothing evaluates the power. -/
theorem one_eq : ∃ k, k = 1074 ∧ one = 2 ^ k := ⟨1074, rfl, by decide +kernel⟩

theorem log2_mul_two_pow (some : n ≠ 0) (k : Nat) : (n * 2 ^ k).log2 = n.log2 + k := by
  have product : n * 2 ^ k ≠ 0 := Nat.mul_ne_zero some (Nat.two_pow_pos k).ne'
  rw [Nat.log2_eq_iff product, Nat.pow_add, Nat.add_right_comm, Nat.pow_add]
  exact ⟨Nat.mul_le_mul_right _ (Nat.log2_self_le some),
    Nat.mul_lt_mul_of_pos_right Nat.lt_log2_self (Nat.two_pow_pos k)⟩

/-- The least whole number beyond the format. -/
def beyond : Nat := Nat.pow 2 1024

theorem range_eq_beyond : Nat.pow 2 2098 = beyond * one := by decide +kernel

/-- The whole numbers of the format: below `2 ^ 1024`, and with no bit set behind the 53 leading
ones. -/
theorem representable_whole_iff (n : Nat) :
    Representable (n * one) ↔ n < beyond ∧ 2 ^ (n.log2 - 52) ∣ n := by
  rw [Representable, range_eq_beyond, Nat.mul_lt_mul_right one_pos, spacing_eq,
    ← Nat.dvd_iff_mod_eq_zero]
  obtain ⟨k, places, unit⟩ := one_eq
  rw [unit]
  refine and_congr_right fun _ => ?_
  by_cases zero : n = 0
  · rw [zero, Nat.zero_mul]
  rw [log2_mul_two_pow zero]
  by_cases long : 52 ≤ n.log2
  · rw [Nat.sub_add_comm long, Nat.pow_add]
    exact Nat.mul_dvd_mul_iff_right (Nat.two_pow_pos k)
  · have short : n.log2 - 52 = 0 := by omega
    rw [short]
    refine iff_of_true ?_ (Nat.one_dvd n)
    exact Nat.dvd_trans (Nat.pow_dvd_pow 2 (by omega)) (Nat.dvd_mul_left _ _)

/-- Up to `2 ^ 53` every whole number is in the format. -/
theorem representable_of_le (small : n ≤ 2 ^ 53) : Representable (n * one) := by
  obtain ⟨k, -, unit⟩ := one_eq
  have small' : n < beyond := Nat.lt_of_le_of_lt small (by decide +kernel)
  have below : n * one < Nat.pow 2 2098 := by
    rw [range_eq_beyond]
    exact Nat.mul_lt_mul_of_pos_right small' one_pos
  rw [unit] at below ⊢
  exact representable_mul small below

theorem ofNat_of_representable (held : Representable (n * one)) :
    ofNat negative n = .finite negative (n * one) held := by
  have same := ofRatio_units negative held Nat.one_pos
  rwa [Nat.mul_one] at same

/-- A whole number is held exactly if it is in the format, and only then. -/
theorem whole?_ofNat_iff :
    (ofNat negative n).whole? = some (negative, n) ↔ Representable (n * one) := by
  constructor
  · intro whole
    rw [ofNat, ofRatio_eq] at whole
    split at whole
    · rename_i held
      rw [whole?] at whole
      split at whole
      · rename_i multiple
        have quotient : rounded (n * one) 1 / one = n := (Prod.mk.inj (Option.some.inj whole)).2
        rwa [← quotient, Nat.div_mul_cancel (Nat.dvd_of_mod_eq_zero multiple)]
      · cases whole
    · cases whole
  · intro held
    rw [ofNat_of_representable held, whole?, Nat.mul_mod_left, if_pos rfl,
      Nat.mul_div_cancel n one_pos]

/-- A number that is whole is the nearest one to its whole number. -/
theorem eq_ofNat_of_whole? {x : Binary64} (whole : x.whole? = some (negative, n)) :
    x = ofNat negative n := by
  cases x with
  | nan => cases whole
  | infinite sign => cases whole
  | finite sign u held =>
      rw [whole?] at whole
      split at whole
      · rename_i multiple
        cases whole
        have product : u / one * one = u := Nat.div_mul_cancel (Nat.dvd_of_mod_eq_zero multiple)
        rw [ofNat_of_representable (product.symm ▸ held)]
        simp only [product]
      · cases whole

/-- What is not below a power of two is not rounded below it, from `2 ^ 53` on, where the last
place is a unit or more. -/
theorem two_pow_le_rounded {k : Nat} (wide : 53 ≤ k) (above : 2 ^ k ≤ n) :
    2 ^ k ≤ rounded n 1 := by
  have some : n ≠ 0 := by
    have power := Nat.two_pow_pos k
    omega
  have bits : k ≤ n.log2 := (Nat.le_log2 some).2 above
  have inner : n.log2 - 52 ≠ 0 := by omega
  have fits := binade n Nat.one_pos
  rw [rounded, spacing_eq]
  rw [Nat.div_one] at fits ⊢
  calc 2 ^ k ≤ 2 ^ (52 + (n.log2 - 52)) := Nat.pow_le_pow_right (by decide) (by omega)
    _ = 2 ^ 52 * 2 ^ (n.log2 - 52) := Nat.pow_add 2 52 _
    _ ≤ divHalfEven n (1 * 2 ^ (n.log2 - 52)) * 2 ^ (n.log2 - 52) :=
        Nat.mul_le_mul_right _ (fits.le_rounded Nat.one_pos inner)

/-- **No whole number from `2 ^ 53` on is rounded to one below it.** -/
theorem le_of_whole?_ofNat {sign : Bool} {m : Nat}
    (whole : (ofNat negative n).whole? = some (sign, m)) (large : 2 ^ 53 ≤ n) : 2 ^ 53 ≤ m := by
  rw [ofNat, ofRatio_eq] at whole
  split at whole
  · rw [whole?] at whole
    split at whole
    · cases whole
      rw [Nat.le_div_iff_mul_le one_pos]
      obtain ⟨k, places, unit⟩ := one_eq
      rw [unit, ← Nat.pow_add]
      refine two_pow_le_rounded (by omega) ?_
      rw [Nat.pow_add]
      exact Nat.mul_le_mul_right _ large
    · cases whole
  · cases whole

theorem isFinite_ofNat_iff : (ofNat negative n).isFinite = true ↔ n < limit := by
  rw [ofNat, isFinite_ofRatio_iff _ _ Nat.one_pos, Nat.mul_one, overflow,
    Nat.mul_lt_mul_right one_pos]

/-- A whole number above zero is above zero, unless it is beyond the format. -/
theorem isPositive_ofNat_iff (some : 0 < n) :
    (ofNat false n).isPositive = true ↔ n < limit := by
  have finite : (ofNat false n).isFinite = true ↔ n < limit := isFinite_ofNat_iff
  rw [← finite, ofNat, ofRatio_eq]
  split
  · have above : 0 < rounded (n * one) 1 := rounded_pos Nat.one_pos (Nat.mul_pos some one_pos)
    exact iff_of_true (decide_eq_true above) rfl
  · exact iff_of_false Bool.false_ne_true Bool.false_ne_true

end Binary64

end ManualTraffic
