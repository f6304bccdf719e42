/-
# ManualTraffic.Proofs.Binary64.ReadBack -- the text of a number reads back

Rounding sees a quotient only as a ratio (`Binary64.ofRatio_eq_of_cross`), so the number that a
decimal is nearest to does not change when zeros move from its coefficient into its exponent
(`Decimal.toBinary64_shift`).  That is all that the layout of a number does to its decimal:
wherever the point is placed, and with whatever exponent, what is read of the text is a decimal
nearest to the same number (`Json.reads_layout`).  The shortest decimal was taken because it reads
back (`Decimal.toBinary64_shortest`), and so the text of a finite number reads back to it, zero
without its sign (`Json.value_chars`).
-/
import ManualTraffic.Json.Reader
import ManualTraffic.Proofs.Binary64.Rounding
import Mathlib.Data.List.Basic
import Mathlib.Data.List.TakeWhile

namespace ManualTraffic

set_option autoImplicit false

/-! ## Equal ratios -/

namespace Binary64

variable {n d m n' d' : Nat} {negative : Bool}

theorem divHalfEven_mul_right (n d : Nat) (some : 0 < m) :
    divHalfEven (n * m) (d * m) = divHalfEven n d := by
  have less (a b : Nat) : a * m < b * m ↔ a < b := Nat.mul_lt_mul_right some
  unfold divHalfEven
  rw [Nat.mul_div_mul_right n d some, Nat.mul_mod_mul_right, ← Nat.mul_assoc]
  simp only [less]

theorem ofRatio_mul_right (negative : Bool) (n d : Nat) (some : 0 < m) :
    ofRatio negative (n * m) (d * m) = ofRatio negative n d := by
  have same : rounded (n * m) (d * m) = rounded n d := by
    rw [rounded, Nat.mul_div_mul_right n d some, Nat.mul_right_comm, divHalfEven_mul_right _ _ some,
      rounded]
  simp only [ofRatio_eq, same]

/-- Rounding sees a quotient only as a ratio. -/
theorem ofRatio_eq_of_cross (negative : Bool) (pos : 0 < d) (pos' : 0 < d')
    (cross : n * d' = n' * d) : ofRatio negative n d = ofRatio negative n' d' := by
  calc ofRatio negative n d = ofRatio negative (n * d') (d * d') :=
        (ofRatio_mul_right negative n d pos').symm
    _ = ofRatio negative (n' * d) (d' * d) := by rw [cross, Nat.mul_comm d d']
    _ = ofRatio negative n' d' := ofRatio_mul_right negative n' d' pos

end Binary64

/-! ## Zeros at the end -/

namespace Decimal

open Binary64 (Representable one)

variable {negative : Bool} {c k u : Nat} {held : Representable u}

theorem toDigits_mul_pow (some : c ≠ 0) (k : Nat) :
    Nat.toDigits 10 (c * 10 ^ k) = Nat.toDigits 10 c ++ List.replicate k '0' := by
  induction k with
  | zero => rw [Nat.pow_zero, Nat.mul_one, List.replicate_zero, List.append_nil]
  | succ k ih =>
      have above : 0 < c * 10 ^ k :=
        Nat.mul_pos (Nat.pos_of_ne_zero some) (Nat.pow_pos (by decide))
      have longer := Nat.toDigits_append_toDigits (by decide) above (d := 0) (by decide : 0 < 10)
      have shifted : c * 10 ^ (k + 1) = 10 * (c * 10 ^ k) + 0 := by
        rw [Nat.pow_succ, ← Nat.mul_assoc, Nat.mul_comm, Nat.add_zero]
      rw [shifted, ← longer, ih, List.append_assoc, Nat.toDigits_zero, List.replicate_succ']

/-- Zeros move from a coefficient into the exponent, and the decimal stays nearest to the same
number. -/
theorem toBinary64_shift (some : c ≠ 0) (negative : Bool) (k : Nat) (e : Int) :
    (⟨negative, c * 10 ^ k, e⟩ : Decimal).toBinary64 =
      (⟨negative, c, e + k⟩ : Decimal).toBinary64 := by
  have ten (j : Nat) : 0 < Nat.pow 10 j := Nat.pow_pos (by decide)
  have some' : c * 10 ^ k ≠ 0 := Nat.mul_ne_zero some (ten k).ne'
  have top : (⟨negative, c * 10 ^ k, e⟩ : Decimal).top = (⟨negative, c, e + k⟩ : Decimal).top := by
    simp only [Decimal.top, toDigits_mul_pow some, List.length_append, List.length_replicate]
    omega
  -- both powers of ten that the exponents stand for, over one denominator
  have powers : 10 ^ k * 10 ^ e.toNat * 10 ^ (-(e + k)).toNat =
      10 ^ (e + k).toNat * 10 ^ (-e).toNat := by
    rw [← Nat.pow_add, ← Nat.pow_add, ← Nat.pow_add]
    congr 1
    omega
  have cross : c * 10 ^ k * Nat.pow 10 e.toNat * one * Nat.pow 10 (-(e + k)).toNat =
      c * Nat.pow 10 (e + k).toNat * one * Nat.pow 10 (-e).toNat := by
    calc c * 10 ^ k * 10 ^ e.toNat * one * 10 ^ (-(e + k)).toNat
        = c * one * (10 ^ k * 10 ^ e.toNat * 10 ^ (-(e + k)).toNat) := by ring
      _ = c * one * (10 ^ (e + k).toNat * 10 ^ (-e).toNat) := by rw [powers]
      _ = c * 10 ^ (e + k).toNat * one * 10 ^ (-e).toNat := by ring
  have same := Binary64.ofRatio_eq_of_cross negative (ten (-e).toNat) (ten (-(e + k)).toNat) cross
  simp only [toBinary64, top, some, some', same]

/-! ## The shortest decimal -/

/-- One unit is `five` in the last of so many decimals, and no number of the format has its
leading digit beyond the places in which powers of ten are computed. -/
structure Unit (five places : Nat) : Prop where
  units : five * one = 10 ^ places
  least : 10 ^ (places - 331) ≤ five
  most : Nat.pow 2 2098 * five ≤ 10 ^ (places + 310)

theorem unit : Unit (Nat.pow 5 1074) 1074 where
  units := by decide +kernel
  least := by decide +kernel
  most := by decide +kernel

/-- A number of units is the decimal that writes all of them. -/
theorem toBinary64_of_unit {five places : Nat} (unit : Unit five places) (held : Representable u)
    (some : u ≠ 0) (negative : Bool) :
    (⟨negative, u * five, -places⟩ : Decimal).toBinary64 = .finite negative u held := by
  have above : 0 < five := Nat.lt_of_lt_of_le (Nat.pow_pos (by decide)) unit.least
  have long : places - 331 < (Nat.toDigits 10 (u * five)).length := by
    by_cases any : 0 < places - 331
    · rw [← Nat.not_le, Nat.length_toDigits_le_iff (by decide) any, Nat.not_lt]
      exact unit.least.trans (Nat.le_mul_of_pos_left _ (Nat.pos_of_ne_zero some))
    · rw [Nat.eq_zero_of_not_pos any]
      exact Nat.length_toDigits_pos
  have short : (Nat.toDigits 10 (u * five)).length ≤ places + 310 := by
    rw [Nat.length_toDigits_le_iff (by decide) (by omega)]
    exact (Nat.mul_lt_mul_of_pos_right held.1 above).trans_le unit.most
  have numerator : u * five * Nat.pow 10 (-places : Int).toNat * one = u * 10 ^ places := by
    rw [Int.toNat_neg_natCast, Nat.pow_eq, Nat.pow_zero, Nat.mul_one, Nat.mul_assoc, unit.units]
  have denominator : Nat.pow 10 (-(-places : Int)).toNat = 10 ^ places := by
    rw [neg_neg, Int.toNat_natCast, Nat.pow_eq]
  rw [toBinary64, if_neg, if_neg]
  · show Binary64.ofRatio negative (u * five * Nat.pow 10 (-places : Int).toNat * one)
      (Nat.pow 10 (-(-places : Int)).toNat) = _
    rw [numerator, denominator]
    exact Binary64.ofRatio_units negative held (Nat.pow_pos (by decide))
  · simp only [top]
    omega
  · simp only [top, Nat.mul_ne_zero some above.ne', false_or]
    omega

/-- The exact decimal of a number reads back. -/
theorem toBinary64_ofUnits (held : Representable u) (some : u ≠ 0) (negative : Bool) :
    (ofUnits negative u).toBinary64 = .finite negative u held :=
  toBinary64_of_unit unit held some negative

theorem coefficient_ne_zero {d : Decimal} (number : d.toBinary64 = .finite negative u held)
    (some : u ≠ 0) : d.coefficient ≠ 0 := by
  intro none
  rw [toBinary64, if_pos (.inl none),
    Binary64.ofNat_of_representable (Binary64.representable_of_le (Nat.zero_le _))] at number
  injection number with sign units
  rw [Nat.zero_mul] at units
  exact some units.symm

theorem negative_ofUnits (negative : Bool) (u : Nat) : (ofUnits negative u).negative = negative := by
  rw [ofUnits]

/-- The shortest decimal of a number reads back. -/
theorem toBinary64_shortest (held : Representable u) (some : u ≠ 0) (negative : Bool) :
    (shortest (.finite negative u held) negative u).negative = negative ∧
      (shortest (.finite negative u held) negative u).toBinary64 = .finite negative u held := by
  generalize number : Binary64.finite negative u held = x
  unfold shortest
  cases hit : (List.range 17).findSome? fun (k : Nat) =>
      onGrid? x negative u (topOfUnits u - (k + 1)) with
  | none =>
      rw [Option.getD_none]
      exact ⟨negative_ofUnits negative u, (toBinary64_ofUnits held some negative).trans number⟩
  | some d =>
      obtain ⟨k, -, found⟩ := List.exists_of_findSome?_eq_some hit
      have back : decide (d.toBinary64 = x) = true :=
        List.find?_some (p := fun d : Decimal => decide (d.toBinary64 = x)) found
      obtain ⟨c, -, rfl⟩ := List.mem_map.1 (List.mem_of_find?_eq_some found)
      rw [Option.getD_some]
      exact ⟨rfl, of_decide_eq_true back⟩

end Decimal

/-! ## Numerals -/

namespace Numeral

open Binary64 (place stripZeros)

variable {ds whole rest : List Char} {fraction : Option (List Char)} {power : Option Int} {n : Nat}

/-- A text that cannot be read as more of a numeral before it. -/
def Ends (rest : List Char) : Prop :=
  ∀ c ∈ rest.head?, c.isDigit = false ∧ c ≠ '.' ∧ c ≠ 'e' ∧ c ≠ 'E'

/-- The text of a numeral, where an exponent is written with its sign. -/
def written (whole : List Char) (fraction : Option (List Char)) (power : Option Int) :
    List Char :=
  whole ++ (fraction.elim [] ('.' :: ·) ++ power.elim [] Binary64.power)

theorem digits_append (all : ∀ c ∈ ds, c.isDigit = true)
    (stops : ∀ c ∈ rest.head?, c.isDigit = false) : digits (ds ++ rest) = (ds, rest) := by
  have behind : rest.takeWhile Char.isDigit = [] ∧ rest.dropWhile Char.isDigit = rest := by
    cases rest with
    | nil => exact ⟨rfl, rfl⟩
    | cons c rest => simp [stops c rfl]
  rw [digits, List.takeWhile_append_of_pos all, List.dropWhile_append_of_pos all, behind.1,
    behind.2, List.append_nil]

theorem isDigit_toDigits (n : Nat) : ∀ c ∈ Nat.toDigits 10 n, c.isDigit = true := fun _ =>
  Nat.isDigit_of_mem_toDigits (by decide) (by decide)

theorem scanPower_append (negative : Bool) (n : Nat) (ends : Ends rest) :
    scanPower negative (Nat.toDigits 10 n ++ rest) =
      some (if negative then -(n : Int) else n, rest) := by
  rw [scanPower, digits_append (isDigit_toDigits n) fun c first => (ends c first).1]
  cases list : Nat.toDigits 10 n with
  | nil => exact absurd list Nat.toDigits_ne_nil
  | cons d ds =>
      have number : Nat.ofDigitChars 10 (d :: ds) 0 = n := list ▸ Nat.ofDigitChars_ten_toDigits
      dsimp only
      rw [number]

theorem scanExponent_written (power : Option Int) (ends : Ends rest) :
    scanExponent (power.elim [] Binary64.power ++ rest) = some (power.getD 0, rest) := by
  cases power with
  | none =>
      cases rest with
      | nil => rfl
      | cons c rest =>
          obtain ⟨-, -, small, capital⟩ := ends c rfl
          simp [scanExponent, small, capital]
  | some e =>
      by_cases below : e < 0
      · have number : -(e.natAbs : Int) = e := by omega
        have read := scanPower_append true e.natAbs ends
        rw [if_pos rfl, number] at read
        simpa [Binary64.power, below, scanExponent] using read
      · have number : (e.natAbs : Int) = e := by omega
        have read := scanPower_append false e.natAbs ends
        rw [if_neg Bool.false_ne_true, number] at read
        simpa [Binary64.power, below, scanExponent] using read

theorem scanFraction_written (fractions : ∀ c ∈ fraction.getD [], c.isDigit = true)
    (stops : ∀ c ∈ rest.head?, c.isDigit = false ∧ c ≠ '.') :
    scanFraction (fraction.elim [] ('.' :: ·) ++ rest) = (fraction, rest) := by
  cases fraction with
  | none =>
      rw [Option.elim_none, List.nil_append]
      unfold scanFraction
      split
      · exact absurd rfl (stops '.' rfl).2
      · rfl
  | some ds =>
      have all : ∀ c ∈ ds, c.isDigit = true := fractions
      rw [Option.elim_some, List.cons_append, scanFraction,
        digits_append all fun c first => (stops c first).1]

/-- A numeral is read to its end. -/
theorem scan_written (wholes : ∀ c ∈ whole, c.isDigit = true)
    (fractions : ∀ c ∈ fraction.getD [], c.isDigit = true) (power : Option Int)
    (ends : Ends rest) :
    scan (written whole fraction power ++ rest) = some (⟨whole, fraction, power.getD 0⟩, rest) := by
  generalize later : power.elim [] Binary64.power ++ rest = text
  have exponent : scanExponent text = some (power.getD 0, rest) :=
    later ▸ scanExponent_written power ends
  have stops : ∀ c ∈ text.head?, c.isDigit = false ∧ c ≠ '.' := by
    subst later
    cases power with
    | none => exact fun c first => ⟨(ends c first).1, (ends c first).2.1⟩
    | some e =>
        intro c first
        obtain rfl : 'e' = c := Option.some.inj first
        decide
  have stops' : ∀ c ∈ (fraction.elim [] ('.' :: ·) ++ text).head?, c.isDigit = false := by
    cases fraction with
    | none => exact fun c first => (stops c first).1
    | some ds =>
        intro c first
        obtain rfl : '.' = c := Option.some.inj first
        decide
  simp only [written, List.append_assoc, later, scan, digits_append wholes stops',
    scanFraction_written fractions stops, exponent, Option.map_some]

/-! ## Digits -/

/-- The whole number that digits write. -/
abbrev natural (ds : List Char) : Nat := Nat.ofDigitChars 10 ds 0

theorem head?_toDigits (positive : n ≠ 0) : (Nat.toDigits 10 n).head? ≠ some '0' := by
  induction n using Nat.strongRecOn with
  | ind n ih =>
      rw [Nat.toDigits_eq_if (by decide)]
      split
      · rename_i small
        have digit : ∀ d < 10, d ≠ 0 → [Nat.digitChar d].head? ≠ some '0' := by decide
        exact digit n small positive
      · have fewer : n / 10 < n := by omega
        rw [List.head?_append_of_ne_nil _ Nat.toDigits_ne_nil]
        exact ih (n / 10) fewer (by omega)

/-- Digits are those that remain without the zeros at their end, and these zeros. -/
theorem exists_zeros (ds : List Char) : ∃ k, ds = stripZeros ds ++ List.replicate k '0' := by
  have zeros : ds.reverse.takeWhile (· == '0') =
      List.replicate (ds.reverse.takeWhile (· == '0')).length '0' :=
    List.eq_replicate_of_mem fun c inside => by
      simpa using List.mem_takeWhile_imp inside
  refine ⟨(ds.reverse.takeWhile (· == '0')).length, ?_⟩
  rw [← List.reverse_replicate, ← zeros, stripZeros, ← List.reverse_append,
    List.takeWhile_append_dropWhile, List.reverse_reverse]

theorem natural_append_zeros (ds : List Char) (k : Nat) :
    natural (ds ++ List.replicate k '0') = natural ds * 10 ^ k := by
  rw [natural, Nat.ofDigitChars_append, Nat.ofDigitChars_replicate_zero, Nat.mul_comm]

theorem natural_zeros_append (k : Nat) (ds : List Char) :
    natural (List.replicate k '0' ++ ds) = natural ds := by
  rw [natural, Nat.ofDigitChars_append, Nat.ofDigitChars_replicate_zero, Nat.mul_zero]

end Numeral

/-! ## Layouts -/

namespace Json

open Binary64 (place stripZeros power layout)
open Numeral (Ends natural written)

variable {ds whole rest text : List Char} {fraction : Option (List Char)} {d d' : Decimal}

theorem isWholePart_of_head? (there : ds ≠ []) (first : ds.head? ≠ some '0') :
    isWholePart ds = true := by
  unfold isWholePart
  split
  · exact absurd rfl there
  · rfl
  · exact absurd rfl first
  · rfl

/-- A text is read as the number nearest to a decimal, whatever stands behind it that is no more
of a numeral. -/
def Reads (text : List Char) (d : Decimal) : Prop :=
  ∀ rest, Ends rest → magnitude d.negative (text ++ rest) = some (d.toBinary64, rest)

theorem Reads.of_eq (reads : Reads text d) (sign : d.negative = d'.negative)
    (same : d.toBinary64 = d'.toBinary64) : Reads text d' := by
  intro rest ends
  rw [← sign, ← same]
  exact reads rest ends

/-- A numeral is read that has digits on both sides of its point, and no zero in front of
others. -/
theorem reads_written {whole : List Char} (negative : Bool) (fraction : Option (List Char))
    (power : Option Int) (wholes : ∀ c ∈ whole, c.isDigit = true)
    (proper : isWholePart whole = true) (fractions : ∀ c ∈ fraction.getD [], c.isDigit = true)
    (fractional : fraction ≠ some []) :
    Reads (written whole fraction power)
      ((⟨whole, fraction, power.getD 0⟩ : Numeral).toDecimal negative) := by
  intro rest ends
  have accepted : (isWholePart whole && fraction != some []) = true := by
    rw [proper, Bool.true_and, bne_iff_ne]
    exact fractional
  have sign : ((⟨whole, fraction, power.getD 0⟩ : Numeral).toDecimal negative).negative =
      negative := rfl
  simp only [sign, magnitude, Numeral.scan_written wholes fractions power ends, accepted, if_true]

theorem isDigit_zeros (k : Nat) : ∀ c ∈ List.replicate k '0', c.isDigit = true := by
  intro c inside
  rw [List.eq_of_mem_replicate inside]
  rfl

/-- Digits of a number above zero, without a zero in front. -/
structure Significant (ds : List Char) : Prop where
  digits : ∀ c ∈ ds, c.isDigit = true
  positive : natural ds ≠ 0
  first : ds.head? ≠ some '0'

namespace Significant

variable (significant : Significant ds) (negative : Bool)

include significant

theorem ne_nil : ds ≠ [] := by
  rintro rfl
  exact significant.positive rfl

theorem isWholePart_append (more : List Char) : isWholePart (ds ++ more) = true := by
  refine isWholePart_of_head? (List.append_ne_nil_of_left_ne_nil significant.ne_nil _) ?_
  rw [List.head?_append_of_ne_nil _ significant.ne_nil]
  exact significant.first

/-- Digits with zeros behind them. -/
theorem reads_whole (k : Nat) :
    Reads (ds ++ List.replicate k '0') ⟨negative, natural ds, k⟩ := by
  have reads := reads_written negative none none
    (List.forall_mem_append.2 ⟨significant.digits, isDigit_zeros k⟩)
    (significant.isWholePart_append _) (List.forall_mem_nil _) (by simp)
  have text : written (ds ++ List.replicate k '0') none none = ds ++ List.replicate k '0' := by
    simp [written]
  have number : (⟨ds ++ List.replicate k '0', none, 0⟩ : Numeral).toDecimal negative =
      ⟨negative, natural ds * 10 ^ k, 0⟩ := by
    simp [Numeral.toDecimal, Numeral.allDigits, ← Numeral.natural_append_zeros]
  rw [text] at reads
  refine reads.of_eq rfl ?_
  rw [Option.getD_none, number, Decimal.toBinary64_shift significant.positive, Int.zero_add]

/-- Digits with a point between them. -/
theorem reads_point {k : Nat} (before : 0 < k) (behind : k < ds.length) :
    Reads (ds.take k ++ '.' :: ds.drop k) ⟨negative, natural ds, k - ds.length⟩ := by
  have proper : isWholePart (ds.take k) = true := by
    refine isWholePart_of_head? ?_ ?_
    · rw [ne_eq, List.take_eq_nil_iff]
      simp [significant.ne_nil, before.ne']
    · rw [List.head?_take, if_neg before.ne']
      exact significant.first
  have fractional : some (ds.drop k) ≠ some [] := by
    rw [ne_eq, Option.some_inj, List.drop_eq_nil_iff]
    omega
  have reads := reads_written negative (some (ds.drop k)) none
    (fun c inside => significant.digits c (List.mem_of_mem_take inside)) proper
    (fun c inside => significant.digits c (List.mem_of_mem_drop inside)) fractional
  have text : written (ds.take k) (some (ds.drop k)) none = ds.take k ++ '.' :: ds.drop k := by
    simp [written]
  have number : (⟨ds.take k, some (ds.drop k), 0⟩ : Numeral).toDecimal negative =
      ⟨negative, natural ds, k - ds.length⟩ := by
    simp [Numeral.toDecimal, Numeral.allDigits, natural]
    omega
  rw [text] at reads
  exact reads.of_eq rfl (congrArg Decimal.toBinary64 number)

/-- Digits behind a point and zeros. -/
theorem reads_below (k : Nat) :
    Reads ('0' :: '.' :: (List.replicate k '0' ++ ds))
      ⟨negative, natural ds, -(k + ds.length)⟩ := by
  have fractional : some (List.replicate k '0' ++ ds) ≠ some [] := by
    rw [ne_eq, Option.some_inj, List.append_eq_nil_iff]
    exact fun none => significant.ne_nil none.2
  have reads := reads_written negative (some (List.replicate k '0' ++ ds)) none (isDigit_zeros 1)
    rfl (List.forall_mem_append.2 ⟨isDigit_zeros k, significant.digits⟩) fractional
  have text : written (List.replicate 1 '0') (some (List.replicate k '0' ++ ds)) none =
      '0' :: '.' :: (List.replicate k '0' ++ ds) := by
    simp [written]
  have digits : natural ('0' :: (List.replicate k '0' ++ ds)) = natural ds :=
    Numeral.natural_zeros_append (k + 1) ds
  have number :
      (⟨List.replicate 1 '0', some (List.replicate k '0' ++ ds), 0⟩ : Numeral).toDecimal negative =
        ⟨negative, natural ds, -(k + ds.length)⟩ := by
    simp [Numeral.toDecimal, Numeral.allDigits, ← digits, natural]
  rw [text] at reads
  exact reads.of_eq rfl (congrArg Decimal.toBinary64 number)

/-- One digit before the point, perhaps others behind it, and an exponent. -/
theorem reads_power {c : Char} {more : List Char} (list : ds = c :: more) (e : Int) :
    Reads (written [c] (if more = [] then none else some more) (some e))
      ⟨negative, natural ds, e - more.length⟩ := by
  subst list
  obtain ⟨digit, digits⟩ := List.forall_mem_cons.1 significant.digits
  have proper : isWholePart [c] = true :=
    isWholePart_of_head? (List.cons_ne_nil c []) significant.first
  have wholes : ∀ d ∈ [c], d.isDigit = true := List.forall_mem_singleton.2 digit
  by_cases alone : more = []
  · subst alone
    have reads := reads_written negative none (some e) wholes proper (List.forall_mem_nil _)
      (by simp)
    rw [if_pos rfl]
    exact reads.of_eq rfl rfl
  · have reads := reads_written negative (some more) (some e) wholes proper digits (by simp [alone])
    rw [if_neg alone]
    exact reads.of_eq rfl rfl

/-- **Wherever the point is placed, the same number is written.** -/
theorem reads_place (point : Int) :
    Reads (place ds point) ⟨negative, natural ds, point - ds.length⟩ := by
  unfold place
  split
  · rename_i inside
    split
    · -- all digits stand before the point
      rename_i none
      have short : ds.length ≤ point.toNat := List.drop_eq_nil_iff.1 none
      have places : ((point.toNat - ds.length : Nat) : Int) = point - ds.length := by omega
      rw [List.take_of_length_le short, ← places]
      exact significant.reads_whole negative _
    · rename_i behind some
      have long : point.toNat < ds.length := by
        rw [← Nat.not_le, ← List.drop_eq_nil_iff]
        exact some
      have places : ((point.toNat : Nat) : Int) = point := by omega
      have reads := significant.reads_point negative (k := point.toNat) (by omega) long
      rwa [places] at reads
  · split
    · have places : -(((-point).toNat : Int) + ds.length) = point - ds.length := by omega
      have reads := significant.reads_below negative (-point).toNat
      rwa [places] at reads
    · split
      · rename_i c
        have reads := significant.reads_power negative rfl (point - 1)
        simpa [written] using reads
      · rename_i c more other
        have some : more ≠ [] := fun none => other (by rw [none])
        have places : point - ((more.length : Int) + 1) = point - 1 - more.length := by omega
        have reads := significant.reads_power negative rfl (point - 1)
        simpa [written, some, places] using reads
      · exact absurd rfl significant.ne_nil

end Significant

/-- A decimal is laid out as a text that reads as the number nearest to it. -/
theorem reads_layout (positive : d.coefficient ≠ 0) : Reads (layout d) d := by
  obtain ⟨negative, coefficient, exponent⟩ := d
  obtain ⟨k, list⟩ := Numeral.exists_zeros (Nat.toDigits 10 coefficient)
  have first := Numeral.head?_toDigits positive
  have digits := Numeral.isDigit_toDigits coefficient
  have number : natural (Nat.toDigits 10 coefficient) = coefficient := Nat.ofDigitChars_ten_toDigits
  rw [layout, Decimal.top]
  simp only
  generalize stripZeros (Nat.toDigits 10 coefficient) = ds at list ⊢
  rw [list] at digits first number ⊢
  rw [Numeral.natural_append_zeros] at number
  subst number
  have positive' : natural ds ≠ 0 := (Nat.mul_ne_zero_iff.1 positive).1
  have significant : Significant ds := by
    refine ⟨fun c inside => digits c (List.mem_append_left _ inside), positive', ?_⟩
    rwa [List.head?_append_of_ne_nil] at first
    rintro rfl
    exact positive' rfl
  have places : ((ds ++ List.replicate k '0').length : Int) + exponent - ds.length =
      exponent + k := by
    rw [List.length_append, List.length_replicate]
    omega
  refine (significant.reads_place negative _).of_eq rfl ?_
  rw [places, Decimal.toBinary64_shift positive']

end Json

/-! ## Numbers -/

namespace Binary64

/-- A number, a zero without its sign. -/
def withoutZeroSign (x : Binary64) : Binary64 := if x.isZero then zero else x

variable {x : Binary64}

theorem text_of_isZero (none : x.isZero = true) : x.text = "0" := by
  cases x with
  | nan | infinite => cases none
  | finite negative u held => rw [text, chars, if_pos (of_decide_eq_true none)]

/-- The sign of a zero is not in its text. -/
theorem text_withoutZeroSign (x : Binary64) : x.withoutZeroSign.text = x.text := by
  have plain : zero.isZero = true := by decide +kernel
  rw [withoutZeroSign]
  split
  next none => rw [text_of_isZero none, text_of_isZero plain]
  next => rfl

theorem isFinite_withoutZeroSign (finite : x.isFinite = true) :
    x.withoutZeroSign.isFinite = true := by
  rw [withoutZeroSign]
  split
  next => decide +kernel
  next => exact finite

end Binary64

namespace Json

open Binary64 (Representable one signed withoutZeroSign)
open Numeral (Ends natural written)

variable {x : Binary64} {u n : Nat} {rest text : List Char} {negative : Bool}

/-- A whole number in its digits is read as the nearest number. -/
theorem reads_toDigits (positive : n ≠ 0) (small : n < 2 ^ 53) (negative : Bool) :
    ∃ d, d.negative = negative ∧ Reads (Nat.toDigits 10 n) d ∧
      d.toBinary64 = .ofNat negative n := by
  have number : natural (Nat.toDigits 10 n) = n := Nat.ofDigitChars_ten_toDigits
  have significant : Significant (Nat.toDigits 10 n) :=
    ⟨Numeral.isDigit_toDigits n, number.symm ▸ positive, Numeral.head?_toDigits positive⟩
  have reads := significant.reads_whole negative 0
  rw [List.replicate_zero, List.append_nil, number] at reads
  refine ⟨_, rfl, reads, ?_⟩
  have short : (Nat.toDigits 10 n).length ≤ 16 := by
    rw [Nat.length_toDigits_le_iff (by decide) (by decide)]
    exact small.trans (by decide)
  rw [Decimal.toBinary64, if_neg, if_neg]
  · simp [Binary64.ofNat]
  · simp only [Decimal.top]
    omega
  · simp only [Decimal.top, positive, false_or]
    omega

/-- The text of a number above zero, after its sign, is read as the number. -/
theorem exists_reads (held : Representable u) (some : u ≠ 0) (negative : Bool) :
    ∃ text d, (Binary64.finite negative u held).chars = signed negative text ∧
      d.negative = negative ∧ Reads text d ∧ d.toBinary64 = .finite negative u held := by
  by_cases whole : u % one = 0 ∧ u < Nat.pow 2 53 * one
  · have product : u / one * one = u := Nat.div_mul_cancel (Nat.dvd_of_mod_eq_zero whole.1)
    have some' : u / one ≠ 0 := by
      intro none
      rw [none, Nat.zero_mul] at product
      exact some product.symm
    have small : u / one < 2 ^ 53 := by
      have power : Nat.pow 2 53 = 2 ^ 53 := rfl
      rw [Nat.div_lt_iff_lt_mul Binary64.one_pos, ← power]
      exact whole.2
    obtain ⟨d, sign, reads, number⟩ := reads_toDigits some' small negative
    refine ⟨_, d, ?_, sign, reads, ?_⟩
    · rw [Binary64.chars, if_neg some, if_pos whole]
    · rw [number, Binary64.ofNat_of_representable (product.symm ▸ held)]
      simp only [product]
  · obtain ⟨sign, number⟩ := Decimal.toBinary64_shortest held some negative
    generalize shortest : Decimal.shortest (.finite negative u held) negative u = d at sign number
    refine ⟨Binary64.layout d, d, ?_, sign, ?_, number⟩
    · rw [Binary64.chars, if_neg some, if_neg whole, shortest]
    · exact reads_layout (Decimal.coefficient_ne_zero number some)

/-- Only a text that starts with a digit is read as a magnitude. -/
theorem exists_digit_of_magnitude {read : Binary64 × List Char}
    (done : magnitude negative text = some read) :
    ∃ c more, text = c :: more ∧ c.isDigit = true := by
  cases text with
  | nil => cases done
  | cons c more =>
      refine ⟨c, more, rfl, ?_⟩
      by_contra other
      have empty : (c :: more).takeWhile Char.isDigit = [] := by simp [other]
      rw [magnitude] at done
      split at done
      · rename_i n rest scanned
        have none : n.whole = [] := by
          rw [Numeral.scan] at scanned
          obtain ⟨_, -, same⟩ := Option.map_eq_some_iff.1 scanned
          rw [← (Prod.mk.inj same).1]
          exact empty
        simp [none, isWholePart] at done
      · cases done

/-- A number in a text is a magnitude with its sign. -/
theorem value_signed (fuel : Nat) (done : magnitude negative text = some (x, rest)) :
    value (fuel + 1) (signed negative text) = some (.number x, rest) := by
  cases negative with
  | true => simp [signed, value, done]
  | false =>
      obtain ⟨c, more, rfl, digit⟩ := exists_digit_of_magnitude done
      have same : signed false (c :: more) = c :: more := rfl
      rw [same]
      unfold value
      split
      case h_8 => rw [done, Option.map_some]
      all_goals
        rename_i start
        obtain rfl := (List.cons.inj start).1
        exact absurd digit (by decide)

/-- Zero is a digit. -/
theorem reads_zero : ∃ d : Decimal, d.negative = false ∧ Reads ['0'] d ∧ d.toBinary64 = .zero := by
  have reads : Reads (written ['0'] none none) _ :=
    reads_written false none none (isDigit_zeros 1) rfl (List.forall_mem_nil _) (by simp)
  refine ⟨_, rfl, reads, ?_⟩
  rw [Decimal.toBinary64, if_pos (.inl rfl)]
  rfl

/-- **The text of a finite number reads back to it**, but for the sign of zero, whatever stands
behind it that is no more of a number. -/
theorem value_chars (finite : x.isFinite = true) (ends : Ends rest) (fuel : Nat) :
    value (fuel + 1) (x.chars ++ rest) = some (.number x.withoutZeroSign, rest) := by
  cases x with
  | nan | infinite => cases finite
  | finite negative u held =>
      by_cases none : u = 0
      · obtain ⟨d, sign, reads, number⟩ := reads_zero
        have done := reads rest ends
        rw [sign, number] at done
        rw [Binary64.chars, if_pos none, withoutZeroSign, Binary64.isZero, if_pos (by simp [none])]
        exact value_signed fuel done
      · obtain ⟨text, d, chars, sign, reads, number⟩ := exists_reads held none negative
        have done := reads rest ends
        rw [sign, number] at done
        have outside : (signed negative text) ++ rest = signed negative (text ++ rest) := by
          cases negative <;> rfl
        rw [chars, outside, withoutZeroSign, Binary64.isZero, if_neg (by simp [none])]
        exact value_signed fuel done

end Json

end ManualTraffic
