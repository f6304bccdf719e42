/-
# ManualTraffic.Proofs.Operator.Answer -- which answers are whole numbers

An answer is read as the number nearest to what it writes, and that number is looked at, not the
digits.  Nothing is lost by it: up to `2 ^ 53 - 1` the nearest number is the one that is
written, and from `2 ^ 53` on no rounding leads below it (`isSafe_ofNat_iff`).  So an answer
gives a number exactly if it writes a whole number up to the limit, with any count of digits
and zeros, and the number it gives is that one (`integer?_eq_some_iff`).  A number up to the
limit is written with its own digits, and reads back (`integer?_text`).
-/
import ManualTraffic.Operator.Dialogue
import ManualTraffic.Proofs.Binary64.Rounding
import Mathlib.Data.List.TakeWhile
import Mathlib.Data.List.Basic

namespace ManualTraffic

set_option autoImplicit false

/-! ## Blanks around a text -/

namespace Text

variable {text before core after : List Char} {c : Char}

/-- White space: tabs, the space separators and the byte order mark. -/
def whiteSpace : List Char :=
  ['\t', '\x0b', '\x0c', ' ', '\u00a0', '\u1680', '\u2000', '\u2001', '\u2002', '\u2003', '\u2004',
    '\u2005', '\u2006', '\u2007', '\u2008', '\u2009', '\u200a', '\u202f', '\u205f', '\u3000',
    '\ufeff']

/-- The characters that end a line. -/
def lineTerminators : List Char := ['\n', '\r', '\u2028', '\u2029']

theorem isBlank_iff : isBlank c = true ↔ c ∈ whiteSpace ∨ c ∈ lineTerminators := by
  have place : isBlank c = true ↔
      c.toNat ∈ whiteSpace.map Char.toNat ∨ c.toNat ∈ lineTerminators.map Char.toNat := by
    simp only [isBlank, whiteSpace, lineTerminators, Bool.or_eq_true, Bool.and_eq_true,
      decide_eq_true_eq, beq_iff_eq, List.map_cons, List.map_nil, List.mem_cons, List.not_mem_nil,
      Char.reduceToNat, or_false]
    omega
  have injective : Function.Injective Char.toNat := fun _ _ => Char.toNat_inj.1
  rw [place, List.mem_map_of_injective injective, List.mem_map_of_injective injective]

theorem not_blank_of_digit (digit : c.isDigit = true) : isBlank c = false := by
  have place : 48 ≤ c.toNat ∧ c.toNat ≤ 57 := by
    simpa [Char.isDigit, UInt32.le_iff_toNat_le] using digit
  simp only [isBlank, Bool.or_eq_false_iff, Bool.and_eq_false_imp, decide_eq_true_eq,
    decide_eq_false_iff_not, beq_eq_false_iff_ne]
  omega

theorem dropWhile_of_not_blank (unblank : ∀ c ∈ text, isBlank c = false) :
    text.dropWhile isBlank = text := by
  cases text with
  | nil => rfl
  | cons c rest => simp [unblank c]

theorem trimEnd_append (blank : ∀ c ∈ after, isBlank c = true) :
    trimEnd (text ++ after) = trimEnd text := by
  unfold trimEnd
  rw [List.reverse_append, List.dropWhile_append_of_pos]
  simpa using blank

/-- Blanks on both sides are removed, and nothing else. -/
theorem trim_around (leading : ∀ c ∈ before, isBlank c = true)
    (trailing : ∀ c ∈ after, isBlank c = true) (unblank : ∀ c ∈ core, isBlank c = false)
    (some : core ≠ []) : trim (before ++ core ++ after) = core := by
  have front : (before ++ core ++ after).dropWhile isBlank = core ++ after := by
    rw [List.append_assoc, List.dropWhile_append_of_pos leading]
    cases core with
    | nil => exact absurd rfl some
    | cons c rest => simp [unblank c]
  have last : trimEnd core = core := by
    have reversed : ∀ c ∈ core.reverse, isBlank c = false := by simpa using unblank
    rw [trimEnd, dropWhile_of_not_blank reversed, List.reverse_reverse]
  rw [trim, front, trimEnd_append trailing, last]

theorem exists_around (text : List Char) :
    ∃ before after, (∀ c ∈ before, isBlank c = true) ∧ (∀ c ∈ after, isBlank c = true) ∧
      text = before ++ trim text ++ after := by
  let rest := text.dropWhile isBlank
  refine ⟨text.takeWhile isBlank, (rest.reverse.takeWhile isBlank).reverse,
    fun c => List.mem_takeWhile_imp, ?_, ?_⟩
  · intro c member
    exact List.mem_takeWhile_imp (List.mem_reverse.1 member)
  · have back : trimEnd rest ++ (rest.reverse.takeWhile isBlank).reverse = rest := by
      rw [trimEnd, ← List.reverse_append, List.takeWhile_append_dropWhile, List.reverse_reverse]
    rw [trim, List.append_assoc, back, List.takeWhile_append_dropWhile]

theorem decimal?_eq_some_iff {ds : List Char} {n : Nat} :
    decimal? ds = some n ↔
      ds ≠ [] ∧ (∀ c ∈ ds, c.isDigit = true) ∧ Nat.ofDigitChars 10 ds 0 = n := by
  simp [decimal?, and_assoc]

end Text

/-- A whole number with its sign. -/
def Binary64.ofInt (n : Int) : Binary64 := .ofNat (decide (n < 0)) n.natAbs

namespace Answer

variable {text : List Char} {answer : String} {negative : Bool} {n : Nat} {x : Binary64}

/-! ## What a text writes -/

/-- A text that writes a whole number: an optional sign and one or more digits, with any blanks
on both sides. -/
def Writes (text : List Char) (negative : Bool) (n : Nat) : Prop :=
  ∃ before sign digits after, text = before ++ (sign ++ digits) ++ after ∧
    (∀ c ∈ before, isBlank c = true) ∧ (∀ c ∈ after, isBlank c = true) ∧
    (sign = [] ∨ sign = ['+'] ∨ sign = ['-']) ∧ negative = decide (sign = ['-']) ∧
    digits ≠ [] ∧ (∀ c ∈ digits, c.isDigit = true) ∧ Nat.ofDigitChars 10 digits 0 = n

theorem signed?_of_digits {digits : List Char} (read : Text.decimal? digits = some n) :
    signed? digits = some (false, n) := by
  obtain ⟨-, digital, -⟩ := Text.decimal?_eq_some_iff.1 read
  unfold signed?
  split
  · exact absurd (digital '-' (List.mem_cons_self ..)) (by decide)
  · exact absurd (digital '+' (List.mem_cons_self ..)) (by decide)
  · rw [read]
    rfl

theorem signed?_eq_some_iff :
    signed? text = some (negative, n) ↔
      ∃ sign digits, text = sign ++ digits ∧ (sign = [] ∨ sign = ['+'] ∨ sign = ['-']) ∧
        negative = decide (sign = ['-']) ∧ Text.decimal? digits = some n := by
  constructor
  · intro read
    unfold signed? at read
    split at read
    · next ds =>
        obtain ⟨m, digits, same⟩ := Option.map_eq_some_iff.1 read
        cases same
        exact ⟨['-'], ds, rfl, .inr (.inr rfl), rfl, digits⟩
    · next ds =>
        obtain ⟨m, digits, same⟩ := Option.map_eq_some_iff.1 read
        cases same
        exact ⟨['+'], ds, rfl, .inr (.inl rfl), rfl, digits⟩
    · obtain ⟨m, digits, same⟩ := Option.map_eq_some_iff.1 read
      cases same
      exact ⟨[], _, rfl, .inl rfl, rfl, digits⟩
  · rintro ⟨sign, digits, rfl, rfl | rfl | rfl, rfl, read⟩
    · exact signed?_of_digits read
    · simp [signed?, read]
    · simp [signed?, read]

/-- What a text writes is read off it without its blanks. -/
theorem writes_iff : Writes text negative n ↔ signed? (Text.trim text) = some (negative, n) := by
  rw [signed?_eq_some_iff]
  constructor
  · rintro ⟨before, sign, digits, after, rfl, leading, trailing, signs, rfl, some, digital, rfl⟩
    have unblank : ∀ c ∈ sign ++ digits, isBlank c = false := by
      intro c member
      rcases List.mem_append.1 member with first | digit
      · rcases signs with rfl | rfl | rfl
        · cases first
        · cases List.mem_singleton.1 first
          decide
        · cases List.mem_singleton.1 first
          decide
      · exact Text.not_blank_of_digit (digital c digit)
    refine ⟨sign, digits, Text.trim_around leading trailing unblank ?_, signs, rfl,
      Text.decimal?_eq_some_iff.2 ⟨some, digital, rfl⟩⟩
    simp [some]
  · rintro ⟨sign, digits, same, signs, rfl, read⟩
    obtain ⟨before, after, leading, trailing, around⟩ := Text.exists_around text
    rw [same] at around
    exact ⟨before, sign, digits, after, around, leading, trailing, signs, rfl,
      Text.decimal?_eq_some_iff.1 read⟩

/-- A text writes one number. -/
theorem Writes.unique {sign : Bool} {m : Nat} (writes : Writes text negative n)
    (other : Writes text sign m) : sign = negative ∧ m = n := by
  rw [writes_iff] at writes other
  rw [writes] at other
  cases other
  exact ⟨rfl, rfl⟩

/-! ## Numbers up to the limit -/

theorem limit_eq : limit = 2 ^ 53 - 1 := rfl

theorem representable_of_le_limit (small : n ≤ limit) :
    Binary64.Representable (n * Binary64.one) := by
  rw [limit_eq] at small
  exact Binary64.representable_of_le (by omega)

theorem whole?_ofNat (small : n ≤ limit) :
    (Binary64.ofNat negative n).whole? = some (negative, n) :=
  Binary64.whole?_ofNat_iff.2 (representable_of_le_limit small)

theorem isSafe_iff :
    isSafe x = true ↔ ∃ sign m, x.whole? = some (sign, m) ∧ m ≤ limit := by
  unfold isSafe
  cases x.whole? with
  | none => simp
  | some whole =>
      obtain ⟨sign, m⟩ := whole
      simp

/-- **To look at the rounded number is to look at the digits.** -/
theorem isSafe_ofNat_iff : isSafe (Binary64.ofNat negative n) = true ↔ n ≤ limit := by
  rw [isSafe_iff]
  constructor
  · rintro ⟨sign, m, whole, small⟩
    by_contra large
    rw [limit_eq] at small large
    have above := Binary64.le_of_whole?_ofNat whole (by omega)
    omega
  · intro small
    exact ⟨negative, n, whole?_ofNat small, small⟩

/-- **Which answers give a number, and which.**  An answer gives a number exactly if it writes a
whole number up to the limit, and gives that one, a zero with its sign. -/
theorem integer?_eq_some_iff :
    integer? answer = some x ↔
      ∃ negative n, Writes answer.toList negative n ∧ n ≤ limit ∧
        x.whole? = some (negative, n) := by
  simp only [writes_iff]
  constructor
  · intro given
    unfold integer? at given
    split at given
    · next negative n read =>
        by_cases safe : isSafe (Binary64.ofNat negative n) = true
        · have small := isSafe_ofNat_iff.1 safe
          simp only [if_pos safe, Option.some.injEq] at given
          subst given
          exact ⟨negative, n, read, small, whole?_ofNat small⟩
        · simp only [if_neg safe] at given
          cases given
    · cases given
  · rintro ⟨negative, n, read, small, whole⟩
    have safe : isSafe (Binary64.ofNat negative n) = true := isSafe_ofNat_iff.2 small
    simp only [integer?, read, if_pos safe]
    rw [Binary64.eq_ofNat_of_whole? whole]

theorem exists_integer?_iff :
    (∃ x, integer? answer = some x) ↔
      ∃ negative n, Writes answer.toList negative n ∧ n ≤ limit := by
  constructor
  · rintro ⟨x, given⟩
    obtain ⟨negative, n, writes, small, -⟩ := integer?_eq_some_iff.1 given
    exact ⟨negative, n, writes, small⟩
  · rintro ⟨negative, n, writes, small⟩
    exact ⟨_, integer?_eq_some_iff.2 ⟨negative, n, writes, small, whole?_ofNat small⟩⟩

/-! ## Reading back -/

theorem text_ofNat (small : n ≤ limit) :
    (Binary64.ofNat negative n).text =
      String.ofList (Binary64.signed (negative && n != 0) (Nat.toDigits 10 n)) := by
  have held := representable_of_le_limit small
  rw [Binary64.ofNat_of_representable held, Binary64.text, Binary64.chars]
  by_cases zero : n = 0
  · subst zero
    simp [Binary64.signed]
  · have some : n * Binary64.one ≠ 0 := Nat.mul_ne_zero zero Binary64.one_pos.ne'
    have below : n * Binary64.one < Nat.pow 2 53 * Binary64.one := by
      refine Nat.mul_lt_mul_of_pos_right ?_ Binary64.one_pos
      rw [limit_eq] at small
      show n < 2 ^ 53
      omega
    rw [if_neg some, if_pos ⟨Nat.mul_mod_left _ _, below⟩,
      Nat.mul_div_cancel n Binary64.one_pos, bne_iff_ne.2 zero, Bool.and_true]

/-- A number up to the limit is read back from its text, a zero without a sign. -/
theorem integer?_text (small : n ≤ limit) :
    integer? (Binary64.ofNat negative n).text = some (.ofNat (negative && n != 0) n) := by
  rw [text_ofNat small, integer?_eq_some_iff]
  generalize (negative && n != 0) = sign
  refine ⟨sign, n, ?_, small, whole?_ofNat small⟩
  refine ⟨[], if sign then ['-'] else [], Nat.toDigits 10 n, [], ?_, by simp, by simp, ?_, ?_,
    Nat.toDigits_ne_nil, fun c => Nat.isDigit_of_mem_toDigits (by decide) (by decide),
    Nat.ofDigitChars_ten_toDigits⟩
  · cases sign <;> simp [Binary64.signed]
  · cases sign <;> simp
  · cases sign <;> simp

theorem isZero_ofNat_iff (small : n ≤ limit) :
    (Binary64.ofNat negative n).isZero = true ↔ n = 0 := by
  rw [Binary64.ofNat_of_representable (representable_of_le_limit small), Binary64.isZero]
  simp [Binary64.one_pos.ne']

/-- What an answer gave is read from its text again, a zero without its sign. -/
theorem integer?_text_of_integer? (given : integer? answer = some x) :
    integer? x.text = some (if x.isZero then .zero else x) := by
  obtain ⟨negative, n, -, small, whole⟩ := integer?_eq_some_iff.1 given
  rw [Binary64.eq_ofNat_of_whole? whole, integer?_text small]
  by_cases zero : n = 0
  · subst zero
    rw [if_pos ((isZero_ofNat_iff small).2 rfl)]
    simp [Binary64.zero]
  · rw [if_neg (mt (isZero_ofNat_iff small).1 zero), bne_iff_ne.2 zero, Bool.and_true]

/-- **Answers are read exactly, and shown as they are read.**  An answer gives a number exactly if
it is an optional sign and digits, with white space and line terminators around them, of a whole
number below `2 ^ 53` in magnitude; it gives that number, and minus zero for a zero with a minus
sign.  The text in the question that is asked about such a number reads as that number, and so
the operator confirms what the answer said. -/
theorem answers_exact :
    (∀ answer : String, (∃ x, integer? answer = some x) ↔
        ∃ negative n, Writes answer.toList negative n ∧ n ≤ 2 ^ 53 - 1) ∧
      (∀ (answer : String) (x : Binary64) (negative : Bool) (n : Nat),
        integer? answer = some x → Writes answer.toList negative n →
          x.whole? = some (negative, n)) ∧
      (∀ c : Char, isBlank c = true ↔ c ∈ Text.whiteSpace ∨ c ∈ Text.lineTerminators) ∧
      (∀ (n : Int) (stat : String), n.natAbs ≤ 2 ^ 53 - 1 →
        (Binary64.ofInt n).whole? = some (decide (n < 0), n.natAbs) ∧
          (Waiting.confirmation (.ofInt n)).question stat =
            "Is '" ++ (Binary64.ofInt n).text ++ "' correct? " ∧
          integer? (Binary64.ofInt n).text = some (.ofInt n)) ∧
      ∀ (answer : String) (x : Binary64) (stat : String), integer? answer = some x →
        (Waiting.confirmation x).question stat = "Is '" ++ x.text ++ "' correct? " ∧
          integer? x.text = some (if x.isZero then .zero else x) := by
  refine ⟨fun answer => exists_integer?_iff, ?exact, fun c => Text.isBlank_iff, ?shown,
    ?confirmed⟩
  case exact =>
    intro answer x negative n given writes
    obtain ⟨sign, m, same, -, whole⟩ := integer?_eq_some_iff.1 given
    obtain ⟨rfl, rfl⟩ := writes.unique same
    exact whole
  case shown =>
    intro n stat small
    refine ⟨whole?_ofNat small, rfl, ?_⟩
    rw [Binary64.ofInt, integer?_text small]
    -- a negative number is not zero, and so it keeps its sign
    have kept : (decide (n < 0) && n.natAbs != 0) = decide (n < 0) := by
      by_cases below : n < 0
      · have some : n.natAbs ≠ 0 := by omega
        simp [below, bne_iff_ne.2 some]
      · simp [below]
    rw [kept]
  case confirmed =>
    intro answer x stat given
    exact ⟨rfl, integer?_text_of_integer? given⟩

/-- The ends of the range, one with zeros and blanks around it, the first odd number beyond it,
which is rounded, and minus zero. -/
theorem answers_exact_at_limit :
    let least := "\ufeff -0009007199254740991\u2028\n"
    (∃ x, integer? least = some x ∧ x.whole? = some (true, 2 ^ 53 - 1) ∧
        integer? x.text = some x) ∧
      integer? (Binary64.ofInt 9007199254740991).text = some (.ofInt 9007199254740991) ∧
      integer? "9007199254740993" = none ∧
      integer? (Binary64.ofNat true 0).text = some .zero := by
  intro least
  obtain ⟨-, held, -, shown, confirmed⟩ := answers_exact
  have given : integer? least = some (.ofInt (-9007199254740991)) := by decide +kernel
  have writes : Writes least.toList true (2 ^ 53 - 1) := writes_iff.2 (by decide +kernel)
  have nonzero : (Binary64.ofInt (-9007199254740991)).isZero = false := by decide +kernel
  have minus : integer? "-0" = some (.ofNat true 0) := by decide +kernel
  have zero : (Binary64.ofNat true 0).isZero = true := by decide +kernel
  have back := (confirmed _ _ "rx" given).2
  have unsigned := (confirmed _ _ "rx" minus).2
  rw [nonzero, if_neg Bool.false_ne_true] at back
  rw [zero, if_pos rfl] at unsigned
  exact ⟨⟨_, given, held _ _ _ _ given writes, back⟩, (shown _ "rx" (by decide)).2.2,
    by decide +kernel, unsigned⟩

end Answer

end ManualTraffic
