/-
# ManualTraffic.Proofs.Binary64.Text -- the characters of a number

However a number is written, with all its digits, with an exponent or to a fixed count of
decimals, and whether it is finite or not, its text is of letters, digits, points and signs
(`marks_text`, `marks_fixed`).  So it has no control character in it (`printable_text`,
`printable_fixed`), a line of numbers and words is one line (`Printable.unbroken`), and none of
the characters that separate figures stands in one.
-/
import ManualTraffic.Binary64.Text
import ManualTraffic.Proofs.Operator.Lines

namespace ManualTraffic

set_option autoImplicit false

namespace Text

/-- A text without control characters. -/
def Printable (text : List Char) : Prop := ∀ c ∈ text, ' ' ≤ c

instance (text : List Char) : Decidable (Printable text) := List.decidableBAll (' ' ≤ ·) text

namespace Printable

variable {text more : List Char} {c : Char}

theorem unbroken (printable : Printable text) : Unbroken text :=
  ⟨fun inside => absurd (printable _ inside) (by decide),
    fun inside => absurd (printable _ inside) (by decide)⟩

theorem nil : Printable [] := List.forall_mem_nil _

theorem cons (first : ' ' ≤ c) (printable : Printable text) : Printable (c :: text) :=
  List.forall_mem_cons.2 ⟨first, printable⟩

theorem append (printable : Printable text) (printable' : Printable more) :
    Printable (text ++ more) :=
  List.forall_mem_append.2 ⟨printable, printable'⟩

theorem concat {one other : String} (printable : Printable one.toList)
    (printable' : Printable other.toList) : Printable (one ++ other).toList := by
  rw [String.toList_append]
  exact printable.append printable'

end Printable

end Text

namespace Binary64

open Text (Printable)

variable {ds more : List Char} {c : Char}

/-! ## The characters of numbers -/

/-- A character that numbers are written with. -/
def isMark (c : Char) : Bool := c.isAlphanum || c == '.' || c == '+' || c == '-'

/-- A text of such characters. -/
def Marks (text : List Char) : Prop := ∀ c ∈ text, isMark c = true

instance (text : List Char) : Decidable (Marks text) :=
  List.decidableBAll (fun c => isMark c = true) text

theorem le_of_isMark (mark : isMark c = true) : ' ' ≤ c := by
  unfold isMark Char.isAlphanum Char.isAlpha Char.isUpper Char.isLower Char.isDigit at mark
  simp only [Bool.or_eq_true, Bool.and_eq_true, decide_eq_true_eq, beq_iff_eq] at mark
  rcases mark with ((((upper | lower) | digit) | rfl) | rfl) | rfl
  · exact Char.le_trans (by decide : ' ' ≤ 'A') upper.1
  · exact Char.le_trans (by decide : ' ' ≤ 'a') lower.1
  · exact Char.le_trans (by decide : ' ' ≤ '0') digit.1
  all_goals decide

namespace Marks

theorem printable (marks : Marks ds) : Printable ds := fun c inside =>
  le_of_isMark (marks c inside)

theorem nil : Marks [] := List.forall_mem_nil _

theorem cons (first : isMark c = true) (marks : Marks ds) : Marks (c :: ds) :=
  List.forall_mem_cons.2 ⟨first, marks⟩

theorem append (marks : Marks ds) (marks' : Marks more) : Marks (ds ++ more) :=
  List.forall_mem_append.2 ⟨marks, marks'⟩

theorem of_subset (marks : Marks ds) (sub : more ⊆ ds) : Marks more :=
  fun c inside => marks c (sub inside)

theorem take (marks : Marks ds) (n : Nat) : Marks (ds.take n) :=
  marks.of_subset (List.take_subset n ds)

theorem drop (marks : Marks ds) (n : Nat) : Marks (ds.drop n) :=
  marks.of_subset (List.drop_subset n ds)

theorem zeros (n : Nat) : Marks (List.replicate n '0') := by
  intro c inside
  rw [List.eq_of_mem_replicate inside]
  decide

theorem digits (n : Nat) : Marks (Nat.toDigits 10 n) := by
  intro c inside
  have digit : c.isDigit = true := Nat.isDigit_of_mem_toDigits (by decide) (by decide) inside
  simp [isMark, Char.isAlphanum, digit]

end Marks

theorem marks_signed (negative : Bool) (marks : Marks ds) : Marks (signed negative ds) := by
  cases negative with
  | false => exact marks
  | true => exact .cons (by decide) marks

theorem marks_power (e : Int) : Marks (power e) := by
  refine .cons (by decide) (.cons ?_ (.digits _))
  split <;> decide

theorem marks_place (marks : Marks ds) (point : Int) : Marks (place ds point) := by
  unfold place
  split
  · split
    · exact (marks.take _).append (.zeros _)
    · next rest _ =>
      exact (marks.take _).append (.cons (by decide) (marks.drop _))
  · split
    · exact .cons (by decide) (.cons (by decide) ((Marks.zeros _).append marks))
    · split
      · exact .cons (marks _ (.head _)) (marks_power _)
      · next d rest _ =>
        obtain ⟨first, others⟩ := List.forall_mem_cons.1 marks
        exact .cons first (.cons (by decide) (.append others (marks_power _)))
      · exact .nil

theorem marks_layout (d : Decimal) : Marks (layout d) := by
  refine marks_place ?_ _
  refine (Marks.digits d.coefficient).of_subset fun c inside => ?_
  have kept := List.mem_reverse.1 inside
  exact List.mem_reverse.1 (List.dropWhile_subset _ kept)

theorem marks_chars (x : Binary64) : Marks x.chars := by
  cases x with
  | nan => decide
  | infinite negative => exact marks_signed negative (by decide)
  | finite negative u held =>
      rw [chars]
      split
      · decide
      · split
        · exact marks_signed negative (.digits _)
        · exact marks_signed negative (marks_layout _)

/-- The text of a number is of such characters. -/
theorem marks_text (x : Binary64) : Marks x.text.toList := by
  rw [text, String.toList_ofList]
  exact x.marks_chars

/-- And so is the text with a fixed count of decimals. -/
theorem marks_fixed (places : Nat) (x : Binary64) : Marks (x.fixed places).toList := by
  cases x with
  | nan => exact marks_text _
  | infinite negative => exact marks_text _
  | finite negative u held =>
      by_cases large : Nat.pow 10 21 * one ≤ u
      · rw [fixed, if_pos large]
        exact marks_text _
      · rw [fixed, if_neg large, String.toList_ofList]
        have padded (k n : Nat) : Marks (List.replicate k '0' ++ Nat.toDigits 10 n) :=
          (Marks.zeros k).append (.digits n)
        exact marks_signed _
          (((padded _ _).take _).append (.cons (by decide) ((padded _ _).drop _)))

/-! ## Numbers on a line -/

/-- The text of a number is printable. -/
theorem printable_text (x : Binary64) : Printable x.text.toList := x.marks_text.printable

/-- A number with a fixed count of decimals is printable. -/
theorem printable_fixed (places : Nat) (x : Binary64) : Printable (x.fixed places).toList :=
  (x.marks_fixed places).printable

end Binary64

end ManualTraffic
