/-
# ManualTraffic.Proofs.Report.Table -- what the table of a report tells

Without colour a row is two blanks, a name, a colon, a gap and the text of a figure.  No text of a
figure has a colon or a blank in it, so a row is read at its last colon, whatever its name is
(`rowName`, `rowText`).  The gap fills the row up to a column that all rows of a table have in
common (`Aligned`).  It lies behind the longest name of the record, and the names of unknown
figures count there as well (`textColumn`).  What is printed and the column make up the rows, and
both are found again in them; so an unknown figure has a part in nothing but the column
(`table_account`).
-/
import ManualTraffic.Proofs.Report.Formats

namespace ManualTraffic

set_option autoImplicit false

/-! ## Widths -/

namespace Text

theorem units_append (text more : List Char) : units (text ++ more) = units text + units more := by
  induction text with
  | nil => exact (Nat.zero_add _).symm
  | cons c text ih => rw [List.cons_append, units, units, ih, Nat.add_assoc]

theorem units_blanks (n : Nat) : units (List.replicate n ' ') = n := by
  induction n with
  | zero => rfl
  | succ n ih =>
      have one : charUnits ' ' = 1 := by decide
      rw [List.replicate_succ, units, ih, one, Nat.add_comm]

theorem units_colon : units [':'] = 1 := by decide

end Text

/-! ## The texts of figures -/

namespace Binary64

theorem signed_ne_nil {ds : List Char} (some : ds ≠ []) (negative : Bool) :
    signed negative ds ≠ [] := by
  cases negative with
  | false => exact some
  | true => exact List.cons_ne_nil '-' ds

/-- The text of a number is not empty. -/
theorem text_ne_empty (x : Binary64) : x.text ≠ "" := by
  intro same
  have none : x.chars = [] := by
    rw [← String.toList_ofList (l := x.chars), ← text, same]
    rfl
  cases x with
  | nan => cases none
  | infinite negative => exact signed_ne_nil (List.cons_ne_nil _ _) negative none
  | finite negative u held =>
      have ends : Numeral.Ends [] := by
        intro c given
        cases given
      have read := Json.value_chars (x := .finite negative u held) rfl ends 0
      rw [none] at read
      cases read

/-- And neither is the text with a fixed count of decimals. -/
theorem fixed_ne_empty (places : Nat) (x : Binary64) : x.fixed places ≠ "" := by
  cases x with
  | nan => exact text_ne_empty .nan
  | infinite negative => exact text_ne_empty (.infinite negative)
  | finite negative u held =>
      by_cases large : Nat.pow 10 21 * one ≤ u
      · rw [fixed, if_pos large]
        exact text_ne_empty _
      · rw [fixed, if_neg large]
        intro same
        have none := congrArg String.toList same
        rw [String.toList_ofList] at none
        exact signed_ne_nil (List.append_ne_nil_of_right_ne_nil _ (List.cons_ne_nil _ _)) _ none

end Binary64

namespace Report

open Members (keys)

variable {record other : Record} {key name text line : String} {column : Nat}

theorem marks_figure (value : Binary64) : Binary64.Marks (figure value).toList := by
  unfold figure
  split
  · exact value.marks_text
  · exact value.marks_fixed 2

theorem figure_ne_empty (value : Binary64) : figure value ≠ "" := by
  unfold figure
  split
  · exact value.text_ne_empty
  · exact value.fixed_ne_empty 2

/-! ## Rows -/

/-- What stands in a row in front of its text: two blanks, a name, a colon and a gap. -/
def margin (name : String) (gap : Nat) : String :=
  "  " ++ name ++ ":" ++ String.ofList (List.replicate gap ' ')

/-- The text in a row: what stands behind its last colon, the blanks in front of it aside. -/
def rowText (line : String) : String :=
  String.ofList ((line.toList.reverse.takeWhile (· != ':')).reverse.dropWhile (· == ' '))

/-- A row of a table: a name with its colon, at least one blank, and at the given column a text.
The name and the text are read from it at its last colon. -/
structure Aligned (column : Nat) (name text line : String) : Prop where
  layout : ∃ gap, 0 < gap ∧ line = margin name gap ++ text ∧
    Text.units (margin name gap).toList = column
  shown : text ≠ ""
  nameRead : rowName line = name
  textRead : rowText line = text

theorem units_margin (name : String) (gap : Nat) :
    Text.units (margin name gap).toList = 2 + Text.units name.toList + 1 + gap := by
  have front : "  ".toList = List.replicate 2 ' ' := by decide
  have colon : ":".toList = [':'] := by decide
  simp only [margin, String.toList_append, String.toList_ofList, front, colon, Text.units_append,
    Text.units_blanks, Text.units_colon]

theorem row_eq_margin (width : Nat) (key : String) (value : Binary64) :
    row false width key value =
      margin key (width - (Text.units key.toList + 1)) ++ figure value := by
  have plain : Text.Style.bold.paint false (figure value) = figure value := if_pos (.inl rfl)
  have named : Text.units (key.toList ++ [':']) = Text.units key.toList + 1 := by
    rw [Text.units_append, Text.units_colon]
  rw [← String.toList_inj, toList_row, plain, named]
  simp [margin]

/-- The text of a figure is read from its row. -/
theorem rowText_row (width : Nat) (key : String) (value : Binary64) :
    rowText (row false width key value) = figure value := by
  have marks := marks_figure value
  rw [row_eq_margin]
  generalize width - (Text.units key.toList + 1) = gap
  generalize figure value = text at marks
  have other (c : Char) (mark : c ∈ text.toList) : c ≠ ':' ∧ c ≠ ' ' := by
    constructor <;> rintro rfl <;> exact absurd (marks _ mark) (by decide)
  have behind : ∀ c ∈ (List.replicate gap ' ' ++ text.toList).reverse, (c != ':') = true := by
    intro c inside
    rcases List.mem_append.1 (List.mem_reverse.1 inside) with blank | mark
    · rw [List.eq_of_mem_replicate blank]
      decide
    · exact bne_iff_ne.2 (other c mark).1
  have blanks : ∀ c ∈ List.replicate gap ' ', (c == ' ') = true := fun c blank =>
    beq_iff_eq.2 (List.eq_of_mem_replicate blank)
  have unblank : text.toList.dropWhile (· == ' ') = text.toList := by
    cases chars : text.toList with
    | nil => rfl
    | cons c rest =>
        have first := (other c (chars ▸ List.mem_cons_self)).2
        exact List.dropWhile_cons_of_neg fun blank => first (beq_iff_eq.1 blank)
  have split : (margin key gap ++ text).toList.reverse =
      (List.replicate gap ' ' ++ text.toList).reverse ++ ':' :: ("  " ++ key).toList.reverse := by
    simp [margin]
  have stops : List.takeWhile (· != ':') (':' :: ("  " ++ key).toList.reverse) = [] := rfl
  rw [rowText, split, List.takeWhile_append_of_pos behind, stops, List.append_nil,
    List.reverse_reverse, List.dropWhile_append_of_pos blanks, unblank, String.ofList_toList]

theorem le_foldl_max {widths : List Nat} (start : Nat) :
    start ≤ widths.foldl max start ∧ ∀ n ∈ widths, n ≤ widths.foldl max start := by
  induction widths generalizing start with
  | nil => exact ⟨Nat.le_refl start, List.forall_mem_nil _⟩
  | cons first widths ih =>
      obtain ⟨bound, others⟩ := ih (max start first)
      refine ⟨Nat.le_trans (Nat.le_max_left ..) bound, List.forall_mem_cons.2 ⟨?_, others⟩⟩
      exact Nat.le_trans (Nat.le_max_right ..) bound

theorem nameWidth_eq (record : Record) :
    nameWidth record = ((keys record).map fun key => Text.units key.toList).foldl max 0 + 2 := by
  rw [keys, List.map_map]
  rfl

/-- Every name fits into the name column, with its colon and a blank. -/
theorem units_lt_nameWidth (named : key ∈ keys record) :
    Text.units key.toList + 1 < nameWidth record := by
  have counted : Text.units key.toList ∈ (keys record).map fun key => Text.units key.toList :=
    List.mem_map_of_mem named
  have bound := (le_foldl_max 0).2 _ counted
  rw [nameWidth_eq]
  omega

/-! ## Tables -/

/-- The column at which the texts of a table start, in units. -/
def textColumn (record : Record) : Nat := nameWidth record + 2

/-- What a table prints of a record: the names of the known figures and their texts. -/
def printed (record : Record) : Members String :=
  (known record).map fun member => (member.1, figure member.2)

/-- The lines above the rows of a table. -/
def tableHead (test : String) : List String :=
  ["", "Traffic Generator Results", rule, "Test:  " ++ test, ""]

/-- The lines below the rows. -/
def tableFoot : List String := [rule, ""]

/-- The rows among the lines of a table. -/
def tableRows (lines : List String) : List String := (lines.drop 5).dropLast.dropLast

theorem lines_pretty (test : String) (record : Record) :
    lines .pretty false test record = tableHead test ++ rows false record ++ tableFoot := by
  have plain (style : Text.Style) (text : String) : style.paint false text = text :=
    if_pos (.inl rfl)
  have label : "Test:" ++ "  " = "Test:  " := by decide
  simp only [lines, prettyLines, plain, label, tableHead, tableFoot]

theorem tableRows_lines (test : String) (record : Record) :
    tableRows (lines .pretty false test record) = rows false record := by
  rw [lines_pretty, tableRows, tableHead, tableFoot]
  simp

theorem aligned_row (value : Binary64) (named : key ∈ keys record) :
    Aligned (textColumn record) key (figure value) (row false (nameWidth record) key value) where
  layout := by
    have fits := units_lt_nameWidth named
    refine ⟨_, ?_, row_eq_margin _ key value, ?_⟩
    · omega
    · rw [units_margin, textColumn]
      omega
  shown := figure_ne_empty value
  nameRead := rowName_row false _ key value
  textRead := rowText_row _ key value

theorem rows_printed (record : Record) :
    rows false record = (printed record).map fun member =>
      margin member.1 (nameWidth record - (Text.units member.1.toList + 1)) ++ member.2 := by
  rw [rows_eq, printed, List.map_map]
  exact List.map_congr_left fun member _ => row_eq_margin _ member.1 member.2

theorem aligned_rows (record : Record) :
    List.Forall₂ (fun member => Aligned (textColumn record) member.1 member.2) (printed record)
      (rows false record) := by
  rw [rows_eq, printed, List.forall₂_map_left_iff, List.forall₂_map_right_iff]
  refine List.forall₂_same.2 fun member listed => aligned_row member.2 ?_
  exact (keys_known_sublist record).subset (List.mem_map_of_mem listed)

/-- The text of a row starts where the rest of it ends. -/
theorem Aligned.column_eq (aligned : Aligned column name text line) :
    column = Text.units line.toList - Text.units (rowText line).toList := by
  obtain ⟨gap, -, rfl, width⟩ := aligned.layout
  rw [aligned.textRead, String.toList_append, Text.units_append, width, Nat.add_sub_cancel]

theorem printed_eq_read (record : Record) :
    printed record = (rows false record).map fun line => (rowName line, rowText line) := by
  rw [rows_eq, printed, List.map_map]
  refine List.map_congr_left fun member _ => ?_
  rw [Function.comp_apply, rowName_row, rowText_row]

theorem textColumn_eq_read (listed : line ∈ rows false record) :
    textColumn record = Text.units line.toList - Text.units (rowText line).toList := by
  rw [rows_eq] at listed
  obtain ⟨member, inside, rfl⟩ := List.mem_map.1 listed
  have named := (keys_known_sublist record).subset (List.mem_map_of_mem inside)
  exact (aligned_row member.2 named).column_eq

/-- Rows tell what is printed, and if anything is, the column as well. -/
theorem rows_eq_iff :
    rows false record = rows false other ↔ printed record = printed other ∧
      (printed record = [] ∨ textColumn record = textColumn other) := by
  constructor
  · intro same
    have both : printed record = printed other := by
      rw [printed_eq_read, same, ← printed_eq_read]
    refine ⟨both, ?_⟩
    cases first : rows false record with
    | nil =>
        rw [printed_eq_read, first]
        exact .inl rfl
    | cons line lines =>
        have here : line ∈ rows false record := first ▸ List.mem_cons_self
        exact .inr ((textColumn_eq_read here).trans (textColumn_eq_read (same ▸ here)).symm)
  · rintro ⟨both, nothing | column⟩
    · rw [rows_printed, rows_printed, ← both, nothing]
      rfl
    · have width : nameWidth record = nameWidth other := Nat.add_right_cancel column
      rw [rows_printed, rows_printed, both, width]

theorem printed_unknown (before : Record) (key : String) (after : Record) :
    printed (before ++ (key, none) :: after) = printed (before ++ after) := by
  rw [printed, printed, known, known, List.filterMap_append, List.filterMap_append]
  rfl

/-- **What a table tells.**  Between its head and its foot a table has a row for each known figure,
in the order of the record; the texts of all rows start in one column, behind the colon and a
blank, and name and text are read from each row.  Two tables have the same rows exactly if the same
names are printed with the same texts, and in the same column unless there is nothing to print.  An
unknown figure changes nothing of that but the column. -/
theorem table_account (test : String) :
    (∀ record, ∃ rows, lines .pretty false test record = tableHead test ++ rows ++ tableFoot ∧
      List.Forall₂ (fun member => Aligned (textColumn record) member.1 member.2) (printed record)
        rows) ∧
    (∀ record test' other, tableRows (lines .pretty false test record) =
        tableRows (lines .pretty false test' other) ↔
      printed record = printed other ∧
        (printed record = [] ∨ textColumn record = textColumn other)) ∧
    ∀ before key after,
      List.Forall₂ (fun member => Aligned (textColumn (before ++ after)) member.1 member.2)
        (printed (before ++ (key, none) :: after))
        (tableRows (lines .pretty false test (before ++ after))) := by
  refine ⟨fun record => ?_, fun record test' other => ?_, fun before key after => ?_⟩
  · exact ⟨_, lines_pretty test record, aligned_rows record⟩
  · rw [tableRows_lines, tableRows_lines, rows_eq_iff]
  · rw [tableRows_lines, printed_unknown]
    exact aligned_rows (before ++ after)

/-- The longer name has no row, and the column lies behind it all the same. -/
example : tableRows (lines .pretty false "burst"
    [("a: b", some (.ofNat false 1)), ("rx_frames", none)]) = ["  a: b:      1"] := by
  decide +kernel

end Report

end ManualTraffic
