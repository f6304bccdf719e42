/-
# ManualTraffic.Proofs.Report.Formats -- what the formats of a report say

Each format is read as it is written: a table row by row up to the last colon (`tableNames`), the
JSON text by parsing it, a line of comma-separated values at the commas behind its label
(`columns?`).  The table and the JSON text list the figures that are known, in the order of the
record; the comma-separated values have a column for each of its names, and `undefined` where a
figure is not known (`formats_account`).  So the three agree (`FormatsAgree`) exactly if every
figure is known.
-/
import ManualTraffic.Proofs.Binary64.Text
import ManualTraffic.Proofs.Json.ReadBack
import ManualTraffic.Report

namespace ManualTraffic

set_option autoImplicit false

/-! ## Styles -/

namespace Text.Style

variable {p : Char → Prop} {part again text : List Char}

theorem forall_after (parts : ∀ c ∈ part, p c) (agains : ∀ c ∈ again, p c) (fuel : Nat)
    (holds : ∀ c ∈ text, p c) : ∀ c ∈ after part again fuel text, p c := by
  induction fuel generalizing text with
  | zero => exact holds
  | succ fuel ih =>
      unfold after
      split
      · refine List.forall_mem_append.2 ⟨List.forall_mem_append.2 ⟨parts, agains⟩, ih ?_⟩
        exact fun c inside => holds c (List.mem_of_mem_drop inside)
      · split
        · exact List.forall_mem_nil _
        · obtain ⟨first, others⟩ := List.forall_mem_cons.1 holds
          exact List.forall_mem_cons.2 ⟨first, ih others⟩

theorem forall_aroundBreaks {before behind : List Char} (befores : ∀ c ∈ before, p c)
    (behinds : ∀ c ∈ behind, p c) (holds : ∀ c ∈ text, p c) :
    ∀ c ∈ aroundBreaks before behind text, p c := by
  fun_induction aroundBreaks before behind text with
  | case1 => exact holds
  | case2 rest ih =>
      simp only [List.forall_mem_cons, List.forall_mem_append] at holds ⊢
      exact ⟨befores, holds.1, holds.2.1, behinds, ih holds.2.2⟩
  | case3 rest ih =>
      simp only [List.forall_mem_cons, List.forall_mem_append] at holds ⊢
      exact ⟨befores, holds.1, behinds, ih holds.2⟩
  | case4 c rest _ _ ih =>
      simp only [List.forall_mem_cons] at holds ⊢
      exact ⟨holds.1, ih holds.2⟩

/-- What holds of the characters of a text and of the escape sequences holds of the text in a
style. -/
theorem forall_paint (codes : ∀ n, ∀ c ∈ escape n, p c) (color : Bool) (style : Style)
    {text : String} (holds : ∀ c ∈ text.toList, p c) :
    ∀ c ∈ (style.paint color text).toList, p c := by
  unfold paint
  split
  · exact holds
  · simp only [String.toList_ofList, List.forall_mem_append]
    refine ⟨⟨codes _, ?_⟩, codes _⟩
    exact forall_aroundBreaks (codes _) (codes _) (forall_after (codes _) (codes _) _ holds)

end Text.Style

namespace Report

open Members (Keyed keys)

variable {record : Record} {test key : String} {color : Bool}

/-! ## Known figures -/

/-- The figures of a record that are known. -/
def known (record : Record) : Members Binary64 :=
  record.filterMap fun member => member.2.map fun x => (member.1, x)

theorem known_cons_some (x : Binary64) : known ((key, some x) :: record) = (key, x) :: known record :=
  rfl

theorem known_cons_none : known ((key, none) :: record) = known record := rfl

theorem keys_known_sublist (record : Record) : (keys (known record)).Sublist (keys record) := by
  induction record with
  | nil => exact .slnil
  | cons member record ih =>
      obtain ⟨key, figure⟩ := member
      cases figure with
      | none => exact ih.cons key
      | some x => exact ih.cons_cons key

/-- The names of the known figures are all names exactly if every figure is known. -/
theorem keys_known_eq_iff : keys record = keys (known record) ↔ ∀ member ∈ record, member.2.isSome := by
  induction record with
  | nil => exact iff_of_true rfl (List.forall_mem_nil _)
  | cons member record ih =>
      obtain ⟨key, figure⟩ := member
      cases figure with
      | none =>
          refine iff_of_false (fun same => ?_) fun all => by simpa using all _ List.mem_cons_self
          have shorter := (keys_known_sublist record).length_le
          rw [known_cons_none] at same
          have length := congrArg List.length same
          simp only [keys, List.map_cons, List.length_cons] at length shorter
          omega
      | some x => simpa [keys, known_cons_some] using ih

theorem keyed_known (keyed : Keyed record) : Keyed (known record) where
  nodup := keyed.nodup.sublist (keys_known_sublist record)
  ordered := keyed.ordered.sublist (keys_known_sublist record)

theorem rows_eq (color : Bool) (record : Record) :
    rows color record =
      (known record).map fun figure => row color (nameWidth record) figure.1 figure.2 := by
  rw [known, List.map_filterMap, rows]
  congr 1
  funext member
  rw [Option.map_map]
  rfl

theorem members_eq (record : Record) :
    members record = (known record).map fun figure => (figure.1, .number figure.2) := by
  rw [known, List.map_filterMap, members]
  congr 1
  funext member
  rw [Option.map_map]
  rfl

/-! ## The table -/

/-- The name in a row of a table: what stands before its last colon, the two spaces in front
aside. -/
def rowName (row : String) : String :=
  String.ofList (((row.toList.drop 2).reverse.dropWhile (· != ':')).tail.reverse)

/-- The names in a table, row by row, between the five lines of its head and the two of its
foot. -/
def tableNames (lines : List String) : List String :=
  (lines.drop 5).dropLast.dropLast.map rowName

theorem no_colon_escape (code : Nat) : ∀ c ∈ Text.Style.escape code, c ≠ ':' := by
  have digits (c : Char) (inside : c ∈ Nat.toDigits 10 code) : c ≠ ':' := by
    rintro rfl
    exact absurd (Binary64.Marks.digits code ':' inside) (by decide)
  have frame : '\x1b' ≠ ':' ∧ '[' ≠ ':' ∧ 'm' ≠ ':' := by decide
  obtain ⟨first, second, last⟩ := frame
  refine List.forall_mem_cons.2 ⟨first, List.forall_mem_cons.2 ⟨second, ?_⟩⟩
  exact List.forall_mem_append.2 ⟨digits, List.forall_mem_singleton.2 last⟩

theorem no_colon_figure (value : Binary64) : ∀ c ∈ (figure value).toList, c ≠ ':' := by
  have marks : Binary64.Marks (figure value).toList := by
    unfold figure
    split
    · exact value.marks_text
    · exact value.marks_fixed 2
  rintro c inside rfl
  exact absurd (marks ':' inside) (by decide)

/-- A row is two blanks, the name, a colon, a gap and the text of the figure. -/
theorem toList_row (color : Bool) (width : Nat) (key : String) (value : Binary64) :
    (row color width key value).toList = ' ' :: ' ' :: (key.toList ++ ':' ::
      (List.replicate (width - Text.units (key.toList ++ [':'])) ' ' ++
        (Text.Style.bold.paint color (figure value)).toList)) := by
  simp only [row, String.toList_append, String.toList_ofList, Text.padEnd]
  simp

/-- The name of a row is read from it. -/
theorem rowName_row (color : Bool) (width : Nat) (key : String) (value : Binary64) :
    rowName (row color width key value) = key := by
  have behind : ∀ c ∈ List.replicate (width - Text.units (key.toList ++ [':'])) ' ' ++
      (Text.Style.bold.paint color (figure value)).toList, c ≠ ':' := by
    refine List.forall_mem_append.2 ⟨fun c inside => ?_, ?_⟩
    · rw [List.eq_of_mem_replicate inside]
      decide
    · exact Text.Style.forall_paint no_colon_escape color _ (no_colon_figure value)
  have text := congrArg (List.drop 2) (toList_row color width key value)
  generalize List.replicate (width - Text.units (key.toList ++ [':'])) ' ' ++
    (Text.Style.bold.paint color (figure value)).toList = rest at text behind
  have passed : ∀ c ∈ rest.reverse, (c != ':') = true := fun c inside =>
    bne_iff_ne.2 (behind c (List.mem_reverse.1 inside))
  rw [rowName, text, List.drop_succ_cons, List.drop_succ_cons, List.drop_zero, List.reverse_append,
    List.reverse_cons, List.append_assoc, List.dropWhile_append_of_pos passed]
  simp

/-- A table lists the known figures. -/
theorem tableNames_lines (color : Bool) (test : String) (record : Record) :
    tableNames (lines .pretty color test record) = keys (known record) := by
  have names : (rows color record).map rowName = keys (known record) := by
    rw [rows_eq, List.map_map, keys]
    exact List.map_congr_left fun figure _ => rowName_row color _ figure.1 figure.2
  rw [tableNames, lines, prettyLines, ← names]
  simp

/-! ## The JSON text -/

/-- The figures that the JSON text reports, as it parses. -/
def reported (record : Record) : Members Json :=
  (known record).map fun figure => (figure.1, (Json.number figure.2).legible)

theorem keys_reported (record : Record) : keys (reported record) = keys (known record) := by
  rw [keys, reported, List.map_map]
  rfl

theorem keyed_toJson (test : String) (keyed : Keyed record) : (toJson test record).Keyed := by
  have same : keys (members record) = keys (known record) := by
    rw [keys, members_eq, List.map_map]
    rfl
  have numbers : ∀ member ∈ members record, member.2.Keyed := by
    rw [members_eq]
    intro member listed
    obtain ⟨figure, -, rfl⟩ := List.mem_map.1 listed
    exact .number figure.2
  have inner : Keyed (members record) :=
    ⟨same ▸ (keyed_known keyed).nodup, same ▸ (keyed_known keyed).ordered⟩
  have outer : ["test", "results"].Nodup ∧ KeyOrder.Ordered ["test", "results"] :=
    ⟨by decide, List.pairwise_pair.2 (by decide +kernel)⟩
  refine .object ⟨outer.1, outer.2⟩ ?_
  exact List.forall_mem_cons.2 ⟨.string test, List.forall_mem_singleton.2 (.object inner numbers)⟩

theorem legibleMembers_numbers (figures : Members Binary64) :
    Json.legibleMembers (figures.map fun figure => (figure.1, .number figure.2)) =
      figures.map fun figure => (figure.1, (Json.number figure.2).legible) := by
  induction figures with
  | nil => rfl
  | cons figure figures ih => exact congrArg (_ :: ·) ih

/-- The JSON text lists the known figures. -/
theorem parse?_lines (color : Bool) (test : String) (keyed : Keyed record) :
    ∃ text, lines .json color test record = [text] ∧ Json.parse? text.toList =
      some (.object [("test", .string test), ("results", .object (reported record))]) := by
  refine ⟨_, rfl, (Json.parse?_indented 2 (keyed_toJson test keyed)).trans ?_⟩
  rw [toJson, members_eq, reported, ← legibleMembers_numbers]
  rfl

/-! ## Comma-separated values -/

/-- The columns behind the label of a line, which are kept apart by commas; none is read from a
line that does not begin with the label. -/
def columns? (label line : String) : Option (List String) :=
  match (line.toList.dropPrefix? label.toList).map (List.splitOn ',') with
  | some ([] :: columns) => some (columns.map String.ofList)
  | _ => none

theorem columns?_intercalate (label : String) {columns : List String}
    (free : ∀ column ∈ columns, ',' ∉ column.toList) :
    columns? label (",".intercalate (label :: columns)) = some columns := by
  have apart : [','].intercalate (label.toList :: columns.map String.toList) =
      label.toList ++ [','].intercalate ([] :: columns.map String.toList) := by
    cases columns with
    | nil => rfl
    | cons column columns => simp [List.intercalate]
  have free' : ∀ column ∈ [] :: columns.map String.toList, ',' ∉ column := by
    refine List.forall_mem_cons.2 ⟨List.not_mem_nil, fun column listed => ?_⟩
    obtain ⟨one, there, rfl⟩ := List.mem_map.1 listed
    exact free one there
  have comma : ",".toList = [','] := rfl
  rw [columns?, String.toList_intercalate, comma, List.map_cons, apart,
    List.dropPrefix?_append_of_beq _ (beq_self_eq_true _), Option.map_some,
    List.splitOn_intercalate ',' free' (List.cons_ne_nil _ _)]
  simp

/-- The text in the column of a figure. -/
def field (figure : Option Binary64) : String := (figure.map Binary64.text).getD "undefined"

theorem no_comma_field (figure : Option Binary64) : ',' ∉ (field figure).toList := by
  cases figure with
  | none => decide
  | some x => exact fun inside => absurd (x.marks_text ',' inside) (by decide)

/-- The lines of comma-separated values have a column for each figure, known or not. -/
theorem columns?_lines (color : Bool) (test : String)
    (free : ∀ key ∈ keys record, ',' ∉ key.toList) :
    ∃ header data, lines .csv color test record = [header, data] ∧
      columns? "test" header = some (keys record) ∧
      columns? test data = some (record.map fun member => field member.2) := by
  refine ⟨_, _, rfl, columns?_intercalate "test" free, columns?_intercalate test ?_⟩
  intro column listed
  obtain ⟨member, -, rfl⟩ := List.mem_map.1 listed
  exact no_comma_field member.2

/-! ## The three formats -/

/-- A text spells a value of the JSON text: a number in its digits, and `null` by the text of a
number that is not finite. -/
inductive Spells : Json → String → Prop
  | number (x : Binary64) (finite : x.isFinite = true) : Spells (.number x) x.text
  | null (x : Binary64) (infinite : x.isFinite = false) : Spells .null x.text

theorem spells_legible (x : Binary64) : Spells (Json.number x).legible x.text := by
  rw [Json.legible]
  split
  next finite =>
    have kept := Binary64.isFinite_withoutZeroSign finite
    exact x.text_withoutZeroSign ▸ .number x.withoutZeroSign kept
  next infinite => exact .null x (Bool.eq_false_iff.2 infinite)

/-- The formats of a report agree: the rows of the table, the members of the JSON text and the
columns of the header line are the same names in the same order, and the data line has a column
for each of them, which spells the value that the JSON text has for the name. -/
structure FormatsAgree (color : Bool) (test : String) (record : Record)
    (results : Members Json) : Prop where
  json : ∃ text, lines .json color test record = [text] ∧ Json.parse? text.toList =
    some (.object [("test", .string test), ("results", .object results)])
  table : tableNames (lines .pretty color test record) = keys results
  values : ∃ header data columns, lines .csv color test record = [header, data] ∧
    columns? "test" header = some (keys results) ∧ columns? test data = some columns ∧
    List.Forall₂ Spells (results.map Prod.snd) columns

theorem forall₂_spells (record : Record) :
    List.Forall₂ Spells ((reported record).map Prod.snd)
      ((known record).map fun figure => figure.2.text) := by
  rw [reported, List.map_map, List.forall₂_map_left_iff, List.forall₂_map_right_iff]
  exact List.forall₂_same.2 fun figure _ => spells_legible figure.2

/-- The columns of known figures are their texts. -/
theorem fields_known (all : ∀ member ∈ record, member.2.isSome) :
    record.map (fun member => field member.2) =
      (known record).map fun figure => figure.2.text := by
  induction record with
  | nil => rfl
  | cons member record ih =>
      obtain ⟨key, figure⟩ := member
      obtain ⟨first, others⟩ := List.forall_mem_cons.1 all
      obtain ⟨x, rfl⟩ := Option.isSome_iff_exists.1 first
      exact congrArg (x.text :: ·) (ih others)

/-- The formats agree exactly if no figure is unknown. -/
theorem agree_iff (color : Bool) (test : String) (keyed : Keyed record)
    (free : ∀ key ∈ keys record, ',' ∉ key.toList) :
    (∃ results, FormatsAgree color test record results) ↔ ∀ member ∈ record, member.2.isSome := by
  obtain ⟨header, data, written, names, figures⟩ := columns?_lines color test free
  constructor
  · rintro ⟨results, agree⟩
    obtain ⟨header', data', -, written', names', -⟩ := agree.values
    obtain ⟨rfl, -⟩ := List.cons.inj (written.symm.trans written')
    have header : keys record = keys results := Option.some.inj (names.symm.trans names')
    have table : keys results = keys (known record) :=
      agree.table.symm.trans (tableNames_lines color test record)
    exact keys_known_eq_iff.1 (header.trans table)
  · intro all
    have same : keys record = keys (reported record) :=
      (keys_known_eq_iff.2 all).trans (keys_reported record).symm
    refine ⟨reported record, parse?_lines color test keyed, ?_, header, data, _, written,
      same ▸ names, figures, ?_⟩
    · exact (tableNames_lines color test record).trans (keys_reported record).symm
    · rw [fields_known all]
      exact forall₂_spells record

/-- **What the formats of a report say.**  Of every record, whose names stand once and in key order,
the table and the JSON text list the figures that are known, in the order of the record, and the
comma-separated values list every name, with `undefined` in the column of an unknown figure.  So
the formats agree exactly if there is no unknown figure. -/
theorem formats_account (color : Bool) (test : String) (keyed : Keyed record)
    (free : ∀ key ∈ keys record, ',' ∉ key.toList) :
    (∃ text, lines .json color test record = [text] ∧ Json.parse? text.toList =
      some (.object [("test", .string test), ("results", .object (reported record))])) ∧
    tableNames (lines .pretty color test record) = keys (reported record) ∧
    (∃ header data, lines .csv color test record = [header, data] ∧
      columns? "test" header = some (keys record) ∧
      columns? test data = some (record.map fun member => field member.2)) ∧
    ((∃ results, FormatsAgree color test record results) ↔
      ∀ member ∈ record, member.2.isSome) :=
  ⟨parse?_lines color test keyed,
    (tableNames_lines color test record).trans (keys_reported record).symm,
    columns?_lines color test free, agree_iff color test keyed free⟩

/-- A figure that is no number and a zero below zero agree as well. -/
theorem formats_account_no_number :
    ∃ results, FormatsAgree true "a, b" [("tx:frames", some .nan),
      ("seq err", some (.ofNat true 0))] results := by
  have keyed : Keyed [("tx:frames", some Binary64.nan), ("seq err", some (.ofNat true 0))] :=
    ⟨by decide, List.pairwise_pair.2 (by decide +kernel)⟩
  exact (formats_account true "a, b" keyed (by decide)).2.2.2.2 (by simp)

/-- An unknown figure has a column but neither a row nor a member. -/
theorem formats_differ_unknown :
    let record : Record := [("tx_frames", some (.ofNat false 1)), ("rx_frames", none)]
    Keyed record ∧ (∀ key ∈ keys record, ',' ∉ key.toList) ∧
      lines .csv false "burst" record = ["test,tx_frames,rx_frames", "burst,1,undefined"] ∧
      ¬∃ results, FormatsAgree false "burst" record results := by
  intro record
  have keyed : Keyed record := ⟨by decide, List.pairwise_pair.2 (by decide +kernel)⟩
  have free : ∀ key ∈ keys record, ',' ∉ key.toList := by decide
  refine ⟨keyed, free, by decide +kernel, fun agreed => ?_⟩
  have all := (agree_iff false "burst" keyed free).1 agreed
  exact absurd (all ("rx_frames", none) (by simp [record])) Bool.false_ne_true

end Report

end ManualTraffic
