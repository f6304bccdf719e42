/-
# ManualTraffic.Proofs.Json.Lines -- the lines of JSON text

No string breaks a line of JSON text, for control characters are escaped in it
(`printable_quote`).  So the only line breaks are those of the layout, and behind each of them
there is the indentation, or the bracket that closes an array or an object (`margined_render`).
Hence every line of an object in text starts with a space or a bracket (`opening_of_mem_indented`).
-/
import ManualTraffic.Json.Printer
import ManualTraffic.Proofs.Binary64.Text
import Mathlib.Data.List.Pairwise

namespace ManualTraffic

set_option autoImplicit false

/-! ## Texts with a margin -/

namespace Text

variable {text more : List Char} {c : Char}

/-- What stands at the front of a line behind another one. -/
def margin : List Char := [' ', ']', '}']

/-- A text without carriage returns that ends inside a line, and whose later lines start with a
character of the margin. -/
structure Margined (text : List Char) : Prop where
  free : '\r' ∉ text
  broken : text.IsChain fun a b => a = '\n' → b ∈ margin
  last : text.getLast? ≠ some '\n'

theorem Printable.margined (printable : Printable text) : Margined text := by
  have unbroken := printable.unbroken
  refine ⟨unbroken.1, ?_, fun last => unbroken.2 (List.mem_of_getLast? last)⟩
  refine (List.pairwise_of_forall_mem_list fun a inside b _ feed => ?_).isChain
  exact absurd (feed ▸ inside) unbroken.2

theorem Margined.append (margined : Margined text) (margined' : Margined more) :
    Margined (text ++ more) where
  free := by
    rw [List.mem_append, not_or]
    exact ⟨margined.free, margined'.free⟩
  broken := by
    refine List.isChain_append.2 ⟨margined.broken, margined'.broken, fun a last b _ feed => ?_⟩
    exact absurd (feed ▸ last) margined.last
  last := by
    rw [List.getLast?_append]
    cases last : more.getLast? with
    | none => exact margined.last
    | some c =>
        have inside := margined'.last
        rwa [last] at inside

theorem Margined.cons (printed : ' ' ≤ c) (margined : Margined text) : Margined (c :: text) := by
  have first : Printable [c] := List.forall_mem_singleton.2 printed
  exact first.margined.append margined

/-- A line break in front of a printable text that starts with a character of the margin. -/
theorem Printable.margined_feed (printable : Printable (c :: text)) (first : c ∈ margin) :
    Margined ('\n' :: c :: text) where
  free := by
    rw [List.mem_cons, not_or]
    exact ⟨by decide, printable.unbroken.1⟩
  broken := by
    refine List.isChain_cons.2 ⟨?_, printable.margined.broken⟩
    rintro d start -
    obtain rfl : c = d := Option.some.inj start
    exact first
  last := by
    rw [List.getLast?_cons_cons]
    exact printable.margined.last

/-- Behind a line, the text has a margin as well, and it starts there. -/
theorem Margined.behind {line : List Char} (margined : Margined (line ++ '\n' :: text)) :
    Margined text ∧ ∀ c ∈ text.head?, c ∈ margin := by
  obtain ⟨-, later, -⟩ := List.isChain_append.1 margined.broken
  obtain ⟨start, broken⟩ := List.isChain_cons.1 later
  refine ⟨⟨?_, broken, ?_⟩, fun c first => start c first rfl⟩
  · exact fun inside => margined.free (List.mem_append_right _ (List.mem_cons_of_mem _ inside))
  · intro last
    refine margined.last ?_
    rw [List.getLast?_append, List.getLast?_cons, last]
    rfl

/-- What stands at the front of the lines of an array or an object in text. -/
def openings : List Char := '[' :: '{' :: margin

/-- In a text with a margin that starts with a bracket, so does every line, or with a space. -/
theorem opening_of_mem_lines (margined : Margined text) (first : ∀ c ∈ text.head?, c ∈ openings)
    {line : List Char} (listed : line ∈ lines text) : ∃ c ∈ line.head?, c ∈ openings := by
  induction count : text.length using Nat.strongRecOn generalizing text with
  | ind n ih =>
      have opening {front : List Char} (there : front ≠ []) (same : front.head? = text.head?) :
          ∃ c ∈ front.head?, c ∈ openings := by
        obtain ⟨c, more, rfl⟩ := List.exists_cons_of_ne_nil there
        exact ⟨c, rfl, first c same.symm⟩
      rcases unbroken_or_ended text with unbroken | ⟨front, ending, rest, unbroken, same, apart⟩
      · rw [lines_unbroken unbroken] at listed
        split at listed
        · cases listed
        · rename_i there
          obtain rfl := List.mem_singleton.1 listed
          exact opening there rfl
      · have feed : ending = .feed := by
          cases ending with
          | feed => rfl
          | carriage | both =>
              exact absurd (same ▸ by simp [LineBreak.text]) margined.free
        subst feed
        rw [same, lines_ended unbroken apart] at listed
        have split : text = front ++ '\n' :: rest := same
        rw [split] at margined
        rcases List.mem_cons.1 listed with rfl | later
        · cases line with
          | nil => exact absurd (first '\n' (by rw [split]; rfl)) (by decide)
          | cons c line => exact opening (List.cons_ne_nil _ _) (by rw [split]; rfl)
        · obtain ⟨margined, start⟩ := margined.behind
          have fewer : rest.length < n := by
            rw [← count, split, List.length_append, List.length_cons]
            omega
          have openings (c : Char) (first : c ∈ rest.head?) : c ∈ openings :=
            List.mem_cons_of_mem _ (List.mem_cons_of_mem _ (start c first))
          exact ih _ fewer margined openings later rfl

end Text

/-! ## The text of a value -/

namespace Json

open Text (Printable Margined margin)

theorem printable_escapeChar (c : Char) : Printable (escapeChar c) := by
  have digit : ∀ n < 0x20, ' ' ≤ Nat.digitChar (n / 16) ∧ ' ' ≤ Nat.digitChar (n % 16) := by decide
  unfold escapeChar
  split
  · decide
  · split
    · decide
    · split
      · rename_i control
        obtain ⟨high, low⟩ := digit c.toNat control
        split
        case h_6 =>
          have before : Printable ['\\', 'u', '0', '0'] := by decide
          exact before.append (.cons high (.cons low .nil))
        all_goals decide
      · rename_i printed
        exact List.forall_mem_singleton.2 (UInt32.le_iff_toNat_le.2 (Nat.le_of_not_lt printed))

/-- A string is printed on one line. -/
theorem printable_quote (s : String) : Printable (quote s) := by
  have body : Printable (s.toList.flatMap escapeChar) := by
    intro c inside
    obtain ⟨d, -, there⟩ := List.mem_flatMap.1 inside
    exact printable_escapeChar d c there
  exact .cons (by decide) (body.append (by decide))

theorem printable_spaces (n : Nat) : Printable (List.replicate n ' ') := by
  have space : ' ' ≤ ' ' := by decide
  exact fun c inside => List.eq_of_mem_replicate inside ▸ space

theorem margined_lineBreak (step depth : Nat) :
    Margined ((Layout.indented (step + 1)).lineBreak (depth + 1)) := by
  have some : (step + 1) * (depth + 1) = (step + 1) * depth + step + 1 :=
    Nat.mul_succ _ _
  rw [Layout.lineBreak, some, List.replicate_succ]
  exact Printable.margined_feed (printable_spaces (_ + 1)) (by decide)

theorem margined_colon (step : Nat) : Margined (Layout.indented (step + 1)).colon := by
  have printable : Printable [':', ' '] := by decide
  exact printable.margined

theorem margined_closing (step depth : Nat) {c : Char} (bracket : c ∈ [']', '}']) :
    Margined ((Layout.indented step).lineBreak depth ++ [c]) := by
  have array : ' ' ≤ ']' ∧ ']' ∈ margin := by decide
  have object : ' ' ≤ '}' ∧ '}' ∈ margin := by decide
  have printed : ' ' ≤ c ∧ c ∈ margin := by
    obtain rfl | rfl := List.mem_pair.1 bracket
    · exact array
    · exact object
  obtain ⟨printable, inside⟩ := printed
  have line : Printable (List.replicate (step * depth) ' ' ++ [c]) :=
    (printable_spaces _).append (List.forall_mem_singleton.2 printable)
  rw [Layout.lineBreak, List.cons_append]
  cases spaces : List.replicate (step * depth) ' ' with
  | nil =>
      rw [spaces] at line
      exact Printable.margined_feed line inside
  | cons first more =>
      rw [spaces] at line
      have space : first = ' ' := List.eq_of_mem_replicate (spaces ▸ List.mem_cons_self)
      exact Printable.margined_feed line (space ▸ by decide)

mutual

/-- Where values are indented, the lines of a text have a margin. -/
theorem margined_render (value : Json) (step depth : Nat) :
    Margined (render (.indented (step + 1)) depth value) := by
  have null : Printable "null".toList := by decide +kernel
  cases value with
  | null => exact null.margined
  | bool b =>
      have words : Printable "true".toList ∧ Printable "false".toList := by decide +kernel
      cases b with
      | true => exact words.1.margined
      | false => exact words.2.margined
  | number x =>
      rw [render]
      split
      · exact x.marks_chars.printable.margined
      · exact null.margined
  | string s => exact (printable_quote s).margined
  | array items =>
      cases items with
      | nil =>
          have brackets : Printable ['[', ']'] := by decide
          exact brackets.margined
      | cons item items =>
          have inside := (margined_lineBreak step depth).append (margined_render item step (depth + 1))
          have all := inside.append (margined_renderItems items step depth)
          have closed := all.append (margined_closing (step + 1) depth (.head _))
          rw [render, List.append_assoc _ _ [']']]
          exact closed.cons (by decide)
  | object members =>
      cases members with
      | nil =>
          have braces : Printable ['{', '}'] := by decide
          exact braces.margined
      | cons member members =>
          obtain ⟨key, value⟩ := member
          have front := (margined_lineBreak step depth).append (printable_quote key).margined
          have inside := (front.append (margined_colon step)).append
            (margined_render value step (depth + 1))
          have all := inside.append (margined_renderMembers members step depth)
          have closed := all.append (margined_closing (step + 1) depth (.tail _ (.head _)))
          rw [render, List.append_assoc _ _ ['}']]
          exact closed.cons (by decide)
termination_by structural value

theorem margined_renderItems (items : List Json) (step depth : Nat) :
    Margined (renderItems (.indented (step + 1)) (depth + 1) items) := by
  cases items with
  | nil => exact Text.Printable.nil.margined
  | cons item items =>
      have inside := (margined_lineBreak step depth).append (margined_render item step (depth + 1))
      exact (inside.append (margined_renderItems items step depth)).cons (by decide)
termination_by structural items

theorem margined_renderMembers (members : List (String × Json)) (step depth : Nat) :
    Margined (renderMembers (.indented (step + 1)) (depth + 1) members) := by
  cases members with
  | nil => exact Text.Printable.nil.margined
  | cons member members =>
      obtain ⟨key, value⟩ := member
      have front := (margined_lineBreak step depth).append (printable_quote key).margined
      have inside := (front.append (margined_colon step)).append (margined_render value step (depth + 1))
      exact (inside.append (margined_renderMembers members step depth)).cons (by decide)
termination_by structural members

end

/-- **The lines of an object in indented text** each start with a space or a bracket. -/
theorem opening_of_mem_indented (members : List (String × Json)) (step : Nat) {line : List Char}
    (listed : line ∈ Text.lines ((Json.object members).indented (step + 1)).toList) :
    ∃ c ∈ line.head?, c ∈ Text.openings := by
  rw [indented, String.toList_ofList] at listed
  refine Text.opening_of_mem_lines (margined_render _ step 0) (fun c first => ?_) listed
  have brace : (render (.indented (step + 1)) 0 (.object members)).head? = some '{' := by
    cases members with
    | nil => rfl
    | cons member members => rfl
  rw [brace] at first
  cases first
  decide

end Json

end ManualTraffic
