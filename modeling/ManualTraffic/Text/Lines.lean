/-
# ManualTraffic.Text.Lines -- a text line by line

A line ends at a line feed, at a carriage return with a line feed, or at a lone
carriage return; what follows the last line break is a line if it is not empty.
`nextLine?` takes one line off a text, `lines` is the whole list
(`lines_eq`: the first line, then the lines of the rest).
-/

namespace ManualTraffic

set_option autoImplicit false

namespace Text

/-- The text up to the first line break, and the text after it.  Without a line
break, all of it. -/
def splitLine : List Char → List Char × List Char
  | [] => ([], [])
  | '\n' :: rest => ([], rest)
  | '\r' :: '\n' :: rest => ([], rest)
  | '\r' :: rest => ([], rest)
  | c :: rest => (c :: (splitLine rest).1, (splitLine rest).2)

/-- The first line of a text and the rest; `none` at the end. -/
def nextLine? : List Char → Option (List Char × List Char)
  | [] => none
  | c :: rest => some (splitLine (c :: rest))

theorem splitLine_length_le (text : List Char) : (splitLine text).2.length ≤ text.length := by
  fun_induction splitLine text <;> grind

theorem splitLine_length_lt (c : Char) (rest : List Char) :
    (splitLine (c :: rest)).2.length < (c :: rest).length := by
  generalize text : c :: rest = cs
  fun_cases splitLine cs with
  | case1 => simp at text
  | case2 rest => exact Nat.lt_succ_self rest.length
  | case3 rest => exact Nat.lt_succ_of_lt (Nat.lt_succ_self rest.length)
  | case4 rest => exact Nat.lt_succ_self rest.length
  | case5 d ds => exact Nat.lt_succ_of_le (splitLine_length_le ds)

theorem nextLine?_length_lt {text line rest : List Char}
    (taken : nextLine? text = some (line, rest)) : rest.length < text.length := by
  cases text with
  | nil => simp [nextLine?] at taken
  | cons c cs =>
      have short := splitLine_length_lt c cs
      simp only [nextLine?, Option.some.injEq] at taken
      rw [taken] at short
      exact short

/-- All lines of a text. -/
def lines : List Char → List (List Char)
  | [] => []
  | '\n' :: rest => [] :: lines rest
  | '\r' :: '\n' :: rest => [] :: lines rest
  | '\r' :: rest => [] :: lines rest
  | c :: rest =>
      match lines rest with
      | [] => [[c]]
      | line :: more => (c :: line) :: more

theorem lines_cons (c : Char) (rest : List Char) :
    lines (c :: rest) = (splitLine (c :: rest)).1 :: lines (splitLine (c :: rest)).2 := by
  generalize text : c :: rest = cs
  fun_induction lines cs generalizing c rest with
  | case1 => simp at text
  | case2 => simp [splitLine]
  | case3 => simp [splitLine]
  | case4 rest notFeed => simp [splitLine]
  | case5 d ds notFeed notPair notReturn none_ ih =>
      cases ds with
      | nil => simp [splitLine, lines]
      | cons e es => simp [ih e es rfl] at none_
  | case6 d ds notFeed notPair notReturn line more first ih =>
      cases ds with
      | nil => simp [lines] at first
      | cons e es =>
          rw [ih e es rfl] at first
          obtain ⟨rfl, rfl⟩ := List.cons.inj first
          simp [splitLine]

/-- The lines of a text: the first one, then those of the rest. -/
theorem lines_eq (text : List Char) :
    lines text = match nextLine? text with
      | none => []
      | some (line, rest) => line :: lines rest := by
  cases text with
  | nil => rfl
  | cons c rest => exact lines_cons c rest

end Text

end ManualTraffic
