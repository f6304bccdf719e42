/-
# ManualTraffic.Proofs.Operator.Lines -- a console of lines is an operator with its lines

A console of lines answers with the lines of its text, one by one, and what it writes is
what an operator with these answers is shown (`Scripts`).  The two are in step, so every
list of calls has the same outcomes on both, and each call writes what it shows
(`calls_on_lines`).

Which lines a text has is known from how it is written.  It is a row of lines, each with
the break that ends it, and perhaps a last line without one; only where a carriage return
meets a line feed of its own are two breaks one (`Legible`).  Every text is written so
(`exists_written`), and its lines are the lines that it is written from (`lines_written`).
-/
import ManualTraffic.Proofs.Operator.Pairing
import Mathlib.Data.List.Chain
import Mathlib.Data.List.Forall2

namespace ManualTraffic

set_option autoImplicit false

/-! ## Lines with their breaks -/

namespace Text

/-- What ends a line. -/
inductive LineBreak where
  | feed
  | carriage
  /-- A carriage return and a line feed. -/
  | both
  deriving DecidableEq

def LineBreak.text : LineBreak → List Char
  | .feed => ['\n']
  | .carriage => ['\r']
  | .both => ['\r', '\n']

/-- A line and the break behind it. -/
structure EndedLine where
  line : List Char
  ending : LineBreak
  deriving DecidableEq

/-- The text of lines with their breaks. -/
def written (ended : List EndedLine) : List Char :=
  ended.flatMap fun one => one.line ++ one.ending.text

/-- A text with no line break in it. -/
def Unbroken (text : List Char) : Prop := '\r' ∉ text ∧ '\n' ∉ text

/-- A carriage return and the feed of an empty line behind it, which are one break. -/
def Merges (first second : EndedLine) : Prop :=
  first.ending = .carriage ∧ second.line = [] ∧ second.ending = .feed

/-- Lines without breaks inside, none of whose breaks merge. -/
structure Legible (ended : List EndedLine) : Prop where
  unbroken : ∀ one ∈ ended, Unbroken one.line
  apart : ended.IsChain fun first second => ¬Merges first second

instance (text : List Char) : Decidable (Unbroken text) :=
  inferInstanceAs (Decidable ('\r' ∉ text ∧ '\n' ∉ text))

instance (first second : EndedLine) : Decidable (Merges first second) :=
  inferInstanceAs
    (Decidable (first.ending = .carriage ∧ second.line = [] ∧ second.ending = .feed))

/-- The lines of a text that is written from lines with breaks and a last line without one,
which counts if it is not empty. -/
def linesOf (ended : List EndedLine) (tail : List Char) : List (List Char) :=
  ended.map EndedLine.line ++ if tail = [] then [] else [tail]

variable {ended : List EndedLine} {one : EndedLine} {line tail rest text : List Char}

theorem written_cons :
    written (one :: ended) = one.line ++ (one.ending.text ++ written ended) := by
  rw [written, List.flatMap_cons, List.append_assoc, written]

theorem unbroken_cons {c : Char} :
    Unbroken (c :: line) ↔ c ≠ '\r' ∧ c ≠ '\n' ∧ Unbroken line := by
  simp only [Unbroken, List.mem_cons, not_or, ne_eq, eq_comm]
  tauto

/-! ## The first line -/

theorem splitLine_cons {c : Char} (notReturn : c ≠ '\r') (notFeed : c ≠ '\n') :
    splitLine (c :: rest) = (c :: (splitLine rest).1, (splitLine rest).2) := by
  rw [splitLine]
  · exact notFeed
  · intro more same
    exact absurd same notReturn
  · exact notReturn

theorem splitLine_of_unbroken (unbroken : Unbroken line) :
    splitLine (line ++ rest) = (line ++ (splitLine rest).1, (splitLine rest).2) := by
  induction line with
  | nil => rfl
  | cons c line ih =>
      obtain ⟨notReturn, notFeed, unbroken⟩ := unbroken_cons.1 unbroken
      rw [List.cons_append, splitLine_cons notReturn notFeed, ih unbroken]
      rfl

/-- A break ends its line, unless it is a carriage return with a feed behind it. -/
theorem splitLine_break {ending : LineBreak}
    (apart : ending = .carriage → rest.head? ≠ some '\n') :
    splitLine (ending.text ++ rest) = ([], rest) := by
  cases ending with
  | feed => rfl
  | both => rfl
  | carriage =>
      cases rest with
      | nil => rfl
      | cons c rest =>
          have notFeed : c ≠ '\n' := by simpa using apart rfl
          show splitLine ('\r' :: c :: rest) = ([], c :: rest)
          simp [splitLine, notFeed]

theorem lines_of_ne_nil (there : text ≠ []) :
    lines text = (splitLine text).1 :: lines (splitLine text).2 := by
  cases text with
  | nil => exact absurd rfl there
  | cons c rest => exact lines_cons c rest

/-- The first line of a text that is written from lines. -/
theorem lines_ended (unbroken : Unbroken line) {ending : LineBreak}
    (apart : ending = .carriage → rest.head? ≠ some '\n') :
    lines (line ++ (ending.text ++ rest)) = line :: lines rest := by
  have there : line ++ (ending.text ++ rest) ≠ [] := by
    cases ending <;> simp [LineBreak.text]
  rw [lines_of_ne_nil there, splitLine_of_unbroken unbroken, splitLine_break apart,
    List.append_nil]

/-! ## All lines -/

theorem lines_unbroken (unbroken : Unbroken tail) :
    lines tail = if tail = [] then [] else [tail] := by
  by_cases empty : tail = []
  · rw [if_pos empty, empty]
    rfl
  · have alone : splitLine (tail ++ []) = _ := splitLine_of_unbroken unbroken
    rw [List.append_nil] at alone
    rw [if_neg empty, lines_of_ne_nil empty, alone]
    simp [splitLine, lines]

/-- No feed stands at the front of a text, unless an empty line that ends with one does. -/
theorem head?_written (unbroken : ∀ one ∈ ended, Unbroken one.line) (tailFree : Unbroken tail)
    (apart : ∀ first ∈ ended.head?, ¬(first.line = [] ∧ first.ending = .feed)) :
    (written ended ++ tail).head? ≠ some '\n' := by
  have starts : ∀ {c : Char} {line : List Char}, Unbroken (c :: line) → c ≠ '\n' :=
    fun free => (unbroken_cons.1 free).2.1
  cases ended with
  | nil =>
      cases tail with
      | nil => simp [written]
      | cons c tail => simpa [written] using starts tailFree
  | cons first more =>
      obtain ⟨line, ending⟩ := first
      have free : Unbroken line := unbroken _ List.mem_cons_self
      have notFeed := apart _ rfl
      rw [written_cons]
      cases line with
      | nil => cases ending <;> simp_all [LineBreak.text]
      | cons c line => simpa using starts free

/-- **The lines of a text are the lines that it is written from.** -/
theorem lines_written (legible : Legible ended) (tailFree : Unbroken tail) :
    lines (written ended ++ tail) = linesOf ended tail := by
  induction ended with
  | nil => exact lines_unbroken tailFree
  | cons one ended ih =>
      obtain ⟨free, unbroken⟩ := List.forall_mem_cons.1 legible.unbroken
      obtain ⟨here, apart⟩ := List.isChain_cons.1 legible.apart
      have later := ih ⟨unbroken, apart⟩
      rw [written_cons, List.append_assoc, List.append_assoc, lines_ended free, later]
      · rfl
      · intro carriage
        refine head?_written unbroken tailFree fun next there => ?_
        rintro ⟨empty, feed⟩
        exact here next there ⟨carriage, empty, feed⟩

/-! ## Every text is written from lines -/

/-- A text has no break, or it starts with a line, and with the break that ends it. -/
theorem unbroken_or_ended (text : List Char) :
    Unbroken text ∨ ∃ line ending rest, Unbroken line ∧
      text = line ++ (LineBreak.text ending ++ rest) ∧
      (ending = .carriage → rest.head? ≠ some '\n') := by
  induction text with
  | nil => exact .inl ⟨List.not_mem_nil, List.not_mem_nil⟩
  | cons c text ih =>
      have nothing : Unbroken [] := ⟨List.not_mem_nil, List.not_mem_nil⟩
      by_cases feed : c = '\n'
      · subst feed
        exact .inr ⟨[], .feed, text, nothing, rfl, nofun⟩
      · by_cases carriage : c = '\r'
        · subst carriage
          by_cases paired : text.head? = some '\n'
          · obtain ⟨rest, rfl⟩ := List.head?_eq_some_iff.1 paired
            exact .inr ⟨[], .both, rest, nothing, rfl, nofun⟩
          · exact .inr ⟨[], .carriage, text, nothing, rfl, fun _ => paired⟩
        · rcases ih with unbroken | ⟨line, ending, rest, unbroken, rfl, apart⟩
          · exact .inl (unbroken_cons.2 ⟨carriage, feed, unbroken⟩)
          · exact .inr ⟨c :: line, ending, rest, unbroken_cons.2 ⟨carriage, feed, unbroken⟩, rfl,
              apart⟩

theorem exists_written (text : List Char) :
    ∃ ended tail, Legible ended ∧ Unbroken tail ∧ text = written ended ++ tail := by
  induction count : text.length using Nat.strongRecOn generalizing text with
  | ind n ih =>
      rcases unbroken_or_ended text with unbroken | ⟨line, ending, rest, unbroken, rfl, apart⟩
      · exact ⟨[], text, ⟨List.forall_mem_nil _, .nil⟩, unbroken, rfl⟩
      · have fewer : rest.length < n := by
          have some_break : 0 < ending.text.length := by cases ending <;> decide
          simp only [List.length_append] at count
          omega
        obtain ⟨ended, tail, legible, tailFree, same⟩ := ih _ fewer rest rfl
        refine ⟨⟨line, ending⟩ :: ended, tail, ⟨?_, ?_⟩, tailFree, ?_⟩
        · exact List.forall_mem_cons.2 ⟨unbroken, legible.unbroken⟩
        · refine List.isChain_cons.2 ⟨fun next there merges => ?_, legible.apart⟩
          -- the feed of an empty line behind the break would stand in front of the rest
          obtain ⟨carriage, empty, feed⟩ := merges
          obtain ⟨more, rfl⟩ := List.head?_eq_some_iff.1 there
          refine apart carriage ?_
          rw [same, written_cons, empty, feed]
          rfl
        · rw [written_cons, List.append_assoc, List.append_assoc, ← same]

end Text

/-! ## A console and its script -/

/-- What is written to show several things. -/
def Shown.render (shown : List Shown) : String := String.join (shown.map Shown.text)

theorem Shown.render_append_one (shown : List Shown) (one : Shown) :
    render (shown ++ [one]) = render shown ++ one.text := by
  rw [render, List.map_append, String.join, List.foldl_append]
  rfl

/-- A console of lines, and an operator whose answers are the lines still to come and who
was shown what is written. -/
structure Scripts (console : LineConsole) (operator : ScriptedOperator) : Prop where
  answers : operator.answers = (Text.lines console.unread).map String.ofList
  written : console.written = Shown.render operator.shown

theorem scripts_inStep : InStep Scripts fun _ => False where
  shown {console operator} scripts shown := by
    refine ⟨scripts.answers, ?_⟩
    show console.written ++ shown.text = Shown.render (operator.shown ++ [shown])
    rw [scripts.written, Shown.render_append_one]
  taken {console operator answer rest} scripts taken := by
    simp only [Console.answer?, LineConsole.answer?] at taken
    split at taken
    · cases taken
    · rename_i line more next
      cases taken
      have answers := scripts.answers
      rw [Text.lines_eq, next] at answers
      refine ⟨⟨(Text.lines more).map String.ofList, operator.shown⟩, ?_, ⟨rfl, scripts.written⟩⟩
      simp only [Console.answer?, ScriptedOperator.answer?, answers, List.map_cons]
  closed {console operator} scripts closed := by
    simp only [Console.answer?, LineConsole.answer?] at closed
    split at closed
    · rename_i ended
      have answers := scripts.answers
      rw [Text.lines_eq, ended] at answers
      refine .inl ?_
      simp only [Console.answer?, ScriptedOperator.answer?, answers, List.map_nil]
    · cases closed

namespace ConsoleCall

/-- A call had the same outcome on a console of lines and on an operator, and wrote what it
showed. -/
structure SameAccount (onLines : Except Fault ConsoleResult × LineConsole)
    (onScript : Except Fault ConsoleResult × ScriptedOperator) : Prop where
  outcome : onLines.1 = onScript.1
  console : Scripts onLines.2 onScript.2

theorem accounts_scripts {console : LineConsole} {operator : ScriptedOperator}
    (scripts : Scripts console operator) (calls : List ConsoleCall) :
    List.Forall₂ SameAccount (accounts LineConsole.cleared console calls)
      (accounts ScriptedOperator.cleared operator calls) := by
  induction calls generalizing console operator with
  | nil => exact .nil
  | cons call calls ih =>
      have cleared : Scripts console.cleared operator.cleared := ⟨scripts.answers, rfl⟩
      have agree := scripts_inStep.run call _ _ cleared
      rw [accounts, accounts]
      generalize call.run console.cleared = onLines at agree
      generalize call.run operator.cleared = onScript at agree
      cases agree with
      | ok related => exact .cons ⟨rfl, related⟩ (ih related)
      | error related => exact .cons ⟨rfl, related⟩ (ih related)
      | excused excuse => exact excuse.elim

theorem accounts_of_lines (input : List Char) (calls : List ConsoleCall) :
    List.Forall₂ SameAccount (accounts LineConsole.cleared ⟨input, ""⟩ calls)
      (accounts ScriptedOperator.cleared ⟨(Text.lines input).map String.ofList, []⟩ calls) :=
  accounts_scripts ⟨rfl, rfl⟩ calls

theorem outcomes_of_same {onLines : List (Except Fault ConsoleResult × LineConsole)}
    {onScript : List (Except Fault ConsoleResult × ScriptedOperator)}
    (same : List.Forall₂ SameAccount onLines onScript) :
    onLines.map Prod.fst = onScript.map Prod.fst := by
  induction same with
  | nil => rfl
  | cons here _ ih => exact congr (congrArg List.cons here.outcome) ih

/-! ## Questions alone -/

/-- What the question at a place finds among answers. -/
def found (answers : List String) (place : Nat) : Except Fault ConsoleResult :=
  match answers[place]? with
  | some answer => .ok (.answer answer)
  | none => .error .inputClosed

theorem outcomes_asks (answers : List String) (shown : List Shown) (questions : List String) :
    (accounts ScriptedOperator.cleared ⟨answers, shown⟩ (questions.map .ask)).map Prod.fst =
      (List.range questions.length).map (found answers) := by
  induction questions generalizing answers shown with
  | nil => rfl
  | cons question questions ih =>
      rw [List.map_cons, List.length_cons, List.range_succ_eq_map, List.map_cons, List.map_map]
      cases answers with
      | nil =>
          have later := ih [] [.ask question]
          exact congrArg (Except.error Fault.inputClosed :: ·) later
      | cons answer answers =>
          have later := ih answers [.ask question]
          exact congrArg (Except.ok (ConsoleResult.answer answer) :: ·) later

/-- **A console of lines does what an operator with its lines does.**  Every list of calls,
whichever of them fail, has the same outcomes on both, and each call writes what the
operator is shown.  Every text is written from lines with breaks and a last line without one,
and its lines are these, the last one only if it is not empty; so questions find the lines
that were written, each with any break, in order and then nothing any more. -/
theorem calls_on_lines :
    (∀ (input : List Char) (calls : List ConsoleCall),
        List.Forall₂ SameAccount (accounts LineConsole.cleared ⟨input, ""⟩ calls)
          (accounts ScriptedOperator.cleared
            ⟨(Text.lines input).map String.ofList, []⟩ calls)) ∧
      (∀ input : List Char, ∃ ended tail, Text.Legible ended ∧ Text.Unbroken tail ∧
        input = Text.written ended ++ tail) ∧
      (∀ (ended : List Text.EndedLine) (tail : List Char), Text.Legible ended →
        Text.Unbroken tail →
        Text.lines (Text.written ended ++ tail) = Text.linesOf ended tail) ∧
      ∀ (ended : List Text.EndedLine) (questions : List String), Text.Legible ended →
        (accounts LineConsole.cleared ⟨Text.written ended, ""⟩ (questions.map .ask)).map
            Prod.fst =
          (List.range questions.length).map
            (found (ended.map fun one => String.ofList one.line)) := by
  refine ⟨accounts_of_lines, Text.exists_written, fun ended tail => Text.lines_written,
    fun ended questions legible => ?_⟩
  have lines : Text.lines (Text.written ended) = ended.map Text.EndedLine.line := by
    have tailFree : Text.Unbroken [] := ⟨List.not_mem_nil, List.not_mem_nil⟩
    have all := Text.lines_written legible tailFree
    simpa [Text.linesOf] using all
  have answers : (Text.lines (Text.written ended)).map String.ofList =
      ended.map fun one => String.ofList one.line := by
    rw [lines, List.map_map]
    rfl
  have outcomes := outcomes_of_same (accounts_of_lines (Text.written ended) (questions.map .ask))
  rw [outcomes, answers, outcomes_asks]

/-- Four lines, two of them empty, with all three breaks. -/
theorem calls_on_lines_mixed_breaks :
    let ended : List Text.EndedLine :=
      [⟨['7'], .carriage⟩, ⟨[], .carriage⟩, ⟨['8'], .both⟩, ⟨[], .feed⟩]
    Text.written ended = ['7', '\r', '\r', '8', '\r', '\n', '\n'] ∧ Text.Legible ended ∧
      (accounts LineConsole.cleared ⟨Text.written ended, ""⟩
          (["a", "b", "c", "d", "e"].map .ask)).map Prod.fst =
        [.ok (.answer "7"), .ok (.answer ""), .ok (.answer "8"), .ok (.answer ""),
          .error .inputClosed] := by
  intro ended
  have legible : Text.Legible ended := ⟨by decide, by decide⟩
  exact ⟨rfl, legible, calls_on_lines.2.2.2 ended ["a", "b", "c", "d", "e"] legible⟩

/-- A carriage return and the feed of an empty line behind it end one line. -/
example : Text.lines (Text.written [⟨['7'], .carriage⟩, ⟨[], .feed⟩]) = [['7']] := rfl

end ConsoleCall

end ManualTraffic
