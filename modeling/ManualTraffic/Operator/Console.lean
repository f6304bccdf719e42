/-
# ManualTraffic.Operator.Console -- where the operator reads and types

A console shows things and hands out the operator's answers one by one.  There are
two: a `ScriptedOperator` answers from a list and remembers what it was shown, and
a `LineConsole` answers with the lines of a text and writes to another.  A dialogue
is written once for both.
-/
import ManualTraffic.Fault
import ManualTraffic.Text.Lines

namespace ManualTraffic

set_option autoImplicit false

/-- Something shown to the operator. -/
inductive Shown where
  /-- A question; the answer follows on the same line. -/
  | ask (question : String)
  /-- A text and a line break. -/
  | print (text : String)
  /-- A text alone. -/
  | write (text : String)
  deriving DecidableEq

/-- What is written to show it. -/
def Shown.text : Shown → String
  | .ask question => question
  | .print text => text ++ "\n"
  | .write text => text

/-- A place where things are shown and answers are taken.  There are at most `left`
answers to come: each one taken leaves fewer, and showing leaves as many. -/
class Console (σ : Type) where
  emit : Shown → σ → σ
  answer? : σ → Option (String × σ)
  left : σ → Nat
  left_answer : ∀ {s t : σ} {answer : String}, answer? s = some (answer, t) → left t < left s
  left_emit : ∀ (shown : Shown) (s : σ), left (emit shown s) = left s

/-! ## An operator with prepared answers -/

/-- The answers not yet taken, and all that was shown. -/
structure ScriptedOperator where
  answers : List String
  shown : List Shown
  deriving DecidableEq

namespace ScriptedOperator

def emit (shown : Shown) (s : ScriptedOperator) : ScriptedOperator :=
  { s with shown := s.shown ++ [shown] }

def answer? (s : ScriptedOperator) : Option (String × ScriptedOperator) :=
  match s.answers with
  | [] => none
  | answer :: rest => some (answer, { s with answers := rest })

instance : Console ScriptedOperator where
  emit := emit
  answer? := answer?
  left s := s.answers.length
  left_answer {s t _} taken := by
    cases s with
    | mk answers shown =>
        cases answers with
        | nil => simp [answer?] at taken
        | cons a rest =>
            simp only [answer?, Option.some.injEq, Prod.mk.injEq] at taken
            simp [← taken.2]
  left_emit _ _ := rfl

end ScriptedOperator

/-! ## A console of lines -/

/-- The input not yet read, and all that was written. -/
structure LineConsole where
  unread : List Char
  written : String
  deriving DecidableEq

namespace LineConsole

def emit (shown : Shown) (s : LineConsole) : LineConsole :=
  { s with written := s.written ++ shown.text }

def answer? (s : LineConsole) : Option (String × LineConsole) :=
  match Text.nextLine? s.unread with
  | none => none
  | some (line, rest) => some (String.ofList line, { s with unread := rest })

instance : Console LineConsole where
  emit := emit
  answer? := answer?
  left s := s.unread.length
  left_answer {s t _} taken := by
    simp only [answer?] at taken
    split at taken
    · simp at taken
    · rename_i line rest next
      simp only [Option.some.injEq, Prod.mk.injEq] at taken
      have short := Text.nextLine?_length_lt next
      simpa [← taken.2] using short
  left_emit _ _ := rfl

end LineConsole

/-! ## Using a console -/

namespace Console

variable {σ : Type} [Console σ]

/-- Shows something. -/
def tell (shown : Shown) : EStateM Fault σ Unit := modify (emit shown)

/-- Shows several things in order. -/
def tellAll : List Shown → EStateM Fault σ Unit
  | [] => pure ()
  | shown :: more => do tell shown; tellAll more

/-- Shows a question and takes the answer; the question stays shown when there is
none. -/
def ask (question : String) : EStateM Fault σ String := do
  tell (.ask question)
  match answer? (← get) with
  | some (answer, rest) => do set rest; pure answer
  | none => throw .inputClosed

end Console

end ManualTraffic
