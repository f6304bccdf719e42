/-
# ManualTraffic.Proofs.Operator.Transcript -- the language of a dialogue

What an operator answers for one statistic is a row of rounds.  A `Round` yields no
value: its text is no whole number, or it is one that the operator takes back, perhaps
after answers that say neither yes nor no.  A `Transcript` is rounds and then an
attempt that is accepted; an `Unfinished` dialogue is rounds and then perhaps an
attempt without a verdict.  Every list of answers starts with a transcript or is an
unfinished dialogue (`exists_transcript_or_unfinished`).

A dialogue runs through either as it is written down, question by question
(`resume_transcript`, `resume_unfinished`).  So it returns a value on transcripts and on
nothing else, and no list of answers starts with two (`askStat_language`).
-/
import ManualTraffic.Proofs.Operator.Resume

namespace ManualTraffic

set_option autoImplicit false

namespace Dialogue

/-! ## Rounds -/

/-- An answer to a confirmation that neither accepts nor rejects. -/
def Unclear (answer : String) : Prop :=
  Answer.accepts answer = false ∧ Answer.rejects answer = false

/-- A value that is put up for confirmation, up to the verdict on it. -/
structure Attempt where
  text : String
  value : Binary64
  unclear : List String
  reads : Answer.integer? text = some value
  undecided : ∀ answer ∈ unclear, Unclear answer

/-- A round that yields no value. -/
inductive Round where
  /-- The text is no whole number. -/
  | misread (text : String) (unread : Answer.integer? text = none)
  /-- The value is taken back. -/
  | discarded (attempt : Attempt) (verdict : String) (rejected : Answer.rejects verdict = true)

/-- A dialogue up to the value it returns. -/
structure Transcript where
  rounds : List Round
  last : Attempt
  verdict : String
  accepted : Answer.accepts verdict = true

/-- The shortest transcript is a zero that is accepted at once. -/
instance : Inhabited Transcript :=
  ⟨⟨[], ⟨"0", .zero, [], by decide +kernel, by simp⟩, "", by decide⟩⟩

/-- A dialogue that waits for an answer: for a value, or for a verdict on the pending
one. -/
structure Unfinished where
  rounds : List Round
  pending : Option Attempt

/-! ## What the operator answers -/

def Attempt.answers (attempt : Attempt) : List String := attempt.text :: attempt.unclear

def Round.answers : Round → List String
  | .misread text _ => [text]
  | .discarded attempt verdict _ => attempt.answers ++ [verdict]

def Transcript.answers (t : Transcript) : List String :=
  t.rounds.flatMap Round.answers ++ (t.last.answers ++ [t.verdict])

/-- The value that a dialogue returns. -/
def Transcript.value (t : Transcript) : Binary64 := t.last.value

def Unfinished.answers (u : Unfinished) : List String :=
  u.rounds.flatMap Round.answers ++
    match u.pending with
    | none => []
    | some attempt => attempt.answers

/-! ## What the operator is shown -/

/-- The question for a statistic. -/
def statQuestion (name : String) : Shown := .ask ("What was the result for '" ++ name ++ "'? ")

/-- The question for the confirmation of a value. -/
def confirmQuestion (value : Binary64) : Shown := .ask ("Is '" ++ value.text ++ "' correct? ")

/-- The question for a value, and for each unclear answer the one that it answered and
what is said about it. -/
def Attempt.shown (name : String) (attempt : Attempt) : List Shown :=
  statQuestion name ::
    attempt.unclear.flatMap fun _ =>
      [confirmQuestion attempt.value, .write "Please respond with 'yes' or 'no' "]

def Round.shown (name : String) : Round → List Shown
  | .misread _ _ =>
      [statQuestion name, .print "That was not a valid integer result. Try again."]
  | .discarded attempt _ _ => attempt.shown name ++ [confirmQuestion attempt.value]

def Transcript.shown (name : String) (t : Transcript) : List Shown :=
  t.rounds.flatMap (Round.shown name) ++ (t.last.shown name ++ [confirmQuestion t.last.value])

def Unfinished.shown (name : String) (u : Unfinished) : List Shown :=
  u.rounds.flatMap (Round.shown name) ++
    match u.pending with
    | none => [statQuestion name]
    | some attempt => attempt.shown name ++ [confirmQuestion attempt.value]

/-! ## Every list of answers is read -/

variable {name answer : String} {answers rest : List String} {waiting : Waiting}
  {shown after : List Shown} {value : Binary64}

/-- The answers start with a transcript or are an unfinished dialogue. -/
def Readable (answers : List String) : Prop :=
  (∃ (t : Transcript) (rest : List String), answers = t.answers ++ rest) ∨
    ∃ u : Unfinished, answers = u.answers

theorem Readable.round (readable : Readable answers) (round : Round) :
    Readable (round.answers ++ answers) := by
  rcases readable with ⟨t, rest, rfl⟩ | ⟨u, rfl⟩
  · exact .inl ⟨{ t with rounds := round :: t.rounds }, rest, by simp [Transcript.answers]⟩
  · exact .inr ⟨{ u with rounds := round :: u.rounds }, by simp [Unfinished.answers]⟩

/-- An attempt after one more unclear answer. -/
def Attempt.unclearly (attempt : Attempt) (unclear : Unclear answer) : Attempt :=
  { attempt with
    unclear := attempt.unclear ++ [answer]
    undecided := by
      intro other member
      rcases List.mem_append.1 member with earlier | last
      · exact attempt.undecided other earlier
      · exact List.mem_singleton.1 last ▸ unclear }

/-- Answers are read from a question for a value, and behind an attempt from the question
for its confirmation. -/
theorem readable_from (answers : List String) :
    Readable answers ∧ ∀ attempt : Attempt, Readable (attempt.answers ++ answers) := by
  induction answers with
  | nil =>
      refine ⟨.inr ⟨⟨[], none⟩, rfl⟩, fun attempt => .inr ⟨⟨[], some attempt⟩, ?_⟩⟩
      simp [Unfinished.answers]
  | cons answer answers ih =>
      obtain ⟨fromValue, fromAttempt⟩ := ih
      constructor
      · cases reads : Answer.integer? answer with
        | none => exact fromValue.round (.misread answer reads)
        | some value => exact fromAttempt ⟨answer, value, [], reads, by simp⟩
      · intro attempt
        cases accepted : Answer.accepts answer with
        | true =>
            refine .inl ⟨⟨[], attempt, answer, accepted⟩, answers, ?_⟩
            simp [Transcript.answers]
        | false =>
            cases rejected : Answer.rejects answer with
            | true =>
                have discarded := fromValue.round (.discarded attempt answer rejected)
                simpa [Round.answers] using discarded
            | false =>
                have unclear := fromAttempt (attempt.unclearly ⟨accepted, rejected⟩)
                simpa [Attempt.answers, Attempt.unclearly] using unclear

theorem readable (answers : List String) : Readable answers := (readable_from answers).1

/-! ## Running through a transcript -/

theorem emitAll_scripted (more : List Shown) :
    Console.emitAll more (⟨answers, shown⟩ : ScriptedOperator) = ⟨answers, shown ++ more⟩ := by
  induction more generalizing shown with
  | nil => simp [Console.emitAll]
  | cons one more ih =>
      have later : Console.emitAll more ⟨answers, shown ++ [one]⟩ =
          (⟨answers, shown ++ [one] ++ more⟩ : ScriptedOperator) := ih
      rw [List.append_assoc] at later
      exact later

theorem resume_nil :
    resume name waiting (⟨[], shown⟩ : ScriptedOperator) =
      .error .inputClosed ⟨[], shown ++ [.ask (waiting.question name)]⟩ := resume_eq

/-- One answer of a prepared operator. -/
theorem resume_cons :
    resume name waiting (⟨answer :: rest, shown⟩ : ScriptedOperator) =
      match waiting.reply answer with
      | .accepted value => .ok value ⟨rest, shown ++ [.ask (waiting.question name)]⟩
      | .goOn next more =>
          resume name next ⟨rest, shown ++ .ask (waiting.question name) :: more⟩ := by
  have taken : Console.answer? (Console.emit (.ask (waiting.question name))
      (⟨answer :: rest, shown⟩ : ScriptedOperator)) =
        some (answer, ⟨rest, shown ++ [.ask (waiting.question name)]⟩) := rfl
  rw [resume_eq, taken]
  simp only
  cases waiting.reply answer with
  | accepted value => rfl
  | goOn next more =>
      simp only [emitAll_scripted, List.append_assoc, List.singleton_append]

theorem resume_unclear {unclear : List String} (undecided : ∀ answer ∈ unclear, Unclear answer) :
    resume name (.confirmation value) (⟨unclear ++ rest, shown⟩ : ScriptedOperator) =
      resume name (.confirmation value)
        ⟨rest, shown ++ unclear.flatMap fun _ =>
          [confirmQuestion value, .write "Please respond with 'yes' or 'no' "]⟩ := by
  induction unclear generalizing shown with
  | nil => simp
  | cons answer unclear ih =>
      obtain ⟨⟨notAccepted, notRejected⟩, undecided⟩ := List.forall_mem_cons.1 undecided
      rw [List.cons_append, resume_cons]
      simp only [Waiting.reply, notAccepted, notRejected, Bool.false_eq_true, if_false]
      rw [ih undecided, List.flatMap_cons, List.append_assoc]
      rfl

theorem resume_attempt (attempt : Attempt) :
    resume name .value (⟨attempt.answers ++ rest, shown⟩ : ScriptedOperator) =
      resume name (.confirmation attempt.value) ⟨rest, shown ++ attempt.shown name⟩ := by
  rw [Attempt.answers, List.cons_append, resume_cons]
  simp only [Waiting.reply, attempt.reads]
  rw [resume_unclear attempt.undecided, List.append_assoc]
  rfl

/-- What is rejected is not accepted. -/
theorem accepts_of_rejects (rejected : Answer.rejects answer = true) :
    Answer.accepts answer = false := by
  simp only [Answer.rejects, Answer.rejecting, List.contains_iff_mem, List.mem_cons] at rejected
  rcases rejected with no | n | none
  · rw [Answer.accepts, no]
    decide
  · rw [Answer.accepts, n]
    decide
  · cases none

theorem resume_round (round : Round) :
    resume name .value (⟨round.answers ++ rest, shown⟩ : ScriptedOperator) =
      resume name .value ⟨rest, shown ++ round.shown name⟩ := by
  cases round with
  | misread text unread =>
      rw [Round.answers, List.singleton_append, resume_cons]
      simp only [Waiting.reply, unread]
      rfl
  | discarded attempt verdict rejected =>
      rw [Round.answers, List.append_assoc, resume_attempt, List.singleton_append, resume_cons]
      simp only [Waiting.reply, accepts_of_rejects rejected, rejected, Bool.false_eq_true, if_false,
        if_true, List.append_assoc]
      rfl

theorem resume_rounds (rounds : List Round) :
    resume name .value (⟨rounds.flatMap Round.answers ++ rest, shown⟩ : ScriptedOperator) =
      resume name .value ⟨rest, shown ++ rounds.flatMap (Round.shown name)⟩ := by
  induction rounds generalizing shown with
  | nil => simp
  | cons round rounds ih =>
      rw [List.flatMap_cons, List.append_assoc, resume_round, ih, List.flatMap_cons,
        List.append_assoc]

/-- A dialogue returns the value of a transcript and leaves what stands behind it. -/
theorem resume_transcript (t : Transcript) :
    resume name .value (⟨t.answers ++ rest, shown⟩ : ScriptedOperator) =
      .ok t.value ⟨rest, shown ++ t.shown name⟩ := by
  rw [Transcript.answers, List.append_assoc, resume_rounds, List.append_assoc, resume_attempt,
    List.singleton_append, resume_cons]
  simp only [Waiting.reply, t.accepted, if_true, List.append_assoc]
  rfl

/-- An unfinished dialogue takes all answers and fails at its last question. -/
theorem resume_unfinished (u : Unfinished) :
    resume name .value (⟨u.answers, shown⟩ : ScriptedOperator) =
      .error .inputClosed ⟨[], shown ++ u.shown name⟩ := by
  obtain ⟨rounds, pending⟩ := u
  cases pending with
  | none =>
      rw [Unfinished.answers, resume_rounds, resume_nil, List.append_assoc]
      rfl
  | some attempt =>
      have toVerdict : ∀ shown, resume name .value (⟨attempt.answers, shown⟩ : ScriptedOperator) =
          resume name (.confirmation attempt.value) ⟨[], shown ++ attempt.shown name⟩ := by
        intro shown
        rw [← resume_attempt, List.append_nil]
      rw [Unfinished.answers, resume_rounds]
      simp only
      rw [toVerdict, resume_nil, List.append_assoc, List.append_assoc]
      rfl

/-! ## The language -/

/-- A dialogue returns on the transcripts that the answers start with, and on nothing
else. -/
theorem askStat_eq_ok_iff :
    askStat name (⟨answers, shown⟩ : ScriptedOperator) = .ok value ⟨rest, after⟩ ↔
      ∃ t : Transcript, t.value = value ∧ answers = t.answers ++ rest ∧
        after = shown ++ t.shown name := by
  rw [askStat_eq_resume]
  constructor
  · intro returned
    rcases readable answers with ⟨t, behind, rfl⟩ | ⟨u, rfl⟩
    · rw [resume_transcript] at returned
      cases returned
      exact ⟨t, rfl, rfl, rfl⟩
    · rw [resume_unfinished] at returned
      cases returned
  · rintro ⟨t, rfl, rfl, rfl⟩
    exact resume_transcript t

/-- A dialogue fails on unfinished dialogues, and on nothing else. -/
theorem askStat_eq_error_iff {fault : Fault} :
    askStat name (⟨answers, shown⟩ : ScriptedOperator) = .error fault ⟨rest, after⟩ ↔
      fault = .inputClosed ∧ rest = [] ∧
        ∃ u : Unfinished, answers = u.answers ∧ after = shown ++ u.shown name := by
  rw [askStat_eq_resume]
  constructor
  · intro failed
    rcases readable answers with ⟨t, behind, rfl⟩ | ⟨u, rfl⟩
    · rw [resume_transcript] at failed
      cases failed
    · rw [resume_unfinished] at failed
      cases failed
      exact ⟨rfl, rfl, u, rfl, rfl⟩
  · rintro ⟨rfl, rfl, u, rfl, rfl⟩
    exact resume_unfinished u

/-- No list of answers starts with two transcripts. -/
theorem transcript_unique {s t : Transcript} (first : s.answers <+: answers)
    (second : t.answers <+: answers) : s.answers = t.answers := by
  obtain ⟨behind, rfl⟩ := first
  obtain ⟨rest, same⟩ := second
  have returned : resume "" .value (⟨s.answers ++ behind, []⟩ : ScriptedOperator) =
      .ok s.value ⟨behind, [] ++ s.shown ""⟩ := resume_transcript s
  rw [← same, resume_transcript] at returned
  simp only [EStateM.Result.ok.injEq, ScriptedOperator.mk.injEq] at returned
  obtain ⟨-, rfl, -⟩ := returned
  exact (List.append_cancel_right same).symm

/-! ## Questions -/

def isQuestion : Shown → Bool
  | .ask _ => true
  | _ => false

theorem questions_unclear (unclear : List String) :
    (unclear.flatMap fun _ =>
      [confirmQuestion value, .write "Please respond with 'yes' or 'no' "]).countP isQuestion =
        unclear.length := by
  induction unclear with
  | nil => rfl
  | cons answer unclear ih =>
      rw [List.flatMap_cons, List.countP_append, ih, List.length_cons, Nat.add_comm]
      rfl

theorem questions_attempt (attempt : Attempt) :
    (attempt.shown name).countP isQuestion = attempt.answers.length := by
  rw [Attempt.shown, Attempt.answers, List.countP_cons, questions_unclear]
  rfl

theorem questions_round (round : Round) :
    (round.shown name).countP isQuestion = round.answers.length := by
  cases round with
  | misread text unread => rfl
  | discarded attempt verdict rejected =>
      simp only [Round.shown, Round.answers, List.countP_append, List.length_append,
        questions_attempt]
      rfl

theorem questions_rounds (rounds : List Round) :
    (rounds.flatMap (Round.shown name)).countP isQuestion =
      (rounds.flatMap Round.answers).length := by
  induction rounds with
  | nil => rfl
  | cons round rounds ih =>
      rw [List.flatMap_cons, List.flatMap_cons, List.countP_append, List.length_append,
        questions_round, ih]

/-- Each answer of a transcript answers one question. -/
theorem questions_transcript (t : Transcript) :
    (t.shown name).countP isQuestion = t.answers.length := by
  simp only [Transcript.shown, Transcript.answers, List.countP_append, List.length_append,
    questions_rounds, questions_attempt]
  rfl

/-- The last question of an unfinished dialogue has no answer, and it is the last thing
shown. -/
theorem questions_unfinished (u : Unfinished) :
    (u.shown name).countP isQuestion = u.answers.length + 1 ∧
      ∃ before question, u.shown name = before ++ [.ask question] := by
  obtain ⟨rounds, pending⟩ := u
  cases pending with
  | none =>
      refine ⟨?_, rounds.flatMap (Round.shown name), _, rfl⟩
      simp only [Unfinished.shown, Unfinished.answers, List.countP_append, List.length_append,
        questions_rounds]
      rfl
  | some attempt =>
      refine ⟨?_, rounds.flatMap (Round.shown name) ++ attempt.shown name, _,
        (List.append_assoc _ _ _).symm⟩
      simp only [Unfinished.shown, Unfinished.answers, List.countP_append, List.length_append,
        questions_rounds, questions_attempt]
      rfl

/-- **The language of a dialogue.**  A dialogue returns a value after some answers exactly
when these are a transcript of that value; no list of answers starts with two.  Where
none does, the dialogue takes all answers, and the input is closed at its last question.
What is shown follows the rounds, and each answer taken answers one question. -/
theorem askStat_language (name : String) (answers : List String) (shown : List Shown) :
    (∀ value rest after,
        askStat name (⟨answers, shown⟩ : ScriptedOperator) = .ok value ⟨rest, after⟩ ↔
          ∃ t : Transcript, t.value = value ∧ answers = t.answers ++ rest ∧
            after = shown ++ t.shown name) ∧
      (∀ s t : Transcript, s.answers <+: answers → t.answers <+: answers →
        s.answers = t.answers) ∧
      (∀ fault rest after,
        askStat name (⟨answers, shown⟩ : ScriptedOperator) = .error fault ⟨rest, after⟩ ↔
          fault = .inputClosed ∧ rest = [] ∧
            ∃ u : Unfinished, answers = u.answers ∧ after = shown ++ u.shown name) ∧
      ((∃ after, askStat name (⟨answers, shown⟩ : ScriptedOperator) =
          .error .inputClosed ⟨[], after⟩) ↔ ∀ t : Transcript, ¬t.answers <+: answers) ∧
      (∀ t : Transcript, (t.shown name).countP isQuestion = t.answers.length) ∧
      (∀ u : Unfinished, (u.shown name).countP isQuestion = u.answers.length + 1 ∧
        ∃ before question, u.shown name = before ++ [.ask question]) ∧
      ∀ answer,
        (Answer.accepts answer = true ↔ Text.lower answer ∈ ["", "y", "ye", "yes"]) ∧
        (Answer.rejects answer = true ↔ Text.lower answer ∈ ["n", "no"]) := by
  refine ⟨fun _ _ _ => askStat_eq_ok_iff, fun _ _ => transcript_unique,
    fun _ _ _ => askStat_eq_error_iff, ?_, questions_transcript, questions_unfinished, ?_⟩
  · constructor
    · rintro ⟨after, failed⟩ t ⟨rest, rfl⟩
      rw [askStat_eq_resume, resume_transcript] at failed
      cases failed
    · intro none_starts
      rcases readable answers with ⟨t, rest, rfl⟩ | ⟨u, rfl⟩
      · exact absurd ⟨rest, rfl⟩ (none_starts t)
      · exact ⟨_, askStat_eq_error_iff.2 ⟨rfl, rfl, u, rfl, rfl⟩⟩
  · intro answer
    have accepting : Answer.accepting.Perm ["", "y", "ye", "yes"] := by decide
    have rejecting : Answer.rejecting.Perm ["n", "no"] := by decide
    exact ⟨List.contains_iff_mem.trans accepting.mem_iff,
      List.contains_iff_mem.trans rejecting.mem_iff⟩

end Dialogue

end ManualTraffic
