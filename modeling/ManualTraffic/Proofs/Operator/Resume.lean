/-
# ManualTraffic.Proofs.Operator.Resume -- a dialogue without its fuel

Each answer costs a dialogue one of its fuel, and it starts with more fuel than there
are answers.  So the fuel never ends it: with more fuel than answers the amount makes
no difference (`stat_fuel`), and a dialogue is the machine `Waiting` fed with one
answer after another (`resume_eq`).
-/
import ManualTraffic.Operator.Dialogue
import ManualTraffic.Proofs.Sequence

namespace ManualTraffic

set_option autoImplicit false

variable {σ : Type} [Console σ]

namespace Console

/-- A console after several things were shown in order. -/
def emitAll (shown : List Shown) (s : σ) : σ := shown.foldl (fun s one => emit one s) s

theorem left_emitAll (shown : List Shown) (s : σ) : left (emitAll shown s) = left s := by
  induction shown generalizing s with
  | nil => rfl
  | cons one more ih => exact (ih (emit one s)).trans (left_emit one s)

theorem tellAll_eq (shown : List Shown) (s : σ) :
    tellAll shown s = .ok () (emitAll shown s) := by
  induction shown generalizing s with
  | nil => rfl
  | cons one more ih => exact ih (emit one s)

theorem ask_eq (question : String) (s : σ) :
    ask question s =
      match answer? (emit (.ask question) s) with
      | some (answer, t) => .ok answer t
      | none => .error .inputClosed (emit (.ask question) s) := by
  have same : ask question s =
      (match answer? (emit (.ask question) s) with
        | some (answer, rest) => (do set rest; pure answer : EStateM Fault σ String)
        | none => throw Fault.inputClosed) (emit (.ask question) s) := rfl
  rw [same]
  cases answer? (emit (.ask question) s) <;> rfl

/-- An answer that is taken leaves fewer, whatever is shown before and after it. -/
theorem left_taken {shown : Shown} {answer : String} {s t : σ}
    (taken : answer? (emit shown s) = some (answer, t)) (more : List Shown) :
    left (emitAll more t) < left s := by
  have fewer := left_answer taken
  rwa [left_emit, ← left_emitAll more t] at fewer

end Console

namespace Dialogue

variable {name : String} {waiting : Waiting} {fuel : Nat} {s : σ}

/-- One answer of a dialogue. -/
theorem stat_succ :
    stat name (fuel + 1) waiting s =
      match Console.answer? (Console.emit (.ask (waiting.question name)) s) with
      | none => .error .inputClosed (Console.emit (.ask (waiting.question name)) s)
      | some (answer, t) =>
          match waiting.reply answer with
          | .accepted value => .ok value t
          | .goOn next shown => stat name fuel next (Console.emitAll shown t) := by
  have asked := Console.ask_eq (waiting.question name) s
  rw [stat]
  cases taken : Console.answer? (Console.emit (.ask (waiting.question name)) s) with
  | none =>
      rw [taken] at asked
      exact bind_of_error asked
  | some found =>
      obtain ⟨answer, t⟩ := found
      rw [taken] at asked
      rw [bind_of_ok asked]
      simp only
      cases waiting.reply answer with
      | accepted value => rfl
      | goOn next shown => exact bind_of_ok (Console.tellAll_eq shown t)

/-- A dialogue from where it stands, with fuel for every answer that is left. -/
def resume (name : String) (waiting : Waiting) : EStateM Fault σ Binary64 := fun s =>
  stat name (Console.left s + 1) waiting s

theorem askStat_eq_resume : askStat name = (resume name .value : EStateM Fault σ Binary64) := rfl

/-- Any two amounts of fuel above the answers that are left are as good as each other. -/
theorem stat_fuel {fuel more : Nat} (enough : Console.left s < fuel)
    (plenty : Console.left s < more) : stat name fuel waiting s = stat name more waiting s := by
  induction fuel generalizing more waiting s with
  | zero => omega
  | succ fuel ih =>
      obtain ⟨more, rfl⟩ : ∃ fewer, more = fewer + 1 := ⟨more - 1, by omega⟩
      rw [stat_succ, stat_succ]
      cases taken : Console.answer? (Console.emit (.ask (waiting.question name)) s) with
      | none => rfl
      | some found =>
          obtain ⟨answer, t⟩ := found
          simp only
          cases waiting.reply answer with
          | accepted value => rfl
          | goOn next shown =>
              have fewer := Console.left_taken taken shown
              exact ih (by omega) (by omega)

/-- **A dialogue is its machine**, fed with one answer after another for as long as there
is one. -/
theorem resume_eq :
    resume name waiting s =
      match Console.answer? (Console.emit (.ask (waiting.question name)) s) with
      | none => .error .inputClosed (Console.emit (.ask (waiting.question name)) s)
      | some (answer, t) =>
          match waiting.reply answer with
          | .accepted value => .ok value t
          | .goOn next shown => resume name next (Console.emitAll shown t) := by
  rw [resume, stat_succ]
  cases taken : Console.answer? (Console.emit (.ask (waiting.question name)) s) with
  | none => rfl
  | some found =>
      obtain ⟨answer, t⟩ := found
      simp only
      cases waiting.reply answer with
      | accepted value => rfl
      | goOn next shown =>
          have fewer := Console.left_taken taken shown
          exact stat_fuel (by omega) (by omega)

end Dialogue

end ManualTraffic
