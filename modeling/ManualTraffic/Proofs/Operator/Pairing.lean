/-
# ManualTraffic.Proofs.Operator.Pairing -- a dialogue on two consoles

A dialogue knows its console by two things only: it shows something, and it takes an
answer.  Where a relation of two consoles is kept by the one, and by the other with the
same answer on both sides, the consoles are `InStep`, and the same dialogue on both of them
agrees call by call (`InStep.askStat`, `InStep.announce`, `InStep.run`).  When the first
console has no answer, the second one has none either, unless that is excused.
-/
import ManualTraffic.Operator.Calls
import ManualTraffic.Proofs.Operator.Resume
import ManualTraffic.Proofs.Pairing

namespace ManualTraffic

set_option autoImplicit false

/-- A relation of consoles that showing keeps, and taking an answer, which is the same on
both sides. -/
structure InStep {σ τ : Type} [Console σ] [Console τ] (R : σ → τ → Prop)
    (Excused : Fault → Prop) : Prop where
  shown : ∀ {s t}, R s t → ∀ shown, R (Console.emit shown s) (Console.emit shown t)
  taken : ∀ {s t answer rest}, R s t → Console.answer? s = some (answer, rest) →
    ∃ rest', Console.answer? t = some (answer, rest') ∧ R rest rest'
  closed : ∀ {s t}, R s t → Console.answer? s = none →
    Console.answer? t = none ∨ Excused .inputClosed

/-- A console is in step with itself. -/
theorem eq_inStep {σ : Type} [Console σ] (Excused : Fault → Prop) :
    InStep (Eq : σ → σ → Prop) Excused where
  shown same shown := congrArg (Console.emit shown) same
  taken same taken := ⟨_, same ▸ taken, rfl⟩
  closed same closed := .inl (same ▸ closed)

namespace InStep

variable {σ τ : Type} [Console σ] [Console τ] {R : σ → τ → Prop} {Excused : Fault → Prop}

/-! ## Showing and asking -/

theorem emitAll (inStep : InStep R Excused) {s : σ} {t : τ} (related : R s t)
    (shown : List Shown) : R (Console.emitAll shown s) (Console.emitAll shown t) := by
  induction shown generalizing s t with
  | nil => exact related
  | cons one more ih => exact ih (inStep.shown related one)

theorem tell (inStep : InStep R Excused) (shown : Shown) :
    Paired R Excused (Console.tell shown) (Console.tell shown) :=
  paired_modify fun _ _ related => inStep.shown related shown

theorem tellAll (inStep : InStep R Excused) (shown : List Shown) :
    Paired R Excused (Console.tellAll shown) (Console.tellAll shown) := by
  intro s t related
  rw [Console.tellAll_eq, Console.tellAll_eq]
  exact .ok (inStep.emitAll related shown)

theorem ask (inStep : InStep R Excused) (question : String) :
    Paired R Excused (Console.ask question) (Console.ask question) := by
  intro s t related
  have asked := inStep.shown related (.ask question)
  rw [Console.ask_eq, Console.ask_eq]
  cases taken : Console.answer? (Console.emit (.ask question) s) with
  | none =>
      rcases inStep.closed asked taken with closed | excuse
      · rw [closed]
        exact .error asked
      · exact .excused excuse
  | some found =>
      obtain ⟨answer, rest⟩ := found
      obtain ⟨rest', taken', after⟩ := inStep.taken asked taken
      rw [taken']
      exact .ok after

/-! ## Dialogues -/

theorem resume (inStep : InStep R Excused) (name : String) (waiting : Waiting) :
    Paired R Excused (Dialogue.resume name waiting) (Dialogue.resume name waiting) := by
  intro s t related
  -- on the answers that are left to the first console
  induction count : Console.left s using Nat.strongRecOn generalizing waiting s t with
  | ind n ih =>
      have asked := inStep.shown related (.ask (waiting.question name))
      rw [Dialogue.resume_eq, Dialogue.resume_eq]
      cases taken : Console.answer? (Console.emit (.ask (waiting.question name)) s) with
      | none =>
          rcases inStep.closed asked taken with closed | excuse
          · rw [closed]
            exact .error asked
          · exact .excused excuse
      | some found =>
          obtain ⟨answer, rest⟩ := found
          obtain ⟨rest', taken', after⟩ := inStep.taken asked taken
          rw [taken']
          simp only
          cases waiting.reply answer with
          | accepted value => exact .ok after
          | goOn next shown =>
              have fewer : Console.left (Console.emitAll shown rest) < n :=
                count ▸ Console.left_taken taken shown
              exact ih _ fewer next _ _ (inStep.emitAll after shown) rfl

theorem askStat (inStep : InStep R Excused) (name : String) :
    Paired R Excused (Dialogue.askStat name) (Dialogue.askStat name) :=
  inStep.resume name .value

theorem collect (inStep : InStep R Excused) (names : List String) :
    Paired R Excused (Dialogue.collect names) (Dialogue.collect names) := by
  induction names with
  | nil => exact paired_pure []
  | cons name names ih =>
      refine Paired.bind (inStep.askStat name) fun value => ?_
      exact Paired.bind ih fun values => paired_pure (value :: values)

theorem announce (inStep : InStep R Excused) (kind stream : String) (flow : FlowConfig)
    (stats : List String) :
    Paired R Excused (Dialogue.announce kind stream flow stats)
      (Dialogue.announce kind stream flow stats) :=
  Paired.bind (inStep.tell _) fun _ => inStep.collect stats

/-! ## Calls -/

theorem run (inStep : InStep R Excused) (call : ConsoleCall) :
    Paired R Excused call.run call.run := by
  cases call with
  | ask question =>
      exact Paired.bind (inStep.ask question) fun answer =>
        paired_pure (ConsoleResult.answer answer)
  | print text => exact Paired.bind (inStep.tell _) fun _ => paired_pure ConsoleResult.nothing
  | write text => exact Paired.bind (inStep.tell _) fun _ => paired_pure ConsoleResult.nothing
  | stat name =>
      exact Paired.bind (inStep.askStat name) fun value =>
        paired_pure (ConsoleResult.value value)
  | announce kind stream flow stats =>
      exact Paired.bind (inStep.announce kind stream flow stats) fun values =>
        paired_pure (ConsoleResult.values values)

end InStep

end ManualTraffic
