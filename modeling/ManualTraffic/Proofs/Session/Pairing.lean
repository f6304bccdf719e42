/-
# ManualTraffic.Proofs.Session.Pairing -- a session at two desks

A call of a session is a test, a line of the log, an error, more answers for the operator, or
a scope of such calls.  At two desks that keep beside each other every call but the last two
agrees with itself, whichever faults are excused (`Session.paired_plain`).  Where the desks
also keep beside each other when both operators get the same answers, and no fault is excused,
every call does, to any depth of its scopes (`Session.paired_run`).
-/
import ManualTraffic.Proofs.Generator.Pairing
import ManualTraffic.Proofs.Scope.Pairing
import ManualTraffic.Session

namespace ManualTraffic

set_option autoImplicit false

variable {ε α : Type}

/-- Induction on a call, with the calls of a scope before it. -/
theorem Step.scopeInduction {motive : Step ε → Prop}
    (burst : ∀ options, motive (.burst options))
    (continuous : ∀ options, motive (.continuous options))
    (throughput : ∀ options, motive (.throughput options)) (queue : ∀ answers, motive (.queue answers))
    (connect : motive .connect) (disconnect : motive .disconnect)
    (raise : ∀ error, motive (.raise error))
    (scope : ∀ steps, (∀ step ∈ steps, motive step) → motive (.scope steps)) (step : Step ε) :
    motive step :=
  @Step.rec ε motive (fun steps => ∀ step ∈ steps, motive step) burst continuous throughput queue
    connect disconnect raise scope (List.forall_mem_nil motive)
    (fun _ _ first others => List.forall_mem_cons.2 ⟨first, others⟩) step

/-- Whether a call neither queues answers nor makes calls of its own. -/
def Step.isPlain : Step ε → Bool
  | .queue _ | .scope _ => false
  | _ => true

namespace Session

variable {R : ScriptedOperator → ScriptedOperator → Prop}
  {J : Journal FlowConfig → Journal FlowConfig → Prop} {Excused : Fault → Prop}
  {Excused' : Failure ε → Prop} {generator : Generator} {step : Step ε} {steps : List (Step ε)}

theorem paired_call {left right : EStateM Fault (Desk ScriptedOperator) α}
    (excuses : ∀ fault, Excused fault → Excused' (.fault fault))
    (paired : Paired (Desk.Beside R J) Excused left right) :
    Paired (Desk.Beside R J) Excused' (call left : Call ε α) (call right) := by
  intro s t beside
  have agree := paired s t beside
  simp only [call]
  generalize left s = here at agree
  generalize right t = there at agree
  cases agree with
  | ok related => exact .ok related
  | error related => exact .error related
  | excused excuse => exact .excused (excuses _ excuse)

/-- A test, a connection and an error know their desk as a test does. -/
theorem paired_plain (abreast : Abreast R J Excused)
    (excuses : ∀ fault, Excused fault → Excused' (.fault fault)) (generator : Generator)
    (plain : step.isPlain = true) :
    Paired (Desk.Beside R J) Excused' (run generator step) (run generator step) := by
  cases step with
  | queue answers => cases plain
  | scope steps => cases plain
  | raise error => exact paired_throw _
  | burst options =>
      exact Paired.bind (paired_call excuses (abreast.burst generator options.plan)) fun outcome =>
        paired_pure (StepResult.burst outcome)
  | continuous options =>
      refine Paired.bind (paired_call excuses ?_) fun results =>
        paired_pure (StepResult.figures results)
      exact abreast.measure generator _ _ _ _
  | throughput options =>
      refine Paired.bind (paired_call excuses ?_) fun results =>
        paired_pure (StepResult.figures results)
      exact abreast.measure generator _ _ _ _
  | connect =>
      exact Paired.bind (paired_call excuses (abreast.connect generator)) fun _ =>
        paired_pure StepResult.sameGenerator
  | disconnect =>
      exact Paired.bind (paired_call excuses abreast.disconnect) fun _ =>
        paired_pure StepResult.nothing

/-! ## Whole sessions -/

/-- A relation of operators that more answers for both of them keep. -/
def Queueable (R : ScriptedOperator → ScriptedOperator → Prop) : Prop :=
  ∀ ⦃s t⦄, R s t → ∀ answers : List String,
    R { s with answers := s.answers ++ answers } { t with answers := t.answers ++ answers }

theorem paired_queue (queueable : Queueable R) (answers : List String) :
    Paired (Desk.Beside R J) Excused' (queue answers : Call ε Unit) (queue answers) :=
  paired_modify fun _ _ beside => ⟨queueable beside.console answers, beside.journal⟩

theorem paired_runAll
    (each : ∀ step ∈ steps, ∀ generator,
      Paired (Desk.Beside R J) Excused' (run generator step) (run generator step))
    (generator : Generator) :
    Paired (Desk.Beside R J) Excused' (runAll generator steps) (runAll generator steps) := by
  induction steps with
  | nil => exact paired_pure []
  | cons step steps ih =>
      obtain ⟨first, others⟩ := List.forall_mem_cons.1 each
      refine Paired.bind (first generator) fun result => ?_
      exact Paired.bind (ih others) fun results => paired_pure (result :: results)

/-- **Desks beside each other stay so in every call**, and the call comes to the same at both. -/
theorem paired_run (abreast : Abreast R J Unexcused) (queueable : Queueable R) (step : Step ε)
    (generator : Generator) :
    Paired (Desk.Beside R J) Unexcused (run generator step) (run generator step) := by
  have excuses (fault : Fault) (excuse : Unexcused fault) :
      Unexcused (Failure.fault fault : Failure ε) := excuse
  induction step using Step.scopeInduction generalizing generator with
  | burst | continuous | throughput | connect | disconnect | raise =>
      exact paired_plain abreast excuses generator rfl
  | queue answers =>
      exact Paired.bind (paired_queue queueable answers) fun _ => paired_pure StepResult.nothing
  | scope steps each =>
      rw [run]
      refine Paired.bind (Paired.within ?_ (fun connected => paired_runAll each connected) ?_)
        fun results => paired_pure (StepResult.all results)
      · exact paired_call excuses (abreast.connect generator)
      · exact paired_call excuses abreast.disconnect

end Session

end ManualTraffic
