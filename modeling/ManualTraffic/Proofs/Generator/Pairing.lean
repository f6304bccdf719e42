/-
# ManualTraffic.Proofs.Generator.Pairing -- a test at two desks

A test knows its desk by its console, in dialogues alone, and by its log, to which it adds
lines and which it never reads.  So at two desks whose consoles are in step (`Beside`) the
same test agrees with itself (`Abreast.burst`, `Abreast.measure`).  The relation of the logs
may be any that adding a line on both sides keeps: the logs may be the same, or there may be
nothing to compare.  Connecting and disconnecting only add a line (`Desk.connected`,
`Desk.disconnected`), whatever is done between them.
-/
import ManualTraffic.Proofs.Generator.Errand
import ManualTraffic.Proofs.Operator.Pairing

namespace ManualTraffic

set_option autoImplicit false

/-- A relation of consoles and one of logs, as a relation of desks. -/
structure Desk.Beside {σ τ : Type} (R : σ → τ → Prop)
    (J : Journal FlowConfig → Journal FlowConfig → Prop) (s : Desk σ) (t : Desk τ) : Prop where
  console : R s.console t.console
  journal : J s.journal t.journal

namespace Desk

variable {σ τ α : Type} {R : σ → τ → Prop} {J : Journal FlowConfig → Journal FlowConfig → Prop}
  {Excused : Fault → Prop}

theorem agree_atConsole {left : EStateM Fault σ α} {right : EStateM Fault τ α} {s : Desk σ}
    {t : Desk τ} (agree : Agree R Excused (left s.console) (right t.console))
    (journals : J s.journal t.journal) :
    Agree (Beside R J) Excused (atConsole left s) (atConsole right t) := by
  generalize first : left s.console = here at agree
  generalize second : right t.console = there at agree
  cases agree with
  | ok related =>
      rw [atConsole_of_ok s first, atConsole_of_ok t second]
      exact .ok ⟨related, journals⟩
  | error related =>
      rw [atConsole_of_error s first, atConsole_of_error t second]
      exact .error ⟨related, journals⟩
  | excused excuse =>
      rw [atConsole_of_error s first]
      exact .excused excuse

theorem paired_atConsole (J : Journal FlowConfig → Journal FlowConfig → Prop)
    {left : EStateM Fault σ α} {right : EStateM Fault τ α} (paired : Paired R Excused left right) :
    Paired (Beside R J) Excused (atConsole left) (atConsole right) :=
  fun _ _ beside => agree_atConsole (paired _ _ beside.console) beside.journal

theorem paired_check (checked : Except Fault α) :
    Paired (Beside R J) Excused (check checked) (check checked) := by
  cases checked with
  | ok value => exact paired_pure value
  | error fault => exact paired_throw fault

/-- What a burst does with its answers. -/
def burstFrom (numpkts framesize : Binary64) (answers : List Binary64) :
    EStateM Fault (Desk σ) BurstOutcome := do
  let results ← check (Results.ofBurst numpkts framesize answers)
  match answers with
  | [framesRx, payloadErrors, sequenceErrors] =>
      pure ⟨framesRx, payloadErrors, sequenceErrors, results⟩
  | _ => throw (.answerCount Results.burstStats answers.length)

theorem paired_burstFrom (numpkts framesize : Binary64) (answers : List Binary64) :
    Paired (Beside R J) Excused (burstFrom numpkts framesize answers)
      (burstFrom numpkts framesize answers) := by
  refine Paired.bind (Desk.paired_check _) fun results => ?_
  rcases answers with _ | ⟨framesRx, _ | ⟨payloadErrors, _ | ⟨sequenceErrors, _ | _⟩⟩⟩
  · exact paired_throw _
  · exact paired_throw _
  · exact paired_throw _
  · exact paired_pure (BurstOutcome.mk framesRx payloadErrors sequenceErrors results)
  · exact paired_throw _

end Desk

/-! ## Connections -/

namespace Link

variable {ε σ γ α : Type} {link : Link ε σ γ} {body : γ → EStateM ε σ α} {connected : γ}
  {s t u last : σ}

theorem within_of_ok {value : α} (connects : link.connect s = .ok connected t)
    (done : body connected t = .ok value u) (disconnects : link.disconnect u = .ok () last) :
    link.within body s = .ok value last := by
  simp only [within, connects, done, disconnects]

theorem within_of_error {fault : ε} (connects : link.connect s = .ok connected t)
    (failed : body connected t = .error fault u) (disconnects : link.disconnect u = .ok () last) :
    link.within body s = .error fault last := by
  simp only [within, connects, failed, disconnects]

end Link

namespace Desk

variable {σ : Type}

/-- A desk once a generator is connected. -/
def connected (desk : Desk σ) : Desk σ :=
  desk.noted "connect: nothing to do for a manual generator" none

/-- A desk once a generator is disconnected. -/
def disconnected (desk : Desk σ) : Desk σ :=
  desk.noted "disconnect: nothing to do for a manual generator" none

end Desk

namespace Generator

variable {σ α : Type} {generator : Generator} {body : Generator → EStateM Fault (Desk σ) α}
  {desk after : Desk σ}

theorem within_of_ok {value : α} (done : body generator desk.connected = .ok value after) :
    generator.link.within body desk = .ok value after.disconnected :=
  Link.within_of_ok rfl done rfl

theorem within_of_error {fault : Fault}
    (failed : body generator desk.connected = .error fault after) :
    generator.link.within body desk = .error fault after.disconnected :=
  Link.within_of_error rfl failed rfl

end Generator

/-! ## Two desks -/

/-- Two desks that keep beside each other: the consoles are in step, and a line that both
logs get keeps them related. -/
structure Abreast {σ τ : Type} [Console σ] [Console τ] (R : σ → τ → Prop)
    (J : Journal FlowConfig → Journal FlowConfig → Prop) (Excused : Fault → Prop) : Prop where
  inStep : InStep R Excused
  note : ∀ {a b}, J a b → ∀ line, J (a.note line) (b.note line)

namespace Abreast

variable {σ τ α : Type} [Console σ] [Console τ] {R : σ → τ → Prop}
  {J : Journal FlowConfig → Journal FlowConfig → Prop} {Excused : Fault → Prop}

theorem noted (abreast : Abreast R J Excused) {s : Desk σ} {t : Desk τ}
    (beside : Desk.Beside R J s t) (message : String) (data : Option FlowConfig) :
    Desk.Beside R J (s.noted message data) (t.noted message data) :=
  ⟨beside.console, abreast.note beside.journal _⟩

theorem debug (abreast : Abreast R J Excused) (message : String) (data : Option FlowConfig) :
    Paired (Desk.Beside R J) Excused (Desk.debug message data) (Desk.debug message data) :=
  paired_modify fun _ _ beside => abreast.noted beside message data

/-! ## Tests -/

theorem resolve (abreast : Abreast R J Excused) (generator : Generator)
    (override : Option FlowConfig) :
    Paired (Desk.Beside R J) Excused (generator.resolve override)
      (generator.resolve override) := by
  refine Paired.bind (Desk.paired_check (generator.effective override)) fun flow => ?_
  refine Paired.bind (abreast.debug _ _) fun _ => ?_
  exact Paired.bind (Desk.paired_check flow.frameSize) fun framesize =>
    paired_pure (flow, framesize)

theorem burst (abreast : Abreast R J Excused) (generator : Generator) (plan : BurstPlan) :
    Paired (Desk.Beside R J) Excused (generator.burst plan) (generator.burst plan) := by
  refine Paired.bind (abreast.resolve generator plan.flow) fun resolved => ?_
  refine Paired.bind (abreast.debug _ _) fun _ => ?_
  exact Paired.bind (Desk.paired_atConsole J (abreast.inStep.announce _ _ _ _)) fun answers =>
    Desk.paired_burstFrom _ _ answers

theorem measure (abreast : Abreast R J Excused) (generator : Generator) (kind stream : String)
    (override : Option FlowConfig) (duration : Binary64) :
    Paired (Desk.Beside R J) Excused (generator.measure kind stream override duration)
      (generator.measure kind stream override duration) := by
  refine Paired.bind (Desk.paired_check _) fun duration => ?_
  refine Paired.bind (abreast.resolve generator override) fun resolved => ?_
  exact Paired.bind (Desk.paired_atConsole J (abreast.inStep.announce _ _ _ _)) fun answers =>
    Desk.paired_check _

/-! ## Connections -/

theorem connect (abreast : Abreast R J Excused) (generator : Generator) :
    Paired (Desk.Beside R J) Excused generator.connect generator.connect :=
  Paired.bind (abreast.debug _ _) fun _ => paired_pure generator

theorem disconnect (abreast : Abreast R J Excused) :
    Paired (Desk.Beside R J) Excused Generator.disconnect Generator.disconnect :=
  abreast.debug _ _

end Abreast

end ManualTraffic
