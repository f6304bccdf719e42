/-
# ManualTraffic.Proofs.CommandLine.Pairing -- a run of tests at two desks

A test of a command line is a test of its generator and a report, which is shown.  A run notes
where its settings come from, makes its generator, and connects for its tests.  So at two
desks that keep beside each other a row of tests agrees with itself (`Abreast.tests`), and
where no fault is excused a whole run does (`Abreast.perform`).
-/
import ManualTraffic.CommandLine.Run
import ManualTraffic.Proofs.Generator.Pairing
import ManualTraffic.Proofs.Scope.Pairing

namespace ManualTraffic

set_option autoImplicit false

namespace Abreast

variable {σ τ : Type} [Console σ] [Console τ] {R : σ → τ → Prop}
  {J : Journal FlowConfig → Journal FlowConfig → Prop} {Excused : Fault → Prop}

theorem figures (abreast : Abreast R J Excused) (generator : Generator)
    (flow : Option FlowConfig) (test : Test) :
    Paired (Desk.Beside R J) Excused (test.measure generator flow)
      (test.measure generator flow) := by
  cases test with
  | burst options =>
      exact Paired.bind (abreast.burst generator _) fun outcome => paired_pure outcome.results
  | continuous options => exact abreast.measure generator _ _ _ _
  | throughput options => exact abreast.measure generator _ _ _ _

theorem test (abreast : Abreast R J Excused) (generator : Generator) (flow : Option FlowConfig)
    (format : OutputFormat) (color : Bool) (test : Test) :
    Paired (Desk.Beside R J) Excused (test.run generator flow format color)
      (test.run generator flow format color) :=
  Paired.bind (abreast.figures generator flow test) fun _ =>
    Desk.paired_atConsole J (abreast.inStep.tellAll _)

theorem tests (abreast : Abreast R J Excused) (generator : Generator) (flow : Option FlowConfig)
    (format : OutputFormat) (color : Bool) (tests : List Test) :
    Paired (Desk.Beside R J) Excused (Test.runAll generator flow format color tests)
      (Test.runAll generator flow format color tests) := by
  induction tests with
  | nil => exact paired_pure ()
  | cons test tests ih =>
      exact Paired.bind (abreast.test generator flow format color test) fun _ => ih

/-! ## Runs -/

theorem perform (abreast : Abreast R J Unexcused) (color : Bool) (settings : Settings)
    (request : Request (List Test)) :
    Paired (Desk.Beside R J) Unexcused (CommandLine.perform color settings request)
      (CommandLine.perform color settings request) := by
  refine Paired.bind (abreast.debug _ _) fun _ => ?_
  refine Paired.bind (Desk.paired_check _) fun generator => ?_
  refine Paired.within (abreast.connect generator) (fun connected => ?_) abreast.disconnect
  refine Paired.bind (Desk.paired_check request.override) fun flow => ?_
  exact abreast.tests connected flow request.format color request.plan

end Abreast

end ManualTraffic
