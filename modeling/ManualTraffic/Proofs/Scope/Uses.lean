/-
# ManualTraffic.Proofs.Scope.Uses -- sessions and runs are programs with scopes

A call of a session is a program on the links of generators: a test, more answers and an
explicit connection are operations, and a scope is one (`Session.program`).  A run of tests is a
program with one scope (`Test.program`).  Running these programs is the call and the run
(`Session.run_program`, `CommandLine.perform_eq`), so what holds of all programs holds of them:
the connections that a session makes in its scopes are balanced, and a failure in one passes
through all around it (`Session.run_brackets`).
-/
import ManualTraffic.CommandLine.Run
import ManualTraffic.Proofs.Scope.Bracketing
import ManualTraffic.Proofs.Session.Supply

namespace ManualTraffic

set_option autoImplicit false

variable {ε σ ι γ α β : Type}

namespace Program

/-- A program, and then another one. -/
def andThen (later : α → Program ε σ ι γ β) : Program ε σ ι γ α → Program ε σ ι γ β
  | .finish value => later value
  | .raise fault => .raise fault
  | .operate operation next => .operate operation fun result => (next result).andThen later
  | .scope name body next => .scope name body fun result => (next result).andThen later

theorem run_andThen (links : ι → Link ε σ γ) (later : α → Program ε σ ι γ β)
    (program : Program ε σ ι γ α) :
    (program.andThen later).run links =
      program.run links >>= fun value => (later value).run links := by
  induction program with
  | finish value => rfl
  | raise fault => rfl
  | operate operation next ih =>
      rw [andThen, run, run, bind_assoc]
      exact bind_congr fun result => ih result later
  | scope name body next _ ih =>
      rw [andThen, run, run, bind_assoc]
      exact bind_congr fun result => ih result later

end Program

/-! ## Sessions -/

namespace Session

/-- The programs of sessions use the links of generators. -/
abbrev Use (ε : Type) := Program (Failure ε) (Desk ScriptedOperator) Generator Generator

mutual

/-- A call as a program. -/
def program (generator : Generator) : Step ε → Use ε StepResult
  | .burst options =>
      .operate (call (generator.burst options.plan)) fun outcome => .finish (.burst outcome)
  | .continuous options =>
      .operate (call (generator.continuous options.plan)) fun results => .finish (.figures results)
  | .throughput options =>
      .operate (call (generator.throughput options.plan)) fun results => .finish (.figures results)
  | .queue answers => .operate (queue answers) fun _ => .finish .nothing
  | .connect => .operate (call generator.connect) fun _ => .finish .sameGenerator
  | .disconnect => .operate (call Generator.disconnect) fun _ => .finish .nothing
  | .raise error => .raise (.raised error)
  | .scope steps =>
      .scope generator (fun connected => programAll connected steps) fun results =>
        .finish (.all results)
termination_by structural step => step

/-- Calls up to the first that fails, as a program. -/
def programAll (generator : Generator) : List (Step ε) → Use ε (List StepResult)
  | [] => .finish []
  | step :: steps =>
      (program generator step).andThen fun result =>
        (programAll generator steps).andThen fun results => .finish (result :: results)
termination_by structural steps => steps

end

theorem run_programAll {steps : List (Step ε)}
    (each : ∀ step ∈ steps, ∀ generator, (program generator step).run link = run generator step)
    (generator : Generator) :
    (programAll generator steps).run link = runAll generator steps := by
  induction steps with
  | nil => rfl
  | cons step steps ih =>
      obtain ⟨first, others⟩ := List.forall_mem_cons.1 each
      rw [programAll, Program.run_andThen, first, runAll]
      refine bind_congr fun result => ?_
      rw [Program.run_andThen, ih others]
      rfl

/-- Running the program of a call is the call. -/
theorem run_program (step : Step ε) (generator : Generator) :
    (program generator step).run link = run generator step := by
  induction step using Step.scopeInduction generalizing generator with
  | burst options | continuous options | throughput options => rfl
  | queue answers => rfl
  | connect | disconnect => rfl
  | raise error => rfl
  | scope steps ih =>
      have inner : (fun connected => (programAll connected steps).run link) =
          fun connected => runAll connected steps := funext (run_programAll ih)
      rw [program, Program.run, inner, run]
      rfl

/-- A call of a session, watched: the connections that it makes in its scopes are balanced, and
it ends in the last failure that is seen. -/
theorem run_brackets (step : Step ε) (generator : Generator) (desk : Desk ScriptedOperator) :
    let watched := (program generator step).watch link desk
    let events := (endState watched).events
    Watched.forget watched = run generator step desk ∧
      Balanced (events.filterMap Event.bracket?) ∧
        failure? watched = (events.filterMap Event.failure?).getLast? := by
  have course := (program generator step).watch_course link desk
  have forgets := (program generator step).forget_watch link desk
  rw [run_program] at forgets
  exact ⟨forgets, course.balanced, course.failure_eq⟩

end Session

/-! ## Runs of tests -/

namespace Test

/-- A run of tests as a program. -/
def program [Console σ] (color : Bool) (settings : Settings) (request : Request (List Test)) :
    Program Fault (Desk σ) Generator Generator Unit :=
  .operate (Desk.debug ("traffic defaults loaded from " ++ settings.defaultsFile) none) fun _ =>
    .operate (Desk.check (Generator.create request.generator settings.defaults)) fun generator =>
      .scope generator
        (fun connected =>
          .operate (Desk.check request.override) fun flow =>
            .operate (Test.runAll connected flow request.format color request.plan) .finish)
        .finish

end Test

/-- Running the program of a run of tests is the run. -/
theorem CommandLine.perform_eq [Console σ] (color : Bool) (settings : Settings)
    (request : Request (List Test)) :
    (Test.program color settings request).run Generator.link =
      (perform color settings request : EStateM Fault (Desk σ) Unit) := by
  simp only [Test.program, Program.run, perform, bind_pure]

end ManualTraffic
