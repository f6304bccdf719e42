/-
# ManualTraffic.Session -- a run of calls on one generator

A session makes calls on a generator one after another.  A call that fails does not
end the session; inside a scope it ends the scope.  Beside its own faults a session
can hold any error `ε` that its user raises.
-/
import ManualTraffic.Generator

namespace ManualTraffic

set_option autoImplicit false

/-- Why a call failed: a fault of the generator, or an error that was raised. -/
inductive Failure (ε : Type) where
  | fault (cause : Fault)
  | raised (error : ε)

/-- A call of a session. -/
inductive Step (ε : Type) where
  | burst (options : BurstOptions)
  | continuous (options : ContinuousOptions)
  | throughput (options : ThroughputOptions)
  /-- More answers for the operator. -/
  | queue (answers : List String)
  | connect
  | disconnect
  /-- An error of the session's user. -/
  | raise (error : ε)
  /-- Calls while connected, up to the first that fails. -/
  | scope (steps : List (Step ε))

/-- What a call returns. -/
inductive StepResult where
  | burst (outcome : BurstOutcome)
  | figures (results : Results)
  | nothing
  | sameGenerator
  | all (results : List StepResult)

namespace Session

variable {ε α : Type}

/-- A computation of a session, with the operator's script and the log as state. -/
abbrev Call (ε : Type) := EStateM (Failure ε) (Desk ScriptedOperator)

/-- A call on the generator. -/
def call (run : EStateM Fault (Desk ScriptedOperator) α) : Call ε α := fun desk =>
  match run desk with
  | .ok value desk => .ok value desk
  | .error cause desk => .error (.fault cause) desk

/-- The generator's connection, as the session sees it. -/
def link (generator : Generator) : Link (Failure ε) (Desk ScriptedOperator) Generator :=
  ⟨call generator.connect, call Generator.disconnect⟩

/-- Puts answers behind those that are left. -/
def queue (answers : List String) : Call ε Unit :=
  modify fun desk =>
    { desk with console := { desk.console with answers := desk.console.answers ++ answers } }

mutual

/-- One call. -/
def run (generator : Generator) : Step ε → Call ε StepResult
  | .burst options => do
      let outcome ← call (generator.burst options.plan)
      pure (.burst outcome)
  | .continuous options => do
      let results ← call (generator.continuous options.plan)
      pure (.figures results)
  | .throughput options => do
      let results ← call (generator.throughput options.plan)
      pure (.figures results)
  | .queue answers => do
      queue answers
      pure .nothing
  | .connect => do
      let _ ← call generator.connect
      pure .sameGenerator
  | .disconnect => do
      call Generator.disconnect
      pure .nothing
  | .raise error => throw (.raised error)
  | .scope steps => do
      let results ← (link generator).within fun connected => runAll connected steps
      pure (.all results)
termination_by structural step => step

/-- Calls up to the first that fails. -/
def runAll (generator : Generator) : List (Step ε) → Call ε (List StepResult)
  | [] => pure []
  | step :: steps => do
      let result ← run generator step
      let results ← runAll generator steps
      pure (result :: results)
termination_by structural steps => steps

end

/-- What there is to tell about a call: its outcome, what the operator was shown,
the answers left after it, and what was logged. -/
structure Account (ε : Type) where
  outcome : Except (Failure ε) StepResult
  shown : List Shown
  remaining : List String
  lines : List (LogLine FlowConfig)

/-- A call from the given answers, and its account. -/
def account (generator : Generator) (threshold : Option LogLevel) (answers : List String)
    (step : Step ε) : Account ε :=
  match run generator step ⟨⟨answers, []⟩, ⟨threshold, []⟩⟩ with
  | .ok result desk => ⟨.ok result, desk.console.shown, desk.console.answers, desk.journal.lines⟩
  | .error failure desk =>
      ⟨.error failure, desk.console.shown, desk.console.answers, desk.journal.lines⟩

/-- The accounts of all calls of a session, each with the answers that the one
before it left. -/
def accounts (generator : Generator) (threshold : Option LogLevel) :
    List String → List (Step ε) → List (Account ε)
  | _, [] => []
  | answers, step :: steps =>
      let told := account generator threshold answers step
      told :: accounts generator threshold told.remaining steps

end Session

end ManualTraffic
