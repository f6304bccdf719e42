/-
# ManualTraffic.Test -- a test and its report

A test is one of the three things a generator does, with the options it is asked for
with.  Running it on a flow configuration measures the figures; the report of the
figures is printed where the operator reads.
-/
import ManualTraffic.Generator
import ManualTraffic.Report

namespace ManualTraffic

set_option autoImplicit false

/-- A test with its options. -/
inductive Test where
  | burst (options : BurstOptions)
  | continuous (options : ContinuousOptions)
  | throughput (options : ThroughputOptions)

namespace Test

/-- The name under which a test is reported. -/
def name : Test → String
  | .burst _ => "burst"
  | .continuous _ => "continuous"
  | .throughput _ => "throughput"

variable {σ : Type} [Console σ]

/-- The figures of a test with the given override. -/
def measure (generator : Generator) (flow : Option FlowConfig) :
    Test → EStateM Fault (Desk σ) Results
  | .burst options => do
      let outcome ← generator.burst (BurstOptions.plan { options with flow })
      pure outcome.results
  | .continuous options =>
      generator.continuous (ContinuousOptions.plan { options with flow })
  | .throughput options =>
      generator.throughput (ThroughputOptions.plan { options with flow })

/-- Runs a test and prints its report. -/
def run (generator : Generator) (flow : Option FlowConfig) (format : OutputFormat)
    (color : Bool) (test : Test) : EStateM Fault (Desk σ) Unit := do
  let results ← test.measure generator flow
  Desk.atConsole
    (Console.tellAll ((Report.lines format color test.name results.toRecord).map .print))

/-- Runs tests one after another, up to the first that fails. -/
def runAll (generator : Generator) (flow : Option FlowConfig) (format : OutputFormat)
    (color : Bool) : List Test → EStateM Fault (Desk σ) Unit
  | [] => pure ()
  | test :: tests => do
      test.run generator flow format color
      runAll generator flow format color tests

end Test

end ManualTraffic
