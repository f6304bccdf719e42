/-
# ManualTraffic.Generator -- a traffic generator that is a person

The generator at hand has no driver: the operator is told what traffic to send,
sends it with any tool, and types the counters back in.  A generator owns a copy of
its default configuration; each of the three tests merges an override into it, asks
for its statistics and returns the figures.  A caller gives options, of which it may
leave out any; with the choices of the generator they make a plan.  What can be
refused is refused before the operator is disturbed.
-/
import ManualTraffic.FlowConfig.FrameSize
import ManualTraffic.FlowConfig.Merge
import ManualTraffic.Journal
import ManualTraffic.Operator.Dialogue
import ManualTraffic.Results
import ManualTraffic.Scope

namespace ManualTraffic

set_option autoImplicit false

/-- Where a test runs: the operator's console and the log. -/
structure Desk (σ : Type) where
  console : σ
  journal : Journal FlowConfig

namespace Desk

variable {σ α : Type}

/-- A dialogue at the console of a desk. -/
def atConsole (dialogue : EStateM Fault σ α) : EStateM Fault (Desk σ) α := fun desk =>
  match dialogue desk.console with
  | .ok value console => .ok value { desk with console }
  | .error fault console => .error fault { desk with console }

/-- Adds a debug line to the log. -/
def debug (message : String) (data : Option FlowConfig) : EStateM Fault (Desk σ) Unit :=
  modify fun desk => { desk with journal := desk.journal.note ⟨.debug, message, data⟩ }

/-- A check, whose failure ends the test. -/
def check : Except Fault α → EStateM Fault (Desk σ) α
  | .ok value => pure value
  | .error fault => throw fault

end Desk

/-! ## Plans -/

/-- A burst: a fixed count of frames. -/
structure BurstPlan where
  flow : Option FlowConfig
  numpkts : Binary64
  /-- The time the burst takes, in milliseconds. -/
  time : Binary64
  framerate : Binary64

/-- A continuous flow. -/
structure ContinuousPlan where
  flow : Option FlowConfig
  time : Binary64
  framerate : Binary64
  multistream : Bool

/-- An RFC 2544 throughput test. -/
structure ThroughputPlan where
  flow : Option FlowConfig
  trials : Binary64
  /-- Seconds for each trial. -/
  duration : Binary64
  lossrate : Binary64
  multistream : Bool

/-! ## Options

A caller may leave out whatever it likes; what it leaves out is the choice of the
generator. -/

/-- What a caller says about a burst. -/
structure BurstOptions where
  flow : Option FlowConfig := none
  numpkts : Option Binary64 := none
  time : Option Binary64 := none
  framerate : Option Binary64 := none

/-- The burst that is meant. -/
def BurstOptions.plan (options : BurstOptions) : BurstPlan where
  flow := options.flow
  numpkts := options.numpkts.getD (.ofNat false 100)
  time := options.time.getD (.ofNat false 20)
  framerate := options.framerate.getD (.ofNat false 100)

/-- What a caller says about a continuous flow. -/
structure ContinuousOptions where
  flow : Option FlowConfig := none
  time : Option Binary64 := none
  framerate : Option Binary64 := none
  multistream : Option Bool := none

/-- The continuous flow that is meant. -/
def ContinuousOptions.plan (options : ContinuousOptions) : ContinuousPlan where
  flow := options.flow
  time := options.time.getD (.ofNat false 20)
  framerate := options.framerate.getD (.ofNat false 0)
  multistream := options.multistream.getD false

/-- What a caller says about a throughput test. -/
structure ThroughputOptions where
  flow : Option FlowConfig := none
  trials : Option Binary64 := none
  duration : Option Binary64 := none
  lossrate : Option Binary64 := none
  multistream : Option Bool := none

/-- The throughput test that is meant. -/
def ThroughputOptions.plan (options : ThroughputOptions) : ThroughputPlan where
  flow := options.flow
  trials := options.trials.getD (.ofNat false 3)
  duration := options.duration.getD (.ofNat false 20)
  lossrate := options.lossrate.getD (.ofNat false 0)
  multistream := options.multistream.getD false

/-- The options of a caller that leaves nothing out. -/
def BurstPlan.options (plan : BurstPlan) : BurstOptions where
  flow := plan.flow
  numpkts := some plan.numpkts
  time := some plan.time
  framerate := some plan.framerate

/-- The options of a caller that leaves nothing out. -/
def ContinuousPlan.options (plan : ContinuousPlan) : ContinuousOptions where
  flow := plan.flow
  time := some plan.time
  framerate := some plan.framerate
  multistream := some plan.multistream

/-- The options of a caller that leaves nothing out. -/
def ThroughputPlan.options (plan : ThroughputPlan) : ThroughputOptions where
  flow := plan.flow
  trials := some plan.trials
  duration := some plan.duration
  lossrate := some plan.lossrate
  multistream := some plan.multistream

/-! ## Generators -/

/-- What a burst returns. -/
structure BurstOutcome where
  framesRx : Binary64
  payloadErrors : Binary64
  sequenceErrors : Binary64
  results : Results

/-- A generator and its default configuration. -/
structure Generator where
  defaults : FlowConfig

namespace Generator

variable {σ : Type} [Console σ]

/-! ## Making a generator -/

/-- The names of the generators there are. -/
def available : List String := ["dummy"]

/-- The generator of a name, blanks around it and letter case aside, with a copy of
the given defaults. -/
def create (name : String) (given : FlowConfig) : Except Fault Generator :=
  if available.contains (Text.lower (String.ofList (Text.trim name.toList))) then
    .ok ⟨given.clone⟩
  else .error (.unknownGenerator name available)

/-! ## Connecting -/

/-- Connecting to a person takes nothing. -/
def connect (generator : Generator) : EStateM Fault (Desk σ) Generator := do
  Desk.debug "connect: nothing to do for a manual generator" none
  pure generator

def disconnect : EStateM Fault (Desk σ) Unit :=
  Desk.debug "disconnect: nothing to do for a manual generator" none

def link (generator : Generator) : Link Fault (Desk σ) Generator := ⟨generator.connect, disconnect⟩

/-! ## Tests -/

/-- The defaults with an override on top. -/
def effective (generator : Generator) : Option FlowConfig → Except Fault FlowConfig
  | none => .ok generator.defaults.clone
  | some override =>
      match generator.defaults.merge override with
      | .ok merged => .ok merged
      | .error conflict => .error (.mergeConflict conflict.path)

/-- The configuration of a test, which is logged, and its frame size. -/
def resolve (generator : Generator) (override : Option FlowConfig) :
    EStateM Fault (Desk σ) (FlowConfig × Binary64) := do
  let flow ← Desk.check (generator.effective override)
  Desk.debug "traffic config" (some flow)
  let framesize ← Desk.check flow.frameSize
  pure (flow, framesize)

/-- A fixed count of frames, sent at once. -/
def burst (generator : Generator) (plan : BurstPlan) : EStateM Fault (Desk σ) BurstOutcome := do
  let (flow, framesize) ← generator.resolve plan.flow
  Desk.debug
    ("burst: " ++ plan.numpkts.text ++ " packets at " ++ plan.framerate.text ++ " fps") none
  let answers ← Desk.atConsole
    (Dialogue.announce "burst" (plan.numpkts.text ++ "pkts, " ++ plan.time.text ++ "mS") flow
      Results.burstStats)
  let results ← Desk.check (Results.ofBurst plan.numpkts framesize answers)
  match answers with
  | [framesRx, payloadErrors, sequenceErrors] =>
      pure ⟨framesRx, payloadErrors, sequenceErrors, results⟩
  | _ => throw (.answerCount Results.burstStats answers.length)

/-- A run over a duration: the figures of a continuous flow and of a throughput
test are the same function of the answers. -/
def measure (generator : Generator) (kind stream : String) (override : Option FlowConfig)
    (duration : Binary64) : EStateM Fault (Desk σ) Results := do
  let duration ← Desk.check (Results.positiveDuration (some duration))
  let (flow, framesize) ← generator.resolve override
  let answers ← Desk.atConsole (Dialogue.announce kind stream flow Results.throughputStats)
  Desk.check (Results.ofThroughput framesize (some duration) answers)

/-- A flow without a fixed end. -/
def continuous (generator : Generator) (plan : ContinuousPlan) :
    EStateM Fault (Desk σ) Results :=
  generator.measure "continuous"
    (plan.time.text ++ "mS, " ++ plan.framerate.text ++ "mpps, multistream " ++
      (if plan.multistream then "true" else "false"))
    plan.flow plan.time

/-- The highest rate without undue loss, found in trials. -/
def throughput (generator : Generator) (plan : ThroughputPlan) :
    EStateM Fault (Desk σ) Results :=
  generator.measure "throughput"
    (plan.trials.text ++ " trials, " ++ plan.duration.text ++ " seconds iterations, " ++
      plan.lossrate.fixed 6 ++ " packet loss, multistream " ++
      (if plan.multistream then "enabled" else "disabled"))
    plan.flow plan.duration

end Generator

end ManualTraffic
