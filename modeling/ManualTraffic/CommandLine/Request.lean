/-
# ManualTraffic.CommandLine.Request -- what a command line asks for

A request names the generator, the override of the traffic configuration and the
format of the reports, and carries the plan `π` of what to run.  The flags of each
command fill it in; an argument that cannot be read is refused with a reason.
-/
import ManualTraffic.CommandLine.Flag
import ManualTraffic.FlowConfig.Json
import ManualTraffic.Test
import ManualTraffic.Text.Digits

namespace ManualTraffic

set_option autoImplicit false

/-- What a command line asks for. -/
structure Request (π : Type) where
  generator : String := "dummy"
  /-- The override of the traffic configuration. -/
  flow : Option FlowConfig := none
  /-- A frame size on top of the override. -/
  framesize : Option Binary64 := none
  format : OutputFormat := .pretty
  plan : π

namespace Request

variable {π : Type}

/-- The override for the tests: with the frame size merged in, if there is one. -/
def override (request : Request π) : Except Fault (Option FlowConfig) :=
  match request.framesize with
  | none => .ok request.flow
  | some size =>
      match (request.flow.getD .root).merge (.ofFrameSize size) with
      | .ok merged => .ok (some merged)
      | .error conflict => .error (.mergeConflict conflict.path)

/-! ## Arguments -/

/-- A whole number without a sign, blanks around it aside. -/
def integer (argument : String) : Except String Binary64 :=
  match Text.wholeNumber? argument with
  | some n => .ok (.ofNat false n)
  | none => .error "Not an integer."

/-- A whole number above zero. -/
def positive (argument : String) : Except String Binary64 :=
  match integer argument with
  | .ok value => if value.isZero then .error "Must be greater than 0." else .ok value
  | .error reason => .error reason

/-- A finite number. -/
def number (argument : String) : Except String Binary64 :=
  match Binary64.ofText? argument with
  | some value =>
      if Text.trim argument.toList = [] ∨ value.isFinite = false then .error "Not a number."
      else .ok value
  | none => .error "Not a number."

/-- A traffic configuration as JSON. -/
def config (argument : String) : Except String FlowConfig :=
  match Json.parse? argument.toList with
  | none => .error "Not valid JSON."
  | some value =>
      match FlowConfig.ofJson? value with
      | none => .error "Must be a JSON object of scalars and objects."
      | some config => .ok config

/-- An output format. -/
def outputFormat (argument : String) : Except String OutputFormat :=
  match OutputFormat.ofName? argument with
  | some format => .ok format
  | none => .error "Expected pretty, json or csv."

/-! ## Flags -/

/-- The effect of an argument that is read by `read` and put in by `put`. -/
def reading {α : Type} (name : String) (read : String → Except String α)
    (put : Request π → α → Request π) : FlagEffect (Request π) :=
  .argument name fun argument request =>
    match read argument with
    | .ok value => .ok (put request value)
    | .error reason => .error reason

/-- The effect of an argument of the plan. -/
def planning {α : Type} (name : String) (read : String → Except String α)
    (put : π → α → π) : FlagEffect (Request π) :=
  reading name read fun request value => { request with plan := put request.plan value }

/-- The flags that all commands have. -/
def commonFlags : List (Flag (Request π)) :=
  [⟨some 'g', "generator",
      reading "name" .ok fun request generator => { request with generator },
      "Traffic generator driver (" ++ ", ".intercalate Generator.available ++ ")",
      some "\"dummy\""⟩,
    ⟨none, "traffic",
      reading "json" config fun request flow => { request with flow := some flow },
      "Traffic config override, e.g. '\x7b\"l3\":\x7b\"proto\":\"tcp\"\x7d\x7d'", none⟩,
    ⟨none, "framesize",
      reading "bytes" integer fun request size => { request with framesize := some size },
      "Shorthand for \x7b\"l2\":\x7b\"framesize\":N\x7d\x7d", none⟩,
    ⟨some 'o', "output",
      reading "format" outputFormat fun request format => { request with format },
      "Output format: pretty, json, csv", some "\"pretty\""⟩]

/-! ### Bursts -/

/-- The burst of a command line without flags. -/
def burstStart : BurstPlan where
  flow := none
  numpkts := .ofNat false 100
  time := .ofNat false 20
  framerate := .ofNat false 100

/-- The flags of a burst. -/
def burstFlags : List (Flag (Request BurstPlan)) :=
  [⟨some 'n', "numpkts",
      planning "count" integer fun plan numpkts => { plan with numpkts },
      "Number of packets", some burstStart.numpkts.text⟩,
    ⟨some 't', "time", planning "ms" integer fun plan time => { plan with time },
      "Burst duration in milliseconds", some burstStart.time.text⟩,
    ⟨some 'r', "framerate",
      planning "fps" integer fun plan framerate => { plan with framerate },
      "Frame rate", some burstStart.framerate.text⟩]

/-! ### Continuous flows -/

/-- The continuous flow of a command line without flags. -/
def continuousStart : ContinuousPlan where
  flow := none
  time := .ofNat false 20
  framerate := .ofNat false 0
  multistream := false

/-- The flags of a continuous flow. -/
def continuousFlags : List (Flag (Request ContinuousPlan)) :=
  [⟨some 't', "time", planning "duration" positive fun plan time => { plan with time },
      "Test duration", some continuousStart.time.text⟩,
    ⟨some 'r', "framerate",
      planning "rate" integer fun plan framerate => { plan with framerate },
      "Frame rate", some continuousStart.framerate.text⟩,
    ⟨none, "multistream",
      .switch fun request => { request with plan := { request.plan with multistream := true } },
      "Use multiple streams", some (toString continuousStart.multistream)⟩]

/-! ### Throughput tests -/

/-- The throughput test of a command line without flags. -/
def throughputStart : ThroughputPlan where
  flow := none
  trials := .ofNat false 3
  duration := .ofNat false 20
  lossrate := .ofNat false 0
  multistream := false

/-- The flags of a throughput test. -/
def throughputFlags : List (Flag (Request ThroughputPlan)) :=
  [⟨none, "trials", planning "count" integer fun plan trials => { plan with trials },
      "Number of trials", some throughputStart.trials.text⟩,
    ⟨some 'd', "duration",
      planning "seconds" positive fun plan duration => { plan with duration },
      "Duration of each trial in seconds", some throughputStart.duration.text⟩,
    ⟨none, "lossrate", planning "percent" number fun plan lossrate => { plan with lossrate },
      "Acceptable packet loss", some throughputStart.lossrate.text⟩,
    ⟨none, "multistream",
      .switch fun request => { request with plan := { request.plan with multistream := true } },
      "Use multiple streams", some (toString throughputStart.multistream)⟩]

end Request

end ManualTraffic
