/-
# ManualTraffic.CommandLine.Run -- a run of the program

`execute` is the whole program as a function of its host, of the words of the
command line and of the input.  A package that looks for a file of assignments comes
first, and how it fares is a part of the host (`Startup`).  What a run writes only grows
with the input, up to the complaint at its end: a run that ended for want of input
(`Outcome.starved`) goes on from the same texts when there is more.
-/
import ManualTraffic.CommandLine.Color
import ManualTraffic.CommandLine.Command
import ManualTraffic.FlowConfig.Outline
import ManualTraffic.Settings.Basic
import ManualTraffic.Text.Utf8

namespace ManualTraffic

set_option autoImplicit false

/-- How a package fares with the file of assignments in the working directory as the program
starts.  There may be no such file, or a sealed one, or a key that does not fit it; what is
assigned and written then is a matter of the package, so this is given, not computed. -/
structure Startup where
  /-- Texts for names that are not set. -/
  assigned : List (String × String) := []
  /-- What is written to the output, ahead of all that the program writes. -/
  notice : String := ""
  /-- The complaint, if the package fails; the program does not start then. -/
  failure : Option String := none

/-- Where the program runs. -/
structure Host where
  environment : Environment
  startup : Startup
  read : Settings.FileReader
  /-- The name of the bundled defaults file. -/
  bundledFile : String

/-- The environment with the assignments of the working directory. -/
def Host.extended (host : Host) : Environment :=
  host.environment.extend host.startup.assigned

/-- How a run ended and what it wrote. -/
structure Outcome where
  code : UInt8
  stdout : String
  /-- What it wrote to the error stream on its way. -/
  log : String
  /-- What it wrote to the error stream at its end. -/
  complaint : String
  /-- The input that it did not read. -/
  unread : List Char
  /-- Whether the run ended because the operator's input did. -/
  starved : Bool

/-- All that a run wrote to the error stream. -/
def Outcome.stderr (outcome : Outcome) : String := outcome.log ++ outcome.complaint

/-- An outcome that comes after a text. -/
def Outcome.after (text : String) (outcome : Outcome) : Outcome :=
  { outcome with stdout := text ++ outcome.stdout }

namespace CommandLine

/-! ## Logging -/

/-- A line of the log as it is written: the data follow on the same line. -/
def logText (color outlineColor : Bool) (line : LogLine FlowConfig) : String :=
  line.text color ++
    (match line.data with
      | some config => " " ++ config.outline outlineColor
      | none => "") ++ "\n"

/-- The line that tells a fault. -/
def faultText (fault : Fault) : String := "Error: " ++ fault.message ++ "\n"

/-! ## Running tests -/

/-- The tests of a request under the settings: the generator is made, connected to,
and disconnected from at the end. -/
def perform {σ : Type} [Console σ] (color : Bool) (settings : Settings)
    (request : Request (List Test)) : EStateM Fault (Desk σ) Unit := do
  Desk.debug ("traffic defaults loaded from " ++ settings.defaultsFile) none
  let generator ← Desk.check (Generator.create request.generator settings.defaults)
  generator.link.within fun connected => do
    let flow ← Desk.check request.override
    Test.runAll connected flow request.format color request.plan

/-- A run of tests with the operator's input, with or without styles.  Outlines heed
the assignments of the working directory. -/
def runTests (host : Host) (color : Bool) (input : List Char) (request : Request (List Test)) :
    Outcome :=
  let environment := host.extended
  match Settings.load environment host.read host.bundledFile with
  | .error fault => ⟨2, "", "", faultText fault, input, false⟩
  | .ok settings =>
      let log (desk : Desk LineConsole) : String :=
        String.join (desk.journal.lines.map (logText color (Color.outlines environment)))
      match perform color settings request ⟨⟨input, ""⟩, ⟨some settings.logLevel, []⟩⟩ with
      | .ok _ desk => ⟨0, desk.console.written, log desk, "", desk.console.unread, false⟩
      | .error fault desk =>
          ⟨2, desk.console.written, log desk, faultText fault, desk.console.unread,
            fault = .inputClosed⟩

/-- What the words ask for, on an input. -/
def respond (host : Host) (words : List String) (input : List Char) : Outcome :=
  match Invocation.ofWords words with
  | .answer text => ⟨0, text, "", "", input, false⟩
  | .guide text => ⟨1, "", "", text, input, false⟩
  | .refuse fault => ⟨1, "", "", fault.message ++ "\n", input, false⟩
  | .run request => runTests host (Color.styles host.environment words) input request

/-- The program: where it starts, it does what the words ask for. -/
def execute (host : Host) (words : List String) (input : List Char) : Outcome :=
  match host.startup.failure with
  | some complaint => ⟨1, host.startup.notice, "", complaint, input, false⟩
  | none => (respond host words input).after host.startup.notice

end CommandLine

end ManualTraffic
