/-
# ManualTraffic.Settings.Basic -- what a run is set to

The settings of a run come from the environment and from a defaults file: the
default configuration, with a frame size set from outside merged in, and the level
of the log.  Unreadable and malformed defaults are refused first, then the frame
size, then the level.
-/
import ManualTraffic.FlowConfig.Json
import ManualTraffic.FlowConfig.Merge
import ManualTraffic.Fault
import ManualTraffic.Journal
import ManualTraffic.Settings.Bundled
import ManualTraffic.Settings.Environment
import ManualTraffic.Text.Digits
import ManualTraffic.Text.Lowercase
import ManualTraffic.Text.Utf8

namespace ManualTraffic

set_option autoImplicit false

/-- The settings of a run. -/
structure Settings where
  defaultsFile : String
  defaults : FlowConfig
  logLevel : LogLevel

namespace Settings

/-- Reads a file: its bytes, or why there are none. -/
abbrev FileReader := String → Except String (List UInt8)

/-- The variable that names the defaults file. -/
def fileVariable : String := "TRAFFICGEN_DEFAULTS_FILE"

/-- The variable that sets the frame size. -/
def frameSizeVariable : String := "TRAFFICGEN_FRAMESIZE"

/-- The variable that sets the level of the log. -/
def logLevelVariable : String := "TRAFFICGEN_LOG_LEVEL"

/-- The configuration in a defaults file. -/
def loadDefaults (read : FileReader) (file : String) : Except Fault FlowConfig :=
  match read file with
  | .error reason => .error (.unreadableDefaults file reason)
  | .ok bytes =>
      match Json.parse? (Utf8.decode bytes) with
      | none => .error (.unreadableDefaults file "not a JSON text")
      | some value =>
          match FlowConfig.ofJson? value with
          | none => .error (.malformedDefaults file)
          | some config => .ok config

/-- The defaults file of an environment and its configuration; the bundled one,
known as `bundledFile`, when none is named. -/
def chooseDefaults (environment : Environment) (read : FileReader) (bundledFile : String) :
    Except Fault (String × FlowConfig) :=
  match environment.nonEmpty? fileVariable with
  | none => .ok (bundledFile, Bundled.defaults)
  | some file =>
      match loadDefaults read file with
      | .ok config => .ok (file, config)
      | .error fault => .error fault

/-- The defaults with the frame size of the environment, if it sets one. -/
def withFrameSize (environment : Environment) (defaults : FlowConfig) : Except Fault FlowConfig :=
  match environment.nonEmpty? frameSizeVariable with
  | none => .ok defaults
  | some text =>
      match Text.wholeNumber? text with
      | none => .error (.badFrameSizeSetting text)
      | some size =>
          match defaults.merge (.ofFrameSize (.ofNat false size)) with
          | .ok merged => .ok merged
          | .error conflict => .error (.mergeConflict conflict.path)

/-- The log level of the environment, letter case aside. -/
def chooseLogLevel (environment : Environment) : Except Fault LogLevel :=
  let text := Text.lower ((environment.nonEmpty? logLevelVariable).getD "info")
  match LogLevel.ofName? text with
  | some level => .ok level
  | none => .error (.badLogLevelSetting text)

/-- The settings of an environment. -/
def load (environment : Environment) (read : FileReader) (bundledFile : String) :
    Except Fault Settings := do
  let (file, config) ← chooseDefaults environment read bundledFile
  let defaults ← withFrameSize environment config
  let level ← chooseLogLevel environment
  pure ⟨file, defaults, level⟩

end Settings

end ManualTraffic
