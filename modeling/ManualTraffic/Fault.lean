/-
# ManualTraffic.Fault -- what can go wrong, and how it is reported

A `Fault` is a cause.  `Fault.notice` is how it is reported: its kind, the text, a
code for programs, and for a merge conflict the key path.  Every kind but the
general one is a special case of it (`NoticeKind.kinds`).
-/
import ManualTraffic.Binary64.Text

namespace ManualTraffic

set_option autoImplicit false

/-- The kinds of notices. -/
inductive NoticeKind where
  | general
  | mergeConflict
  | badConfig
  | inputClosed
  deriving DecidableEq

namespace NoticeKind

/-- The kinds that a notice of a kind belongs to, the general one first. -/
def kinds : NoticeKind → List NoticeKind
  | .general => [.general]
  | kind => [.general, kind]

end NoticeKind

/-- How a fault is reported. -/
structure Notice where
  kind : NoticeKind
  message : String
  code : Option String
  path : Option String
  deriving DecidableEq

namespace Notice

def general (message : String) (code : Option String) : Notice := ⟨.general, message, code, none⟩

/-- A scalar override at a key path where the defaults hold a mapping. -/
def mergeConflict (path : String) : Notice :=
  ⟨.mergeConflict, "Cannot merge scalar override into mapping at '" ++ path ++ "'",
    some "MERGE_TYPE_MISMATCH", some path⟩

def badConfig (message : String) : Notice :=
  ⟨.badConfig, message, some "INVALID_TRAFFIC_CONFIG", none⟩

def inputClosed : Notice :=
  ⟨.inputClosed, "Operator input closed before a result was entered", some "INPUT_CLOSED", none⟩

end Notice

/-- Why a test or a run cannot go on. -/
inductive Fault where
  /-- A scalar override at a path where the defaults hold a mapping. -/
  | mergeConflict (path : String)
  /-- The configuration has no mapping `l2`. -/
  | noLinkLayer
  /-- `l2.framesize` is missing or no finite number. -/
  | noFrameSize
  /-- A test duration that is missing, not finite or not above zero. -/
  | badDuration (given : Option Binary64)
  /-- The defaults file cannot be read, or holds no JSON text. -/
  | unreadableDefaults (file reason : String)
  /-- The defaults file holds something else than a configuration. -/
  | malformedDefaults (file : String)
  /-- A frame size in the environment that is no whole number. -/
  | badFrameSizeSetting (text : String)
  /-- A log level in the environment that there is not. -/
  | badLogLevelSetting (text : String)
  /-- The operator's input ended before the answer to a question. -/
  | inputClosed
  /-- A list of answers that does not match the statistics asked for. -/
  | answerCount (stats : List String) (given : Nat)
  /-- A generator name that is not registered. -/
  | unknownGenerator (name : String) (available : List String)
  deriving DecidableEq

namespace Fault

def notice : Fault → Notice
  | .mergeConflict path => .mergeConflict path
  | .noLinkLayer => .badConfig "Traffic configuration has no 'l2' section"
  | .noFrameSize => .badConfig "Traffic configuration 'l2.framesize' must be a number"
  | .badDuration given =>
      .badConfig
        ("Test duration must be greater than 0, got " ++ (given.map Binary64.text).getD "undefined")
  | .unreadableDefaults file reason =>
      .badConfig ("Cannot read traffic defaults from " ++ file ++ ": " ++ reason)
  | .malformedDefaults file =>
      .badConfig ("Traffic defaults in " ++ file ++ " must be a JSON object of scalars and objects")
  | .badFrameSizeSetting text =>
      .badConfig ("TRAFFICGEN_FRAMESIZE must be an integer, got '" ++ text ++ "'")
  | .badLogLevelSetting text =>
      .badConfig
        ("TRAFFICGEN_LOG_LEVEL must be one of debug, info, warn, error; got '" ++ text ++ "'")
  | .inputClosed => .inputClosed
  | .answerCount stats given =>
      .general
        ("Expected " ++ toString stats.length ++ " answers (" ++ ", ".intercalate stats ++
          "), got " ++ toString given)
        (some "STAT_COUNT_MISMATCH")
  | .unknownGenerator name available =>
      .general
        ("Unknown traffic generator '" ++ name ++ "'. Available: " ++ ", ".intercalate available)
        (some "UNKNOWN_GENERATOR")

/-- The text of a fault. -/
def message (fault : Fault) : String := fault.notice.message

end Fault

end ManualTraffic
