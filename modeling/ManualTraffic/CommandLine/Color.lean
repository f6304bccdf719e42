/-
# ManualTraffic.CommandLine.Color -- when to write in colour

The streams of a run are no terminal, so colour has to be asked for.  The variable
`FORCE_COLOR` asks for it or rules it out, and where it is not set, words such as
`--color` and `--no-color` do.  What was asked for then gives way to what the
environment tells of the terminal or of the service that runs the program
(`Color.told?`).  Outlines go by `FORCE_COLOR` alone (`Color.outlines`).

The rules stand for those of the package that writes the styles, whose lists of
terminals and of services are taken over; those of outlines belong to the runtime.
Both tell how many colours to write.  Here it is only whether there are any, since the
program writes the sixteen basic ones alone.
-/
import ManualTraffic.Settings.Environment
import ManualTraffic.Text.Blank
import ManualTraffic.Text.Digits

namespace ManualTraffic

set_option autoImplicit false

namespace Color

/-- What is asked for: nothing, no colour at all, or a choice that holds unless the
environment tells otherwise. -/
inductive Wish where
  | unspoken
  | never
  | spoken (colored : Bool)
  deriving DecidableEq

/-! ## The variable that decides -/

/-- The variable that asks for colour. -/
def variableName : String := "FORCE_COLOR"

/-- The whole number that a text starts with, blanks before it aside. -/
def leadingInteger? (text : List Char) : Option Int :=
  let digits (ds : List Char) : Option Int :=
    (Text.decimal? (ds.takeWhile Char.isDigit)).map Int.ofNat
  match text.dropWhile isBlank with
  | '-' :: ds => (digits ds).map fun n => -n
  | '+' :: ds => digits ds
  | ds => digits ds

/-- The wish in a text: colour when it is empty, `true` or a number above zero, none
at all when it is `false` or zero. -/
def Wish.ofText (text : String) : Wish :=
  if text = "" ∨ text = "true" then .spoken true
  else if text = "false" then .never
  else
    match leadingInteger? text.toList with
    | some 0 => .never
    | some n => .spoken (0 < n)
    | none => .spoken false

/-! ## Words that decide -/

/-- The words that rule colour out. -/
def refusing : List String := ["--no-color", "--no-colors", "--color=false", "--color=never"]

/-- The words that ask for colour. -/
def asking : List String := ["--color", "--colors", "--color=true", "--color=always"]

/-- The words that ask for many colours. -/
def detailed : List String := ["--color=16m", "--color=full", "--color=truecolor", "--color=256"]

/-- Whether one of some words stands before a lone `--`. -/
def mentions (words wanted : List String) : Bool :=
  (words.takeWhile (· != "--")).any wanted.contains

/-- The wish in the words of a command line. -/
def Wish.ofWords (words : List String) : Wish :=
  if mentions words refusing then .never
  else if mentions words asking then .spoken true
  else .unspoken

/-- What is asked for: by the variable, else by the words. -/
def wish (environment : Environment) (words : List String) : Wish :=
  match environment.get? variableName with
  | some text => .ofText text
  | none => .ofWords words

/-! ## What is known of the terminal -/

/-- Whether a text holds a part. -/
def holds (part : List Char) : List Char → Bool
  | [] => part.isEmpty
  | c :: rest => part.isPrefixOf (c :: rest) || holds part rest

/-- Whether an environment sets a variable, even to nothing. -/
def sets (environment : Environment) (name : String) : Bool := (environment.get? name).isSome

/-- Terminals known to show colour by the whole name of their type. -/
def terminals : List String := ["xterm-kitty", "xterm-ghostty", "wezterm"]

/-- Whether a terminal of a type shows colour: one that is known, or one whose type
says so, letter case aside. -/
def isColorTerminal (type : String) : Bool :=
  let lowered := type.toList.map Char.toLower
  terminals.contains type ||
    ["-256", "-256color"].any (fun tail => tail.toList.isSuffixOf lowered) ||
    ["screen", "xterm", "vt100", "vt220", "rxvt"].any (fun head =>
      head.toList.isPrefixOf lowered) ||
    ["color", "ansi", "cygwin", "linux"].any fun part => holds part.toList lowered

/-- Programs known to be terminals that show colour. -/
def programs : List String := ["iTerm.app", "Apple_Terminal"]

/-- The variables by which build services that show colour are known. -/
def services : List String :=
  ["GITHUB_ACTIONS", "GITEA_ACTIONS", "CIRCLECI", "TRAVIS", "APPVEYOR", "GITLAB_CI", "BUILDKITE",
    "DRONE"]

/-- Whether a build server of a version shows colour: from 9.1 on. -/
def isColorServer (version : String) : Bool :=
  let major := version.toList.takeWhile Char.isDigit
  match version.toList.dropWhile Char.isDigit with
  | '.' :: rest =>
      2 ≤ major.length ||
        (major == ['9'] && (rest.takeWhile Char.isDigit).any (· != '0') &&
          (rest.dropWhile Char.isDigit).head? == some '.')
  | _ => false

/-- Whether the environment is that of a build agent that always shows colour. -/
def isColorAgent (environment : Environment) : Bool :=
  sets environment "TF_BUILD" && sets environment "AGENT_NAME"

/-- What the environment tells of colour.  On a dumb terminal it tells nothing; of the
others a build service counts first, then a build server, then the terminal. -/
def told? (environment : Environment) : Option Bool :=
  let isShown (shown : Bool) : Option Bool := if shown then some true else none
  let type := environment.get? "TERM"
  if type = some "dumb" then none
  else if sets environment "CI" then
    isShown (services.any (sets environment) || environment.get? "CI_NAME" == some "codeship")
  else
    match environment.get? "TEAMCITY_VERSION" with
    | some version => some (isColorServer version)
    | none =>
        isShown (sets environment "COLORTERM" || type.any isColorTerminal ||
          (environment.get? "TERM_PROGRAM").any programs.contains)

/-- The variables that a run looks at for the sake of colour. -/
def watched : List String :=
  [variableName, "TERM", "COLORTERM", "TERM_PROGRAM", "CI", "CI_NAME", "TEAMCITY_VERSION",
    "TF_BUILD", "AGENT_NAME"] ++ services

/-! ## Decisions -/

/-- Whether styles are written. -/
def styles (environment : Environment) (words : List String) : Bool :=
  let certain := mentions words detailed || isColorAgent environment
  match wish environment words with
  | .never => false
  | .unspoken => certain
  | .spoken colored => certain || (told? environment).getD colored

/-- The settings of the variable under which outlines are coloured. -/
def outlineSettings : List String := ["", "1", "true", "2", "3"]

/-- Whether outlines are coloured. -/
def outlines (environment : Environment) : Bool :=
  (environment.get? variableName).any outlineSettings.contains

end Color

end ManualTraffic
