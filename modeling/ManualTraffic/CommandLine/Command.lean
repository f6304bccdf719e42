/-
# ManualTraffic.CommandLine.Command -- the commands, and what a command line means

A command has its flags and turns a request into the tests to run.
`Invocation.ofWords` is the meaning of a command line: a run, a text that was asked
for, or a refusal.  The program looks at all words first; a command then looks at
the operands behind its name and at what the program did not know.
-/
import ManualTraffic.CommandLine.Request

namespace ManualTraffic

set_option autoImplicit false

/-- A command of the program. -/
structure Command where
  name : String
  description : String
  /-- The flags as the help lists them. -/
  helpItems : List HelpItem
  /-- The long names of the flags. -/
  longNames : List String
  /-- Sorts words by the flags of the command. -/
  sort : List String → Except UsageFault (Sorted (Request (List Test)))

namespace Command

/-! ## The commands -/

/-- A command from its own flags, with the plan it starts from and the tests of a
plan. -/
def make {π : Type} (name description : String) (own : List (Flag (Request π))) (start : π)
    (tests : π → List Test) : Command :=
  let flags := own ++ Request.commonFlags
  { name, description
    helpItems := flags.map Flag.helpItem
    longNames := flags.map Flag.longName
    sort := fun words =>
      match Flag.sort flags words { plan := start } with
      | .ok sorted =>
          .ok (sorted.map fun request => { request with plan := tests request.plan })
      | .error fault => .error fault }

/-- A fixed count of frames. -/
def burst : Command :=
  make "burst" "Send a fixed-size burst of traffic" Request.burstFlags Request.burstStart
    fun plan => [.burst plan.options]

/-- A flow over a duration. -/
def continuous : Command :=
  make "continuous" "Send a continuous flow of traffic" Request.continuousFlags
    Request.continuousStart fun plan => [.continuous plan.options]

/-- The highest rate without undue loss. -/
def throughput : Command :=
  make "throughput" "Run an RFC 2544 throughput test" Request.throughputFlags
    Request.throughputStart fun plan => [.throughput plan.options]

/-- The three tests in a row, with all options left to the generator. -/
def all : Command :=
  make "all" "Run burst, continuous and throughput tests with their defaults" [] ()
    fun _ => [.burst {}, .continuous {}, .throughput {}]

/-- The commands, in the order in which the help lists them. -/
def list : List Command := [burst, continuous, throughput, all]

/-- The command of a name. -/
def ofName? (name : String) : Option Command := list.find? (·.name = name)

/-! ## Help -/

/-- The name of the program. -/
def programName : String := "trafficgen-dummy"

/-- The version of the program. -/
def programVersion : String := "1.0.0"

/-- The flag that asks for help, as the help lists it. -/
def helpFlagItem : HelpItem := ⟨"-h, --help", "display help for command"⟩

/-- Whether words ask for help. -/
def asksForHelp (words : List String) : Bool :=
  words.any fun word => word = "-h" || word = "--help"

/-- The help of a command. -/
def help (command : Command) : String :=
  Help.text (programName ++ " " ++ command.name ++ " [options]") command.description
    [("Options:", command.helpItems ++ [helpFlagItem])]

/-- A command as the help of the program lists it. -/
def helpItem (command : Command) : HelpItem :=
  ⟨command.name ++ " [options]", command.description⟩

/-- The flags of the program: whether its version is asked for. -/
def programFlags : List (Flag Bool) :=
  [⟨some 'V', "version", .switch fun _ => true, "output the version number", none⟩]

/-- The help of the program. -/
def programHelp : String :=
  Help.text (programName ++ " [options] [command]")
    "Manual traffic generator: you send the traffic, it records the results"
    [("Options:", programFlags.map Flag.helpItem ++ [helpFlagItem]),
      ("Commands:",
        list.map helpItem ++ [⟨"help [command]", "display help for command"⟩])]

end Command

/-- What a command line means. -/
inductive Invocation where
  /-- Tests to run. -/
  | run (request : Request (List Test))
  /-- A text that was asked for. -/
  | answer (text : String)
  /-- The help, for want of anything to do. -/
  | guide (text : String)
  | refuse (fault : UsageFault)

namespace Invocation

/-- What the words that the program did not know mean to a command.  Operands are
passed over. -/
def ofCommand (command : Command) (unknown : List String) : Invocation :=
  match command.sort unknown with
  | .error fault => .refuse fault
  | .ok sorted =>
      if Command.asksForHelp sorted.unknown then .answer command.help
      else
        match sorted.unknown with
        | [] => .run sorted.request
        | word :: _ =>
            .refuse (.unknownOption word (command.longNames ++ ["--help", "--version", "--help"]))

/-- What a request for help means: the help of a command, or of the program where
none is named. -/
def ofHelp : List String → Invocation
  | [] => .answer Command.programHelp
  | name :: _ =>
      if name = "" then .answer Command.programHelp
      else
        match Command.ofName? name with
        | some command => .answer command.help
        | none => .guide Command.programHelp

/-- What operands and unknown words mean when no command is named. -/
def withoutCommand (operands unknown : List String) : Invocation :=
  if Command.asksForHelp unknown then .answer Command.programHelp
  else
    match operands, unknown with
    | name :: _, _ =>
        .refuse (.unknownCommand name (Command.list.map (·.name) ++ ["help"]))
    | [], word :: _ => .refuse (.unknownOption word ["--version", "--help"])
    | [], [] => .guide Command.programHelp

/-- What the words of a command line mean. -/
def ofWords (words : List String) : Invocation :=
  match Flag.sort Command.programFlags words false with
  | .error fault => .refuse fault
  | .ok ⟨true, _, _⟩ => .answer (Command.programVersion ++ "\n")
  | .ok ⟨false, operands, unknown⟩ =>
      match operands with
      | [] => withoutCommand [] unknown
      | name :: more =>
          match Command.ofName? name with
          | some command => ofCommand command unknown
          | none => if name = "help" then ofHelp more else withoutCommand operands unknown

end Invocation

end ManualTraffic
