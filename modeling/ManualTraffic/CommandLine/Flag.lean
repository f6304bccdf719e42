/-
# ManualTraffic.CommandLine.Flag -- options and their arguments

A flag is an option of a command: a switch, or an option with an argument, which it
reads into the request `ρ` of the command.  `Flag.sort` goes through the words of a
command line, applies the flags among them and parts the other words into operands
and unknown ones: from the first unknown option on, all that is not a flag is
unknown, for a command further down to look at.

Sorting stands for that of the package that the program leaves its command line to,
and so do the refusals and their texts, `Help` and `Similar`.  Of that package they
have what the program uses: switches, options with one argument that must be given,
one level of commands, help and suggestions.  Options that must be there, that may do
without their argument or take several, and declared operands are left out.
-/
import ManualTraffic.CommandLine.Help
import ManualTraffic.CommandLine.Similar

namespace ManualTraffic

set_option autoImplicit false

/-- What a flag does to a request. -/
inductive FlagEffect (ρ : Type) where
  | switch (set : ρ → ρ)
  /-- An argument under a name, and how it is read. -/
  | argument (name : String) (read : String → ρ → Except String ρ)

/-- An option of a command. -/
structure Flag (ρ : Type) where
  short : Option Char
  long : String
  effect : FlagEffect ρ
  description : String
  /-- The default that the help shows. -/
  default : Option String

/-- What is wrong with a command line. -/
inductive UsageFault where
  | missingArgument (flag : String)
  | badArgument (flag argument reason : String)
  | unknownOption (name : String) (candidates : List String)
  | unknownCommand (name : String) (candidates : List String)
  deriving DecidableEq

/-- The text of a usage fault. -/
def UsageFault.message : UsageFault → String
  | .missingArgument flag => "error: option '" ++ flag ++ "' argument missing"
  | .badArgument flag argument reason =>
      "error: option '" ++ flag ++ "' argument '" ++ argument ++ "' is invalid. " ++ reason
  | .unknownOption name candidates =>
      "error: unknown option '" ++ name ++ "'" ++
        (if "--".toList.isPrefixOf name.toList then
          Similar.hint (Similar.suggestions name candidates) else "")
  | .unknownCommand name candidates =>
      "error: unknown command '" ++ name ++ "'" ++
        Similar.hint (Similar.suggestions name candidates)

/-- A request after its flags, and the words that are none. -/
structure Sorted (ρ : Type) where
  request : ρ
  operands : List String
  unknown : List String

/-- The same words beside another request. -/
def Sorted.map {ρ τ : Type} (f : ρ → τ) (sorted : Sorted ρ) : Sorted τ :=
  ⟨f sorted.request, sorted.operands, sorted.unknown⟩

namespace Flag

variable {ρ : Type}

/-- The long name with its dashes. -/
def longName (flag : Flag ρ) : String := "--" ++ flag.long

/-- How a flag is written: its names and its argument. -/
def usage (flag : Flag ρ) : String :=
  (match flag.short with
    | some c => String.ofList ['-', c, ',', ' ']
    | none => "") ++ flag.longName ++
    (match flag.effect with
      | .switch _ => ""
      | .argument name _ => " <" ++ name ++ ">")

/-- A flag as the help lists it. -/
def helpItem (flag : Flag ρ) : HelpItem :=
  ⟨flag.usage,
    flag.description ++
      (match flag.default with
        | some value => " (default: " ++ value ++ ")"
        | none => "")⟩

/-- Whether a word is one of the names of a flag. -/
def isNamed (word : String) (flag : Flag ρ) : Bool :=
  word = flag.longName ||
    (match flag.short with
      | some c => word = String.ofList ['-', c]
      | none => false)

/-- Applies a flag with an argument. -/
def apply (flag : Flag ρ) (read : String → ρ → Except String ρ) (argument : String)
    (request : ρ) : Except UsageFault ρ :=
  match read argument request with
  | .ok request => .ok request
  | .error reason => .error (.badArgument flag.usage argument reason)

/-- A word as a long option with its argument after an equals sign. -/
def splitLong? (word : String) : Option (String × String) :=
  match word.toList with
  | '-' :: '-' :: rest =>
      match rest.dropWhile (· != '=') with
      | '=' :: argument =>
          let name := rest.takeWhile (· != '=')
          if name = [] then none
          else some (String.ofList ('-' :: '-' :: name), String.ofList argument)
      | _ => none
  | _ => none

/-- Whether a word looks like an option. -/
def looksLike (word : String) : Bool :=
  match word.toList with
  | '-' :: _ :: _ => true
  | _ => false

/-- A word that is no flag, put with its like. -/
def keep (unknown : Bool) (word : String) (sorted : Sorted ρ) : Sorted ρ :=
  if unknown then { sorted with unknown := word :: sorted.unknown }
  else { sorted with operands := word :: sorted.operands }

/-- Goes through the words from where an unknown option has been seen or not.  A
switch at the front of a group of letters leaves the rest of the group to be looked
at, so the fuel is the count of words and of their characters. -/
def sortFrom (flags : List (Flag ρ)) :
    Nat → Bool → List String → ρ → Except UsageFault (Sorted ρ)
  | 0, _, _, request => .ok ⟨request, [], []⟩
  | _, _, [], request => .ok ⟨request, [], []⟩
  | fuel + 1, unknown, word :: words, request =>
      if word = "--" then
        .ok (if unknown then ⟨request, [], word :: words⟩ else ⟨request, words, []⟩)
      else
        match flags.find? (isNamed word) with
        | some flag =>
            match flag.effect with
            | .switch set => sortFrom flags fuel unknown words (set request)
            | .argument _ read =>
                match words with
                | [] => .error (.missingArgument flag.usage)
                | argument :: words =>
                    match flag.apply read argument request with
                    | .error fault => .error fault
                    | .ok request => sortFrom flags fuel unknown words request
        | none =>
            match group? word with
            | some (flag, rest) =>
                match flag.effect with
                | .switch set =>
                    sortFrom flags fuel unknown (String.ofList ('-' :: rest) :: words)
                      (set request)
                | .argument _ read =>
                    match flag.apply read (String.ofList rest) request with
                    | .error fault => .error fault
                    | .ok request => sortFrom flags fuel unknown words request
            | none =>
                match assigned? word with
                | some (flag, read, argument) =>
                    match flag.apply read argument request with
                    | .error fault => .error fault
                    | .ok request => sortFrom flags fuel unknown words request
                | none =>
                    let unknown := unknown || looksLike word
                    match sortFrom flags fuel unknown words request with
                    | .error fault => .error fault
                    | .ok sorted => .ok (keep unknown word sorted)
where
  /-- A flag whose letter starts a group, and the rest of the group. -/
  group? (word : String) : Option (Flag ρ × List Char) :=
    match word.toList with
    | '-' :: c :: d :: rest =>
        if c = '-' then none
        else (flags.find? fun flag => flag.short = some c).map fun flag => (flag, d :: rest)
    | _ => none
  /-- A flag that takes the argument after the equals sign of a word. -/
  assigned? (word : String) : Option (Flag ρ × (String → ρ → Except String ρ) × String) :=
    match splitLong? word with
    | none => none
    | some (name, argument) =>
        match flags.find? (isNamed name) with
        | none => none
        | some flag =>
            match flag.effect with
            | .switch _ => none
            | .argument _ read => some (flag, read, argument)

/-- Sorts the words of a command line. -/
def sort (flags : List (Flag ρ)) (words : List String) (request : ρ) :
    Except UsageFault (Sorted ρ) :=
  sortFrom flags (words.foldr (fun word fuel => word.length + 1 + fuel) 0) false words request

end Flag

end ManualTraffic
