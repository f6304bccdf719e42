/-
# ManualTraffic.Main -- the command line

The thin outer layer: it looks up what a run may depend on, and lets the operator
talk to `CommandLine.execute` line by line.  A run that ends for want of input is
made again with one more line; what it wrote before is not written twice.
-/
import ManualTraffic.CommandLine.Run
import ManualTraffic.Settings.Assignments

set_option autoImplicit false

namespace ManualTraffic

namespace Terminal

/-- The variable that holds the key of a sealed file of assignments. -/
def keyVariable : String := "DOTENV_KEY"

/-- The variables that a run looks at. -/
def watched : List String :=
  [Settings.fileVariable, Settings.frameSizeVariable, Settings.logLevelVariable,
    keyVariable] ++ Color.watched

/-- The environment of the process. -/
def environment : IO Environment := do
  let found ← watched.mapM fun name => do
    let text ← IO.getEnv name
    pure (text.map fun text => (name, text))
  pure (found.filterMap id)

/-- The bytes of a file, or why there are none. -/
def readBytes (file : String) : IO (Except String (List UInt8)) := do
  try
    let bytes ← IO.FS.readBinFile file
    pure (.ok bytes.toList)
  catch failure => pure (.error (toString failure))

/-- What comes of a file of assignments, in the version 16.6.1 of the package that reads
it.  Sealed files are not opened here, so a key draws a warning. -/
def startup (environment : Environment) (file : Option (List UInt8)) : Startup where
  assigned := (file.map fun bytes => Assignments.parse (Utf8.decode bytes)).getD []
  notice :=
    if (environment.nonEmpty? keyVariable).isSome then
      "[dotenv@16.6.1][WARN] You set DOTENV_KEY but you are missing a .env.vault file at null. " ++
        "Did you forget to build it?\n"
    else ""

/-- The host that the process is. -/
def host : IO Host := do
  let environment ← environment
  let assignments ← readBytes ".env"
  let bare : Host :=
    { environment
      startup := startup environment assignments.toOption
      read := fun _ => .error ""
      bundledFile := "config/traffic-defaults.json" }
  match bare.extended.nonEmpty? Settings.fileVariable with
  | none => pure bare
  | some file => do
      let found ← readBytes file
      pure { bare with read := fun _ => found }

/-- The bytes up to the next line feed, or up to the end of the input. -/
partial def readLine (stream : IO.FS.Stream) (line : List UInt8) : IO (List UInt8) := do
  let bytes ← stream.read 1
  match bytes.toList with
  | [] => pure line
  | byte :: _ => if byte = 10 then pure (line ++ [byte]) else readLine stream (line ++ [byte])

/-- Lets a run go on for as long as there is input, with the given counts of
characters written already. -/
partial def converse (host : Host) (words : List String) (input : List UInt8)
    (written logged : Nat) : IO Outcome := do
  let outcome := CommandLine.execute host words (Utf8.decodeWhole input)
  IO.print (String.ofList (outcome.stdout.toList.drop written))
  IO.eprint (String.ofList (outcome.log.toList.drop logged))
  (← IO.getStdout).flush
  if outcome.starved then
    let line ← readLine (← IO.getStdin) []
    if line.isEmpty then pure outcome
    else converse host words (input ++ line) outcome.stdout.length outcome.log.length
  else pure outcome

end Terminal

end ManualTraffic

/-- Runs the program on the words of its command line. -/
def main (words : List String) : IO UInt32 := do
  let host ← ManualTraffic.Terminal.host
  let outcome ← ManualTraffic.Terminal.converse host words [] 0 0
  IO.eprint outcome.complaint
  pure outcome.code.toUInt32
