/-
# ManualTraffic.Operator.Calls -- a list of calls on a console

A call asks, shows, or leads a whole dialogue.  `ConsoleCall.accounts` makes calls
one after another on any console: one that fails does not end the list, and each
account shows what its own call showed.
-/
import ManualTraffic.Operator.Dialogue

namespace ManualTraffic

set_option autoImplicit false

/-- A call on a console. -/
inductive ConsoleCall where
  | ask (question : String)
  | print (text : String)
  | write (text : String)
  /-- The dialogue for one statistic. -/
  | stat (name : String)
  /-- An announcement, and the dialogues for its statistics. -/
  | announce (kind stream : String) (flow : FlowConfig) (stats : List String)

/-- What a call returns. -/
inductive ConsoleResult where
  | nothing
  | answer (text : String)
  | value (value : Binary64)
  | values (values : List Binary64)
  deriving DecidableEq

/-- The same operator with nothing shown to it. -/
def ScriptedOperator.cleared (s : ScriptedOperator) : ScriptedOperator := { s with shown := [] }

/-- The same console with nothing written on it. -/
def LineConsole.cleared (s : LineConsole) : LineConsole := { s with written := "" }

namespace ConsoleCall

variable {σ : Type} [Console σ]

/-- Makes a call. -/
def run : ConsoleCall → EStateM Fault σ ConsoleResult
  | .ask question => do
      let answer ← Console.ask question
      pure (.answer answer)
  | .print text => do
      Console.tell (.print text)
      pure .nothing
  | .write text => do
      Console.tell (.write text)
      pure .nothing
  | .stat name => do
      let value ← Dialogue.askStat name
      pure (.value value)
  | .announce kind stream flow stats => do
      let values ← Dialogue.announce kind stream flow stats
      pure (.values values)

/-- The outcomes of calls and the consoles after them, each call made on a console
that was cleared first. -/
def accounts (clear : σ → σ) : σ → List ConsoleCall → List (Except Fault ConsoleResult × σ)
  | _, [] => []
  | console, call :: calls =>
      match call.run (clear console) with
      | .ok result after => (.ok result, after) :: accounts clear after calls
      | .error fault after => (.error fault, after) :: accounts clear after calls

end ConsoleCall

end ManualTraffic
