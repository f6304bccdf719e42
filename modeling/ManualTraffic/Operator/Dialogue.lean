/-
# ManualTraffic.Operator.Dialogue -- asking for figures

For one statistic the operator is asked until an answer is a whole number and is
confirmed.  The dialogue is a machine of two states, `Waiting`, and `Waiting.reply`
is its step.  `Dialogue.collect` asks for several statistics in order, and
`Dialogue.announce` tells the operator first what to send.
-/
import ManualTraffic.FlowConfig.Json
import ManualTraffic.Operator.Answer
import ManualTraffic.Operator.Console

namespace ManualTraffic

set_option autoImplicit false

/-- What a dialogue waits for. -/
inductive Waiting where
  /-- A value. -/
  | value
  /-- The confirmation of a value. -/
  | confirmation (candidate : Binary64)
  deriving DecidableEq

/-- What an answer does to a dialogue. -/
inductive Reply where
  /-- The value is confirmed. -/
  | accepted (value : Binary64)
  /-- The dialogue goes on, after something is shown. -/
  | goOn (next : Waiting) (shown : List Shown)
  deriving DecidableEq

namespace Waiting

/-- The question that a dialogue asks. -/
def question (stat : String) : Waiting → String
  | .value => "What was the result for '" ++ stat ++ "'? "
  | .confirmation candidate => "Is '" ++ candidate.text ++ "' correct? "

/-- One answer: a value is to be a whole number, then it is to be confirmed.  A
rejected value is asked for anew. -/
def reply : Waiting → String → Reply
  | .value, answer =>
      match Answer.integer? answer with
      | some candidate => .goOn (.confirmation candidate) []
      | none => .goOn .value [.print "That was not a valid integer result. Try again."]
  | .confirmation candidate, answer =>
      if Answer.accepts answer then .accepted candidate
      else if Answer.rejects answer then .goOn .value []
      else .goOn (.confirmation candidate) [.write "Please respond with 'yes' or 'no' "]

end Waiting

namespace Dialogue

variable {σ : Type} [Console σ]

/-- The dialogue for a statistic, from where it stands.  Each answer costs one of
the fuel. -/
def stat (name : String) : Nat → Waiting → EStateM Fault σ Binary64
  | 0, _ => throw .inputClosed
  | fuel + 1, waiting => do
      let answer ← Console.ask (waiting.question name)
      match waiting.reply answer with
      | .accepted value => pure value
      | .goOn next shown => do
          Console.tellAll shown
          stat name fuel next

/-- Asks for a statistic until a value is confirmed.  The answers that are left,
and the question that would find none, are all the fuel it takes. -/
def askStat (name : String) : EStateM Fault σ Binary64 := do
  stat name (Console.left (← get) + 1) .value

/-- Asks for several statistics in order. -/
def collect : List String → EStateM Fault σ (List Binary64)
  | [] => pure []
  | name :: names => do
      let value ← askStat name
      let values ← collect names
      pure (value :: values)

/-- What the operator is told to send. -/
def announcement (kind stream : String) (flow : FlowConfig) : String :=
  "Please send '" ++ kind ++ "' traffic with the following stream config:\n" ++ stream ++
    "\nand the following flow config:\n" ++ flow.toJson.indented 4

/-- Tells the operator what to send and asks for the statistics. -/
def announce (kind stream : String) (flow : FlowConfig) (stats : List String) :
    EStateM Fault σ (List Binary64) := do
  Console.tell (.print (announcement kind stream flow))
  collect stats

end Dialogue

end ManualTraffic
