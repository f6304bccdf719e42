/-
# ManualTraffic.Journal -- the log of a run

A journal keeps the lines whose level reaches its threshold, in order; a silent one
keeps none.  Lines go to the error stream, so that prompts stay readable.
-/
import ManualTraffic.Text.Style

namespace ManualTraffic

set_option autoImplicit false

inductive LogLevel where
  | debug
  | info
  | warn
  | error
  deriving DecidableEq

namespace LogLevel

/-- The levels, the least urgent one first. -/
def all : List LogLevel := [.debug, .info, .warn, .error]

def name : LogLevel → String
  | .debug => "debug"
  | .info => "info"
  | .warn => "warn"
  | .error => "error"

/-- The level of a name. -/
def ofName? (text : String) : Option LogLevel := all.find? (·.name = text)

/-- How urgent a level is. -/
def rank : LogLevel → Nat
  | .debug => 0
  | .info => 1
  | .warn => 2
  | .error => 3

def style : LogLevel → Text.Style
  | .debug => .gray
  | .info => .blue
  | .warn => .yellow
  | .error => .red

end LogLevel

/-- A line of the log: its level, its message, and perhaps a value shown beside
it. -/
structure LogLine (δ : Type) where
  level : LogLevel
  message : String
  data : Option δ

/-- The line as it is written, its data aside. -/
def LogLine.text {δ : Type} (color : Bool) (line : LogLine δ) : String :=
  line.level.style.paint color ("[" ++ line.level.name.toUpper ++ "] " ++ line.message)

/-- A log with its threshold; without one it is silent. -/
structure Journal (δ : Type) where
  threshold : Option LogLevel
  lines : List (LogLine δ)

namespace Journal

variable {δ : Type}

/-- Whether a journal of the given threshold keeps a level. -/
def keeps (threshold : Option LogLevel) (level : LogLevel) : Bool :=
  match threshold with
  | none => false
  | some least => least.rank ≤ level.rank

/-- Adds a line if its level is kept. -/
def note (line : LogLine δ) (journal : Journal δ) : Journal δ :=
  if keeps journal.threshold line.level then
    { journal with lines := journal.lines ++ [line] }
  else journal

end Journal

end ManualTraffic
