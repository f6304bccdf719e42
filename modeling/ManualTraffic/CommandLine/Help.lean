/-
# ManualTraffic.CommandLine.Help -- the help of a command

A help text names the usage, says what the command does, and lists options and
commands, each with its description in a second column that is as far right as the
longest term of the text asks for.  A description fills its column greedily: a line
ends where the next word would not fit.

The layout is that of the package that the program leaves its help to, at the width
that this package takes where the output is no terminal.
-/

namespace ManualTraffic

set_option autoImplicit false

/-- Something listed in a help text: how it is written, and what it is. -/
structure HelpItem where
  term : String
  description : String

namespace Help

/-- The columns of a help text. -/
def columns : Nat := 80

/-- The space on the left of each item, and between its columns. -/
def gap : Nat := 2

def spaces (count : Nat) : String := String.ofList (List.replicate count ' ')

/-- The lines that begin with `line` and go on with words, each of at most `width`
characters unless it holds a single word. -/
def fillFrom (width : Nat) (line : String) : List String → List String
  | [] => [line]
  | word :: words =>
      if line.length + 1 + word.length ≤ width then fillFrom width (line ++ " " ++ word) words
      else line :: fillFrom width word words

/-- Words set in lines of at most `width` characters. -/
def fill (width : Nat) : List String → List String
  | [] => []
  | word :: words => fillFrom width word words

/-- The lines of an item in a text whose terms are at most `termWidth` wide.  The
last column stays free. -/
def itemLines (termWidth : Nat) (item : HelpItem) : List String :=
  let indent := termWidth + gap
  match fill (columns - gap - indent - 1) (item.description.splitOn " ") with
  | [] => [spaces gap ++ item.term]
  | line :: lines =>
      (spaces gap ++ item.term ++ spaces (indent - item.term.length) ++ line) ::
        lines.map fun line => spaces (gap + indent) ++ line

/-- A titled list, and the empty line after it. -/
def sectionLines (termWidth : Nat) : String × List HelpItem → List String
  | (title, items) => title :: (items.flatMap (itemLines termWidth) ++ [""])

/-- A help text: usage, description and titled lists. -/
def text (usage description : String) (lists : List (String × List HelpItem)) : String :=
  let termWidth := ((lists.flatMap (·.2)).map (·.term.length)).foldl max 0
  "\n".intercalate
    (["Usage: " ++ usage, "", description, ""] ++ lists.flatMap (sectionLines termWidth))

end Help

end ManualTraffic
