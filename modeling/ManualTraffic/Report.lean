/-
# ManualTraffic.Report -- a record in print

A record is printed as a table, as JSON or as two lines of comma-separated values.
Unknown figures are left out of the table and of the JSON text and are `undefined`
among the comma-separated ones.
-/
import ManualTraffic.Json.Printer
import ManualTraffic.Results
import ManualTraffic.Text.Style
import ManualTraffic.Text.Units

namespace ManualTraffic

set_option autoImplicit false

inductive OutputFormat where
  | pretty
  | json
  | csv
  deriving DecidableEq

namespace OutputFormat

def all : List OutputFormat := [.pretty, .json, .csv]

def name : OutputFormat → String
  | .pretty => "pretty"
  | .json => "json"
  | .csv => "csv"

/-- The format of a name. -/
def ofName? (text : String) : Option OutputFormat := all.find? (·.name = text)

end OutputFormat

namespace Report

/-- A figure in the table: a whole number as it is, any other with two decimals. -/
def figure (value : Binary64) : String :=
  if value.isWhole then value.text else value.fixed 2

/-- The line above and below the table. -/
def rule : String := String.ofList (List.replicate 38 '═')

/-- The width of the name column: the longest name, its colon and a space. -/
def nameWidth (record : Record) : Nat :=
  (record.map fun (key, _) => Text.units key.toList).foldl max 0 + 2

/-- The row of a figure. -/
def row (color : Bool) (width : Nat) (key : String) (value : Binary64) : String :=
  "  " ++ String.ofList (Text.padEnd width (key.toList ++ [':'])) ++
    Text.Style.bold.paint color (figure value)

/-- The rows of the known figures. -/
def rows (color : Bool) (record : Record) : List String :=
  record.filterMap fun (key, value) => value.map (row color (nameWidth record) key)

def prettyLines (color : Bool) (test : String) (record : Record) : List String :=
  ["", Text.Style.bold.paint color "Traffic Generator Results", Text.Style.gray.paint color rule,
    Text.Style.cyan.paint color "Test:" ++ "  " ++ test, ""] ++
    rows color record ++ [Text.Style.gray.paint color rule, ""]

/-- The figures as members of a JSON object. -/
def members (record : Record) : List (String × Json) :=
  record.filterMap fun (key, value) => value.map fun x => (key, .number x)

def toJson (test : String) (record : Record) : Json :=
  .object [("test", .string test), ("results", .object (members record))]

/-- The fields of the header line. -/
def csvHeader (record : Record) : List String := "test" :: record.map (·.1)

/-- The fields of the data line. -/
def csvFields (test : String) (record : Record) : List String :=
  test :: record.map fun (_, value) => (value.map Binary64.text).getD "undefined"

/-- A report, print by print: each string is followed by a line break. -/
def lines (format : OutputFormat) (color : Bool) (test : String) (record : Record) :
    List String :=
  match format with
  | .pretty => prettyLines color test record
  | .json => [(toJson test record).indented 2]
  | .csv => [",".intercalate (csvHeader record), ",".intercalate (csvFields test record)]

end Report

end ManualTraffic
