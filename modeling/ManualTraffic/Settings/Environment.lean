/-
# ManualTraffic.Settings.Environment -- named texts from outside

An environment gives texts to names; no text in it holds a NUL.  A file of
assignments, one for each line, may add to it (`Environment.extend`): a name that is
set already, even to nothing, stays.
-/

namespace ManualTraffic

set_option autoImplicit false

/-- Names and their texts; the first entry of a name counts. -/
abbrev Environment := List (String × String)

namespace Environment

/-- The text of a name. -/
def get? (environment : Environment) (name : String) : Option String :=
  environment.lookup name

/-- The text of a name, if it is set to something. -/
def nonEmpty? (environment : Environment) (name : String) : Option String :=
  match environment.get? name with
  | some text => if text = "" then none else some text
  | none => none

/-- What a name holds when a text is assigned to it: the text up to its first
NUL. -/
def held (text : String) : String := String.ofList (text.toList.takeWhile (· != '\x00'))

/-- The environment that assignments make.  Of two to one name the later one
counts. -/
def ofAssignments (assignments : List (String × String)) : Environment :=
  (assignments.map fun (name, text) => (name, held text)).reverse

/-- An environment with assignments added for names that are not set in it. -/
def extend (environment : Environment) (assignments : List (String × String)) : Environment :=
  environment ++ ofAssignments assignments

end Environment

end ManualTraffic
