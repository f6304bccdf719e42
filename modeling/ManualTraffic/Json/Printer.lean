/-
# ManualTraffic.Json.Printer -- JSON text

`Json.compact` writes a value on one line without spaces, `Json.indented` with
every member and item on a line of its own.  A number that is not finite is
written `null`.  In a string the quote, the backslash and the control characters
are escaped, and nothing else: no string here holds half of a surrogate pair, which
would have to be.
-/
import ManualTraffic.Json.Basic

namespace ManualTraffic

set_option autoImplicit false

namespace Json

/-! ## Strings -/

/-- One character inside a string. -/
def escapeChar (c : Char) : List Char :=
  if c = '"' then ['\\', '"']
  else if c = '\\' then ['\\', '\\']
  else if c.toNat < 0x20 then
    match c.toNat with
    | 0x08 => ['\\', 'b']
    | 0x09 => ['\\', 't']
    | 0x0A => ['\\', 'n']
    | 0x0C => ['\\', 'f']
    | 0x0D => ['\\', 'r']
    | n => ['\\', 'u', '0', '0', Nat.digitChar (n / 16), Nat.digitChar (n % 16)]
  else [c]

/-- A string with its quotes. -/
def quote (s : String) : List Char := '"' :: (s.toList.flatMap escapeChar ++ ['"'])

/-! ## Values -/

/-- How values are set out: on one line, or each on a line of its own, indented by
`step` spaces a level. -/
inductive Layout where
  | line
  | indented (step : Nat)
  deriving DecidableEq

namespace Layout

/-- What stands before an item at a depth. -/
def lineBreak : Layout → Nat → List Char
  | .line, _ => []
  | .indented step, depth => '\n' :: List.replicate (step * depth) ' '

/-- What stands between a key and its value. -/
def colon : Layout → List Char
  | .line => [':']
  | .indented _ => [':', ' ']

end Layout

mutual

/-- The text of a value at a depth. -/
def render (layout : Layout) (depth : Nat) : Json → List Char
  | .null => "null".toList
  | .bool true => "true".toList
  | .bool false => "false".toList
  | .number x => if x.isFinite then x.chars else "null".toList
  | .string s => quote s
  | .array [] => ['[', ']']
  | .array (item :: items) =>
      '[' :: (layout.lineBreak (depth + 1) ++ render layout (depth + 1) item ++
        renderItems layout (depth + 1) items ++ layout.lineBreak depth ++ [']'])
  | .object [] => ['{', '}']
  | .object ((key, value) :: members) =>
      '{' :: (layout.lineBreak (depth + 1) ++ quote key ++ layout.colon ++
        render layout (depth + 1) value ++ renderMembers layout (depth + 1) members ++
        layout.lineBreak depth ++ ['}'])
termination_by structural value => value

/-- The text of the items after the first one. -/
def renderItems (layout : Layout) (depth : Nat) : List Json → List Char
  | [] => []
  | item :: items =>
      ',' :: (layout.lineBreak depth ++ render layout depth item ++
        renderItems layout depth items)
termination_by structural items => items

/-- The text of the members after the first one. -/
def renderMembers (layout : Layout) (depth : Nat) : List (String × Json) → List Char
  | [] => []
  | (key, value) :: members =>
      ',' :: (layout.lineBreak depth ++ quote key ++ layout.colon ++ render layout depth value ++
        renderMembers layout depth members)
termination_by structural members => members

end

/-- The text of a value on one line. -/
def compact (value : Json) : String := String.ofList (value.render .line 0)

/-- The text of a value with `step` spaces a level. -/
def indented (step : Nat) (value : Json) : String :=
  String.ofList (value.render (.indented step) 0)

end Json

end ManualTraffic
