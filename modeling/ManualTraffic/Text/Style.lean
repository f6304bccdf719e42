/-
# ManualTraffic.Text.Style -- terminal styles

A style is a pair of escape sequences.  `Style.paint` closes a style before each
line break and opens it again after it, and opens it again after a text inside has
closed it, so that the style covers every line and nothing leaks past the end.
-/

namespace ManualTraffic

set_option autoImplicit false

namespace Text

/-- The codes that open and close a style. -/
structure Style where
  opening : Nat
  closing : Nat
  deriving DecidableEq

namespace Style

def bold : Style := ⟨1, 22⟩
def red : Style := ⟨31, 39⟩
def green : Style := ⟨32, 39⟩
def yellow : Style := ⟨33, 39⟩
def blue : Style := ⟨34, 39⟩
def cyan : Style := ⟨36, 39⟩
def gray : Style := ⟨90, 39⟩

/-- An escape sequence. -/
def escape (code : Nat) : List Char := '\x1b' :: '[' :: (Nat.toDigits 10 code ++ ['m'])

/-- A text with `again` written after each `part` in it.  The fuel is the count of
characters still to go through. -/
def after (part again : List Char) : Nat → List Char → List Char
  | 0, text => text
  | fuel + 1, text =>
      if part.isPrefixOf text then part ++ again ++ after part again fuel (text.drop part.length)
      else
        match text with
        | [] => []
        | c :: rest => c :: after part again fuel rest

/-- A text with the style closed before each line break and opened after it. -/
def aroundBreaks (before after : List Char) : List Char → List Char
  | [] => []
  | '\r' :: '\n' :: rest => before ++ '\r' :: '\n' :: (after ++ aroundBreaks before after rest)
  | '\n' :: rest => before ++ '\n' :: (after ++ aroundBreaks before after rest)
  | c :: rest => c :: aroundBreaks before after rest

/-- A text in a style; without colour, or when empty, the text as it is. -/
def paint (color : Bool) (style : Style) (text : String) : String :=
  if color = false ∨ text = "" then text
  else
    let opening := escape style.opening
    let closing := escape style.closing
    let inner := aroundBreaks closing opening (after closing opening text.length text.toList)
    String.ofList (opening ++ inner ++ closing)

end Style

end Text

end ManualTraffic
