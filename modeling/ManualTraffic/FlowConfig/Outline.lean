/-
# ManualTraffic.FlowConfig.Outline -- a configuration at a glance

The log shows a configuration as an outline: mappings in braces, on one line where
they fit within 80 columns and else an entry a line; three levels deep, what lies
deeper as `[Object]`.  Strings are quoted with the first of `'`, `"` and the
backquote that does not occur in them.  A mapping that does not reach the common
root is named before its brace, and its name tells the layers underneath.
-/
import ManualTraffic.Binary64.Text
import ManualTraffic.FlowConfig.Basic
import ManualTraffic.Text.Style
import ManualTraffic.Text.Units

namespace ManualTraffic

set_option autoImplicit false

namespace FlowConfig

namespace Outline

/-! ## Limits -/

/-- The columns that a mapping on one line may fill. -/
def columns : Nat := 80

/-- The deepest level shown. -/
def deepest : Nat := 2

/-- The most characters shown of a string. -/
def longestString : Nat := 10000

/-- A string of no more than this many characters is never broken. -/
def shortString : Nat := 16

/-! ## Pieces -/

/-- A text and its width on the screen. -/
structure Piece where
  text : List Char
  width : Nat

namespace Piece

def plain (text : List Char) : Piece := ⟨text, Text.units text⟩

/-- A text in a style, if there is colour. -/
def styled (color : Bool) (style : Text.Style) (text : List Char) : Piece :=
  if color then
    ⟨Text.Style.escape style.opening ++ text ++ Text.Style.escape style.closing, Text.units text⟩
  else plain text

def append (a b : Piece) : Piece := ⟨a.text ++ b.text, a.width + b.width⟩

instance : Append Piece := ⟨append⟩

/-- Pieces with a separator between them. -/
def join (separator : List Char) : List Piece → Piece
  | [] => plain []
  | [piece] => piece
  | piece :: pieces => piece ++ plain separator ++ join separator pieces

end Piece

/-! ## Strings -/

/-- A character, or the first half of one that was cut in two. -/
inductive Glyph where
  | char (c : Char)
  | half (code : Nat)
  deriving DecidableEq

/-- The characters of a string as glyphs. -/
def glyphs (text : String) : List Glyph := text.toList.map .char

/-- A glyph inside quotes; the quote itself is escaped only if it is `'`. -/
def escapeGlyph (quote : Char) : Glyph → List Char
  | .half code => '\\' :: 'u' :: Nat.toDigits 16 code
  | .char c =>
      if c = '\x27' ∧ quote = '\x27' then ['\\', '\x27']
      else if c = '\\' then ['\\', '\\']
      else
        match c.toNat with
        | 0x08 => ['\\', 'b']
        | 0x09 => ['\\', 't']
        | 0x0A => ['\\', 'n']
        | 0x0C => ['\\', 'f']
        | 0x0D => ['\\', 'r']
        | n =>
            if n < 0x20 ∨ (0x7F ≤ n ∧ n < 0xA0) then
              ['\\', 'x', (Nat.digitChar (n / 16)).toUpper, (Nat.digitChar (n % 16)).toUpper]
            else [c]

/-- Whether a text holds a dollar sign with an opening brace. -/
def holdsDollarBrace : List Glyph → Bool
  | .char '$' :: .char '\x7b' :: _ => true
  | _ :: rest => holdsDollarBrace rest
  | [] => false

/-- The quote for a text. -/
def quoteFor (text : List Glyph) : Char :=
  let lacks (c : Char) : Bool := !text.contains (.char c)
  if lacks '\x27' then '\x27'
  else if lacks '"' then '"'
  else if lacks '\x60' && !holdsDollarBrace text then '\x60'
  else '\x27'

/-- A text in quotes. -/
def quoted (text : List Glyph) : List Char :=
  let quote := quoteFor text
  quote :: (text.flatMap (escapeGlyph quote) ++ [quote])

/-- A text cut after each line feed. -/
def feedLines : List Glyph → List (List Glyph)
  | [] => []
  | .char '\n' :: rest => [.char '\n'] :: feedLines rest
  | glyph :: rest =>
      match feedLines rest with
      | [] => [[glyph]]
      | line :: lines => (glyph :: line) :: lines

/-- The first `n` units of a text, and the count of units left out.  A character that
lies across the limit is cut in two. -/
def cut : Nat → List Char → List Glyph × Nat
  | _, [] => ([], 0)
  | n, c :: rest =>
      if Text.charUnits c ≤ n then
        let (kept, left) := cut (n - Text.charUnits c) rest
        (.char c :: kept, left)
      else
        (((Text.unitCodes c).take n).map .half, Text.units (c :: rest) - n)

/-- A string at an indentation: a long one of several lines is written as a sum of
its lines. -/
def string (color : Bool) (indent : Nat) (value : String) : Piece :=
  let (text, left) := cut longestString value.toList
  let trailer : List Char :=
    if left = 0 then []
    else
      ("... " ++ toString left ++ " more character" ++ (if 1 < left then "s" else "")).toList
  let width := Text.units value.toList - left
  let lines :=
    if shortString < width ∧ columns < width + indent + 4 then feedLines text else [text]
  Piece.join (" +\n".toList ++ List.replicate (indent + 2) ' ')
    (lines.map fun line => Piece.styled color .green (quoted line)) ++ Piece.plain trailer

/-! ## Values -/

/-- A scalar at an indentation. -/
def scalar (color : Bool) (indent : Nat) : Scalar → Piece
  | .null => Piece.styled color .bold "null".toList
  | .bool true => Piece.styled color .yellow "true".toList
  | .bool false => Piece.styled color .yellow "false".toList
  | .number x =>
      Piece.styled color .yellow
        (match x with
          | .finite true 0 _ => ['-', '0']
          | x => x.chars)
  | .string value => string color indent value

/-- Whether a key is written without quotes. -/
def isWord (key : List Char) : Bool :=
  match key with
  | [] => false
  | c :: _ =>
      !c.isDigit && key.all fun c => c == '_' || (c.toNat < 0x80 && c.isAlphanum)

/-- A key. -/
def key (color : Bool) (name : String) : Piece :=
  if name = layerKey then Piece.plain ("['" ++ layerKey ++ "']").toList
  else if isWord name.toList then Piece.plain name.toList
  else Piece.styled color .green (quoted (glyphs name))

/-! ## Layers -/

/-- What a mapping with nothing underneath is called. -/
def bareName : List Char := "[Object: null prototype]".toList

/-- What a mapping on a layer is called, given the piece for the layer.  Below the
deepest level the layer is not told. -/
def layeredName (depth : Nat) (layer : Piece) : Piece :=
  if deepest < depth then Piece.plain "Object <Complex prototype>".toList
  else Piece.plain "Object <".toList ++ layer ++ Piece.plain ['>']

/-- How a layer shows in the name of the mapping above it: by its own name, and one
with nothing underneath as an outline that shows no entries. -/
def layerName (color : Bool) (depth : Nat) (holdsEntries : Bool) : FlowConfig → Piece
  | .root => Piece.plain []
  | .bare =>
      if holdsEntries then Piece.styled color .cyan bareName
      else Piece.plain (bareName ++ " \x7b\x7d".toList)
  | .over layer => layeredName depth (layerName color (depth + 1) false layer)
  | .scalar _ _ rest => layerName color depth true rest
  | .mapping _ _ rest => layerName color depth true rest

/-- The name of a mapping at a depth that does not reach the root. -/
def name (color : Bool) (depth : Nat) : FlowConfig → Piece
  | .root => Piece.plain []
  | .bare => Piece.plain bareName
  | .over layer => layeredName depth (layerName color (depth + 1) false layer)
  | .scalar _ _ rest => name color depth rest
  | .mapping _ _ rest => name color depth rest

/-- What stands before the brace of a mapping: nothing when it reaches the root. -/
def mark (color : Bool) (depth : Nat) (config : FlowConfig) : Piece :=
  if config.reachesRoot then Piece.plain [] else name color depth config ++ Piece.plain [' ']

/-- What stands for a mapping that lies too deep: its name in brackets, which that of
one with nothing underneath has already. -/
def hidden (color : Bool) (depth : Nat) (config : FlowConfig) : Piece :=
  let called := if config.reachesRoot then "Object".toList else (name color depth config).text
  Piece.styled color .cyan
    (if called = bareName then bareName else '[' :: (called ++ [']']))
/-! ## Mappings -/

/-- A mapping at a depth, from the pieces of its entries.  It goes on one line when
its entries fit beside its opening, whose escape sequences count as well. -/
def braces (color : Bool) (depth : Nat) (config : FlowConfig) : List Piece → Piece
  | [] => mark color depth config ++ Piece.plain ['\x7b', '\x7d']
  | entries =>
      if deepest < depth then hidden color depth config
      else
        let opening := mark color depth config ++ Piece.plain ['\x7b']
        let indent := 2 * depth
        let count := entries.length
        let width :=
          (Piece.join [] entries).width + count + (count + indent + Text.units opening.text + 10)
        if width ≤ columns ∧ entries.all fun entry => !entry.text.contains '\n' then
          opening ++ Piece.plain [' '] ++ Piece.join [',', ' '] entries ++
            Piece.plain [' ', '\x7d']
        else
          let lineBreak := '\n' :: List.replicate indent ' '
          opening ++ Piece.plain (lineBreak ++ [' ', ' ']) ++
            Piece.join (',' :: (lineBreak ++ [' ', ' '])) entries ++
            Piece.plain (lineBreak ++ ['\x7d'])

/-- The pieces of the entries of a mapping at a depth. -/
def entries (color : Bool) (depth : Nat) : FlowConfig → List Piece
  | .root | .bare | .over _ => []
  | .scalar name value rest =>
      (key color name ++ Piece.plain [':', ' '] ++ scalar color (2 * depth + 2) value) ::
        entries color depth rest
  | .mapping name inner rest =>
      (key color name ++ Piece.plain [':', ' '] ++
        braces color (depth + 1) inner (entries color (depth + 1) inner)) ::
        entries color depth rest

end Outline

/-- The outline of a configuration. -/
def outline (color : Bool) (config : FlowConfig) : String :=
  String.ofList (Outline.braces color 0 config (Outline.entries color 0 config)).text

end FlowConfig

end ManualTraffic
