/-
# ManualTraffic.Settings.Assignments -- a file of assignments

A line such as `NAME = value` or `export NAME: value` assigns a text to a name.
The value is the rest of the line up to a `#`, without the blanks around it, or a
text in quotes, which may go over several lines; after the closing quote only a
comment may follow on its line, else the quotes are part of a plain value.  In
double quotes `\n` and `\r` are line breaks.  A line that assigns nothing is passed
over.

This stands for the reader of a package, of which it has the plain files and not the
sealed ones.  The program does not rest on it: what comes of the file is a part of its
host (`Startup`), and only where a host is made up of what is on the disk is the file
read in this way.
-/
import ManualTraffic.Text.Blank

namespace ManualTraffic

set_option autoImplicit false

namespace Assignments

/-- A character that ends a line. -/
def endsLine (c : Char) : Bool :=
  c == '\n' || c == '\r' || c.toNat == 0x2028 || c.toNat == 0x2029

/-- A character of a name. -/
def isNameChar (c : Char) : Bool :=
  c == '_' || c == '.' || c == '-' || (c.toNat < 0x80 && c.isAlphanum)

/-- All line breaks as line feeds. -/
def feeds : List Char → List Char
  | '\r' :: '\n' :: rest => '\n' :: feeds rest
  | '\r' :: rest => '\n' :: feeds rest
  | c :: rest => c :: feeds rest
  | [] => []

/-! ## The end of an assignment -/

/-- What follows a run of blanks up to the last line break in it. -/
def afterLastBreak? : List Char → Option (List Char)
  | [] => none
  | c :: rest =>
      match afterLastBreak? rest with
      | some text => some text
      | none => if endsLine c then some (c :: rest) else none

/-- What is left where an assignment may end: after the blanks, at the end of the
text or after a comment, else at the last line break among the blanks. -/
def finish? (text : List Char) : Option (List Char) :=
  match text.dropWhile isBlank with
  | [] => some []
  | '#' :: rest => some (rest.dropWhile fun c => !endsLine c)
  | rest =>
      (afterLastBreak? (text.takeWhile isBlank)).map fun blanks => blanks ++ rest

/-! ## Values -/

/-- The places where a quoted text may end, as its inside and what follows the
quote: at the first quote that no backslash precedes, else at an escaped one, the
last of them first. -/
def closings (quote : Char) : List Char → List (List Char × List Char)
  | [] => []
  | '\\' :: c :: rest =>
      if c = quote then
        ((closings quote rest).map fun (inside, after) => ('\\' :: c :: inside, after)) ++
          [(['\\'], rest)]
      else (closings quote (c :: rest)).map fun (inside, after) => ('\\' :: inside, after)
  | c :: rest =>
      if c = quote then [([], rest)]
      else (closings quote rest).map fun (inside, after) => (c :: inside, after)

/-- A value in quotes, quotes included, and what is left after the assignment. -/
def quoted? (text : List Char) (quote : Char) : Option (List Char × List Char) :=
  match text.dropWhile isBlank with
  | c :: rest =>
      if c = quote then
        (closings quote rest).findSome? fun (inside, after) =>
          (finish? after).map fun left => (quote :: (inside ++ [quote]), left)
      else none
  | [] => none

/-- A plain value: the rest of the line up to a comment. -/
def plain (text : List Char) : List Char × List Char :=
  let inLine (c : Char) : Bool := c != '#' && c != '\n' && c != '\r'
  let rest := text.dropWhile inLine
  (text.takeWhile inLine, (finish? rest).getD rest)

/-- The quotes there are. -/
def quotes : List Char := ['\x27', '"', '\x60']

/-- A value and what is left after the assignment. -/
def value (text : List Char) : List Char × List Char :=
  (quotes.findSome? (quoted? text)).getD (plain text)

/-- A text with the escapes of line breaks replaced. -/
def breakEscapes : List Char → List Char
  | '\\' :: 'n' :: rest => '\n' :: breakEscapes rest
  | '\\' :: 'r' :: rest => '\r' :: breakEscapes rest
  | c :: rest => c :: breakEscapes rest
  | [] => []

/-- Whether a text stands at the end of a line. -/
def atLineEnd : List Char → Bool
  | [] => true
  | c :: _ => endsLine c

/-- The inside of a stretch up to the last quote that ends a line, and what follows
that quote. -/
def lastClosing? (quote : Char) : List Char → Option (List Char × List Char)
  | [] => none
  | c :: rest =>
      match lastClosing? quote rest with
      | some (inside, after) => some (c :: inside, after)
      | none => if c = quote ∧ atLineEnd rest then some ([], rest) else none

theorem lastClosing?_length_lt {quote : Char} {text inside after : List Char}
    (found : lastClosing? quote text = some (inside, after)) : after.length < text.length := by
  fun_induction lastClosing? quote text generalizing inside after <;> grind

/-- A text without the quotes around stretches of whole lines.  The flag tells
whether the text stands at the start of a line. -/
def bare (lineStart : Bool) : List Char → List Char
  | [] => []
  | c :: rest =>
      if lineStart ∧ quotes.contains c then
        match _found : lastClosing? c rest with
        | some (inside, after) => inside ++ bare false after
        | none => c :: bare (endsLine c) rest
      else c :: bare (endsLine c) rest
  termination_by text => text.length
  decreasing_by
    · have := lastClosing?_length_lt ‹lastClosing? c rest = some (inside, after)›
      simp only [List.length_cons]
      omega
    · simp
    · simp

/-- A value without its blanks and its quotes. -/
def unquote (written : List Char) : List Char :=
  let written := Text.trim written
  let inside := bare true written
  if written.head? = some '"' then breakEscapes inside else inside

/-! ## Assignments -/

/-- An assignment whose name starts the text: the name, its value, and what is left
after it. -/
def named? (text : List Char) : Option ((List Char × List Char) × List Char) :=
  let name := text.takeWhile isNameChar
  let rest := text.dropWhile isNameChar
  if name = [] then none
  else
    match rest.dropWhile isBlank with
    | '=' :: after =>
        let (written, left) := value after
        some ((name, unquote written), left)
    | _ =>
        match rest with
        | ':' :: blank :: after =>
            if isBlank blank then
              let (written, left) := value after
              some ((name, unquote written), left)
            else none
        | _ => none

/-- An assignment at the start of a line: after blanks and perhaps `export`. -/
def assignment? (text : List Char) : Option ((List Char × List Char) × List Char) :=
  let text := text.dropWhile isBlank
  match text with
  | 'e' :: 'x' :: 'p' :: 'o' :: 'r' :: 't' :: blank :: rest =>
      if isBlank blank then
        match named? (rest.dropWhile isBlank) with
        | some found => some found
        | none => named? text
      else named? text
  | text => named? text

/-- What follows the next line break. -/
def nextLine : List Char → List Char
  | [] => []
  | c :: rest => if endsLine c then rest else nextLine rest

/-- The assignments of a text whose start is the start of a line.  The fuel is the
count of lines still to go through. -/
def scan : Nat → List Char → List (String × String)
  | 0, _ => []
  | fuel + 1, text =>
      match assignment? text with
      | some ((name, value), left) =>
          (String.ofList name, String.ofList value) :: scan fuel (nextLine left)
      | none => scan fuel (nextLine text)

/-- The assignments of a file, in order. -/
def parse (text : List Char) : List (String × String) :=
  let text := feeds text
  scan (text.length + 1) text

end Assignments

end ManualTraffic
