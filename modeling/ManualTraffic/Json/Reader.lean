/-
# ManualTraffic.Json.Reader -- reading JSON text

A strict reader of RFC 8259 texts: spaces are space, tab, line feed and carriage
return; a number has no leading zero, no leading plus and digits on both sides of
its point; a string holds no bare control character.  Of a repeated key the
object keeps the first place and the last value.  The reader is driven by fuel,
of which twice the length of the text is enough: each character read costs at most
two calls.

A string here is a list of characters, and half of a surrogate pair is none.  An escape
that writes such a half alone reads as the replacement character, so strings that
differ in these halves only, keys among them, become one.
-/
import ManualTraffic.Json.Basic

namespace ManualTraffic

set_option autoImplicit false

namespace Json

def isSpace (c : Char) : Bool := c == ' ' || c == '\t' || c == '\n' || c == '\r'

/-- A text without the spaces at its front. -/
def skip (text : List Char) : List Char := text.dropWhile isSpace

/-! ## Strings -/

/-- The character of an escape of one letter. -/
def unescape? : Char → Option Char
  | '"' => some '"'
  | '\\' => some '\\'
  | '/' => some '/'
  | 'b' => some '\x08'
  | 'f' => some '\x0c'
  | 'n' => some '\n'
  | 'r' => some '\r'
  | 't' => some '\t'
  | _ => none

/-- A string at the front of a text, after its opening quote.  `high` is a high
surrogate that was just read: with a low one after it the two are one character,
alone it is none and reads as the replacement character. -/
def stringBody (high : Option Nat) : List Char → Option (List Char × List Char)
  | '"' :: rest => some (alone high, rest)
  | '\\' :: 'u' :: a :: b :: c :: d :: rest =>
      match Text.readDigits? 16 0 [a, b, c, d] with
      | none => none
      | some n =>
          if 0xD800 ≤ n ∧ n < 0xDC00 then
            (stringBody (some n) rest).map fun (s, rest) => (alone high ++ s, rest)
          else
            match high with
            | some h =>
                if 0xDC00 ≤ n ∧ n < 0xE000 then
                  (stringBody none rest).map fun (s, rest) =>
                    (Char.ofNat (0x10000 + (h - 0xD800) * 0x400 + (n - 0xDC00)) :: s, rest)
                else
                  (stringBody none rest).map fun (s, rest) =>
                    (alone high ++ Char.ofNat n :: s, rest)
            | none =>
                let c := if 0xDC00 ≤ n ∧ n < 0xE000 then Char.ofNat 0xFFFD else Char.ofNat n
                (stringBody none rest).map fun (s, rest) => (c :: s, rest)
  | '\\' :: e :: rest =>
      match unescape? e with
      | some c => (stringBody none rest).map fun (s, rest) => (alone high ++ c :: s, rest)
      | none => none
  | c :: rest =>
      if c.toNat < 0x20 ∨ c = '\\' then none
      else (stringBody none rest).map fun (s, rest) => (alone high ++ c :: s, rest)
  | [] => none
where
  alone : Option Nat → List Char
    | some _ => [Char.ofNat 0xFFFD]
    | none => []

/-! ## Numbers -/

/-- Digits that may stand before a point: at least one, and no zero in front. -/
def isWholePart : List Char → Bool
  | [] => false
  | ['0'] => true
  | '0' :: _ => false
  | _ => true

/-- A number at the front of a text, after its sign. -/
def magnitude (negative : Bool) (text : List Char) : Option (Binary64 × List Char) :=
  match Numeral.scan text with
  | some (n, rest) =>
      if isWholePart n.whole && n.fraction != some [] then
        some ((n.toDecimal negative).toBinary64, rest)
      else none
  | none => none

/-! ## Values -/

mutual

/-- A value at the front of a text that starts with no space. -/
def value : Nat → List Char → Option (Json × List Char)
  | 0, _ => none
  | fuel + 1, text =>
      match text with
      | 'n' :: 'u' :: 'l' :: 'l' :: rest => some (.null, rest)
      | 't' :: 'r' :: 'u' :: 'e' :: rest => some (.bool true, rest)
      | 'f' :: 'a' :: 'l' :: 's' :: 'e' :: rest => some (.bool false, rest)
      | '"' :: rest =>
          (stringBody none rest).map fun (s, rest) => (.string (String.ofList s), rest)
      | '[' :: rest =>
          match skip rest with
          | ']' :: rest => some (.array [], rest)
          | rest => (items fuel rest).map fun (xs, rest) => (.array xs, rest)
      | '{' :: rest =>
          match skip rest with
          | '}' :: rest => some (.object [], rest)
          | rest =>
              (members fuel rest).map fun (ms, rest) => (.object (Members.ofList ms), rest)
      | '-' :: rest => (magnitude true rest).map fun (x, rest) => (.number x, rest)
      | text => (magnitude false text).map fun (x, rest) => (.number x, rest)

/-- The items of an array up to its closing bracket. -/
def items : Nat → List Char → Option (List Json × List Char)
  | 0, _ => none
  | fuel + 1, text =>
      match value fuel text with
      | none => none
      | some (x, rest) =>
          match skip rest with
          | ']' :: rest => some ([x], rest)
          | ',' :: rest => (items fuel (skip rest)).map fun (xs, rest) => (x :: xs, rest)
          | _ => none

/-- The members of an object up to its closing brace, as written. -/
def members : Nat → List Char → Option (List (String × Json) × List Char)
  | 0, _ => none
  | fuel + 1, text =>
      match text with
      | '"' :: rest =>
          match stringBody none rest with
          | none => none
          | some (key, rest) =>
              match skip rest with
              | ':' :: rest =>
                  match value fuel (skip rest) with
                  | none => none
                  | some (x, rest) =>
                      let member := (String.ofList key, x)
                      match skip rest with
                      | '}' :: rest => some ([member], rest)
                      | ',' :: rest =>
                          (members fuel (skip rest)).map fun (ms, rest) => (member :: ms, rest)
                      | _ => none
              | _ => none
      | _ => none

end

/-- The value that a whole text writes. -/
def parse? (text : List Char) : Option Json :=
  match value (2 * text.length + 2) (skip text) with
  | some (x, rest) => if skip rest = [] then some x else none
  | none => none

end Json

end ManualTraffic
