/-
# ManualTraffic.Text.Blank -- blank characters

A blank is a white space character or a line terminator: tab to carriage return,
every Unicode space separator, the line and paragraph separators and the byte
order mark.  `Text.trim` removes blanks from both ends.
-/

namespace ManualTraffic

set_option autoImplicit false

/-- A white space character or a line terminator. -/
def isBlank (c : Char) : Bool :=
  let n := c.toNat
  (9 ≤ n && n ≤ 13) || n == 0x20 || n == 0xA0 || n == 0x1680 || (0x2000 ≤ n && n ≤ 0x200A) ||
    n == 0x2028 || n == 0x2029 || n == 0x202F || n == 0x205F || n == 0x3000 || n == 0xFEFF

namespace Text

/-- A text without the blanks at its end. -/
def trimEnd (text : List Char) : List Char := (text.reverse.dropWhile isBlank).reverse

/-- A text without the blanks at its two ends. -/
def trim (text : List Char) : List Char := trimEnd (text.dropWhile isBlank)

end Text

end ManualTraffic
