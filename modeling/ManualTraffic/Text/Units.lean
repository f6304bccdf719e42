/-
# ManualTraffic.Text.Units -- widths in 16-bit units

Columns and lengths are counted in UTF-16 units: a character beyond the basic
plane counts two.
-/

namespace ManualTraffic

set_option autoImplicit false

namespace Text

/-- The count of units of one character. -/
def charUnits (c : Char) : Nat := if c.toNat < 0x10000 then 1 else 2

/-- The units of one character: itself, or a high and a low surrogate. -/
def unitCodes (c : Char) : List Nat :=
  if c.toNat < 0x10000 then [c.toNat]
  else
    [0xD800 + (c.toNat - 0x10000) / 0x400, 0xDC00 + (c.toNat - 0x10000) % 0x400]

theorem length_unitCodes (c : Char) : (unitCodes c).length = charUnits c := by
  unfold unitCodes charUnits
  split <;> rfl

/-- The length of a text in units. -/
def units : List Char → Nat
  | [] => 0
  | c :: rest => charUnits c + units rest

/-- A text padded with spaces at its end to `width` units. -/
def padEnd (width : Nat) (text : List Char) : List Char :=
  text ++ List.replicate (width - units text) ' '

end Text

end ManualTraffic
