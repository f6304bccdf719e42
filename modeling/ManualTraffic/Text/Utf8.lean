/-
# ManualTraffic.Text.Utf8 -- bytes as text

The bytes of a file or of the input are read as UTF-8.  A byte that cannot
continue the sequence under way ends it: the sequence becomes one replacement
character and the byte is read afresh.  `Utf8.decode` also replaces a sequence
cut off by the end.  `Utf8.decodeWhole` drops it, going by the bytes that its first
byte announces (`Utf8.whole`), whether or not they could make a character.
-/

namespace ManualTraffic

set_option autoImplicit false

namespace Utf8

/-- A sequence under way: its value so far, the bytes still owed, and the range
in which the next one must lie. -/
structure Pending where
  value : Nat
  owed : Nat
  low : Nat
  high : Nat

/-- What stands for bytes that are no character. -/
def replacement : Char := Char.ofNat 0xFFFD

/-- A byte between characters. -/
def start (b : Nat) : List Char × Option Pending :=
  if b < 0x80 then ([Char.ofNat b], none)
  else if 0xC2 ≤ b ∧ b ≤ 0xDF then ([], some ⟨b - 0xC0, 1, 0x80, 0xBF⟩)
  else if b = 0xE0 then ([], some ⟨0, 2, 0xA0, 0xBF⟩)
  else if b = 0xED then ([], some ⟨0xD, 2, 0x80, 0x9F⟩)
  else if 0xE1 ≤ b ∧ b ≤ 0xEF then ([], some ⟨b - 0xE0, 2, 0x80, 0xBF⟩)
  else if b = 0xF0 then ([], some ⟨0, 3, 0x90, 0xBF⟩)
  else if 0xF1 ≤ b ∧ b ≤ 0xF3 then ([], some ⟨b - 0xF0, 3, 0x80, 0xBF⟩)
  else if b = 0xF4 then ([], some ⟨4, 3, 0x80, 0x8F⟩)
  else ([replacement], none)

/-- One byte: the characters it completes, and what is under way after it. -/
def step : Option Pending → Nat → List Char × Option Pending
  | none, b => start b
  | some p, b =>
      if p.low ≤ b ∧ b ≤ p.high then
        let value := p.value * 64 + (b - 0x80)
        if p.owed = 1 then ([Char.ofNat value], none)
        else ([], some ⟨value, p.owed - 1, 0x80, 0xBF⟩)
      else
        let (cs, next) := start b
        (replacement :: cs, next)

/-- The characters of a run of bytes, and the sequence left under way. -/
def run : Option Pending → List UInt8 → List Char × Option Pending
  | p, [] => ([], p)
  | p, b :: bs =>
      let (cs, next) := step p b.toNat
      let (rest, last) := run next bs
      (cs ++ rest, last)

/-- The text of a file. -/
def decode (bytes : List UInt8) : List Char :=
  match run none bytes with
  | (cs, none) => cs
  | (cs, some _) => cs ++ [replacement]

/-! ## A cut at the end -/

/-- A byte that continues a sequence. -/
def continues (b : UInt8) : Bool := 0x80 ≤ b.toNat && b.toNat < 0xC0

/-- The bytes that a sequence should have by its first byte; zero when the byte
starts none. -/
def announced (b : UInt8) : Nat :=
  let n := b.toNat
  if 0xC0 ≤ n ∧ n < 0xE0 then 2
  else if 0xE0 ≤ n ∧ n < 0xF0 then 3
  else if 0xF0 ≤ n ∧ n < 0xF8 then 4
  else 0

/-- The bytes without a last sequence that has fewer bytes than it should. -/
def whole (bytes : List UInt8) : List UInt8 :=
  let backwards := bytes.reverse
  match backwards.dropWhile continues with
  | [] => bytes
  | first :: before =>
      if (backwards.takeWhile continues).length + 1 < announced first then before.reverse
      else bytes

/-- The text of an input that may end inside a character, which is dropped. -/
def decodeWhole (bytes : List UInt8) : List Char := decode (whole bytes)

end Utf8

end ManualTraffic
