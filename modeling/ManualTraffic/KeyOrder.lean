/-
# ManualTraffic.KeyOrder -- the order of the keys of a mapping

The keys of a mapping come in two classes: *index keys*, the canonical decimals
from 0 to 4294967294, in ascending order, and after them all other keys in the
order in which they were first written.  Writing a key that is there replaces
its value in place.  `Members.put` is that write on a list of members.
-/

namespace ManualTraffic

set_option autoImplicit false

namespace KeyOrder

/-- The greatest index key. -/
def lastIndex : Nat := 4294967294

/-- The number that an index key writes. -/
def index? (key : String) : Option Nat :=
  let n := Nat.ofDigitChars 10 key.toList 0
  if n ≤ lastIndex ∧ Nat.toDigits 10 n = key.toList then some n else none

/-- Whether a new key is placed before a key that is there. -/
def precedes (new old : String) : Bool :=
  match index? new, index? old with
  | some i, some j => i < j
  | some _, none => true
  | none, _ => false

end KeyOrder

/-- The members of a mapping, in key order. -/
abbrev Members (α : Type) := List (String × α)

namespace Members

variable {α : Type}

/-- Places a member whose key is not there yet. -/
def insert (key : String) (value : α) : Members α → Members α
  | [] => [(key, value)]
  | (k, v) :: rest =>
      if KeyOrder.precedes key k then (key, value) :: (k, v) :: rest
      else (k, v) :: insert key value rest

/-- Gives the key a new value, in its old place. -/
def replace (key : String) (value : α) : Members α → Members α
  | [] => []
  | (k, v) :: rest =>
      if k = key then (k, value) :: rest else (k, v) :: replace key value rest

/-- Writes a member: in place when the key is there, else where key order puts
it. -/
def put (key : String) (value : α) (members : Members α) : Members α :=
  if members.any (·.1 = key) then members.replace key value else members.insert key value

/-- The mapping left by writing all members of a list in turn: of a repeated key
the first place and the last value stay. -/
def ofList (written : List (String × α)) : Members α :=
  written.foldl (fun members (key, value) => members.put key value) []

end Members

end ManualTraffic
