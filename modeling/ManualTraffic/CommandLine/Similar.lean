/-
# ManualTraffic.CommandLine.Similar -- near misses

For a word that is no command or option, the words that were perhaps meant: those
at the least distance, of three at most, with which it has more than four tenths in
common.  The distance counts insertions, deletions, replacements and exchanges of
neighbours, no place being edited twice.

The distance and its limits are those of the package that makes the suggestions; they
reach nothing but the text of a refusal.
-/
import ManualTraffic.Text.Units

namespace ManualTraffic

set_option autoImplicit false

namespace Similar

/-- The greatest distance of a suggestion. -/
def farthest : Nat := 3

/-- The units of a word. -/
def unitsOf (word : String) : Array Nat := (word.toList.flatMap Text.unitCodes).toArray

/-- The next row of distances: to the first `i + 1` units of `a` from each start of
`b`, given the rows of the first `i` units and of one fewer. -/
def nextRow (a b : Array Nat) (i : Nat) (before last : Array Nat) : Array Nat :=
  (List.range b.size).foldl (fun row j =>
      let cost := if a[i]? = b[j]? then 0 else 1
      let near := min (min (last.getD (j + 1) 0 + 1) (row.getD j 0 + 1)) (last.getD j 0 + cost)
      let swapped := 0 < i ∧ 0 < j ∧ a[i]? = b[j - 1]? ∧ a[i - 1]? = b[j]?
      row.push (if swapped then min near (before.getD (j - 1) 0 + 1) else near))
    #[i + 1]

/-- The distance of two words; words whose lengths differ by more than `farthest`
are as far apart as can be. -/
def distance (a b : Array Nat) : Nat :=
  if farthest < a.size - b.size ∨ farthest < b.size - a.size then max a.size b.size
  else
    let first : Array Nat := (List.range (b.size + 1)).toArray
    let rows := (List.range a.size).foldl
      (fun (before, last) i => (last, nextRow a b i before last)) (#[], first)
    rows.2.getD b.size 0

/-- The best candidates so far and their distance, with one more candidate. -/
def consider (word : Array Nat) (best : Nat × List String) (candidate : String) :
    Nat × List String :=
  let units := unitsOf candidate
  let apart := distance word units
  let length := max word.size units.size
  if units.size ≤ 1 ∨ ¬ 2 * length < 5 * (length - apart) then best
  else if apart < best.1 then (apart, [candidate])
  else if apart = best.1 then (best.1, best.2 ++ [candidate])
  else best

/-- The candidates nearest to a word, in alphabetical order. -/
def nearest (word : String) (candidates : List String) : List String :=
  let found := candidates.foldl (consider (unitsOf word)) (farthest, [])
  found.2.mergeSort fun a b => a ≤ b

/-- The suggestions for a word.  For one that starts as an option does, two dashes
are set aside on both sides. -/
def suggestions (word : String) (candidates : List String) : List String :=
  let candidates := candidates.eraseDups
  match word.toList with
  | '-' :: '-' :: rest =>
      (nearest (String.ofList rest) (candidates.map fun c => String.ofList (c.toList.drop 2))).map
        fun c => "--" ++ c
  | _ => nearest word candidates

/-- The line that offers suggestions. -/
def hint : List String → String
  | [] => ""
  | [one] => "\n(Did you mean " ++ one ++ "?)"
  | several => "\n(Did you mean one of " ++ ", ".intercalate several ++ "?)"

end Similar

end ManualTraffic
