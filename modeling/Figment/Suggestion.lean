/-!
Suggestions for a name that is not known: the known names that are spelled almost like it.
-/

namespace Figment

/-- The distances of a text with `c` added at its end from the beginnings of `target`. The list holds
those of the text itself; `corner` is the one before its head, and `left` the one found last. -/
def nextDistances (c : Char) (corner left : Nat) : List Char → List Nat → List Nat
  | d :: target, above :: row =>
    let here := min (min (above + 1) (left + 1)) (if c = d then corner else corner + 1)
    here :: nextDistances c above here target row
  | _, _ => []

def editDistance (source target : List Char) : Nat :=
  go 0 (List.range' 1 target.length) source
where
  /-- Reads the rest of the source; `first` and `row` are the distances of what has been read from
  the beginnings of the target, that of the empty one first. -/
  go (first : Nat) (row : List Nat) : List Char → Nat
    | [] => row.getLastD first
    | c :: rest => go (first + 1) (nextDistances c first (first + 1) target row) rest

example : editDistance ['a', 'b', 'c'] ['a', 'x', 'c', 'd'] = 2 ∧ editDistance [] ['a'] = 1 := by
  decide

def tolerance (name : String) : Nat :=
  if name.length ≤ 3 then 1 else 2

def precedes (a b : Nat × String) : Bool :=
  a.1 < b.1 || (a.1 == b.1 && decide (a.2 ≤ b.2))

/-- The known names that come nearest to a name, at most three of them. -/
def suggest (name : String) (known : List String) : List String :=
  let scored := known.map fun k => (editDistance name.toList k.toList, k)
  let near := scored.filter fun e => decide (e.1 ≤ tolerance name)
  ((near.mergeSort precedes).take 3).map (·.2)

end Figment
