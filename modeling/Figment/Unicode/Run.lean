/-!
Character properties as tables. A property is a list of runs of code points in ascending order;
the question whether a character has the property is one search through the list.
-/

namespace Figment.Unicode

/-- The code points `first`, `first + step`, and so on up to `last`. -/
structure Run where
  first : Nat
  last : Nat
  step : Nat
deriving DecidableEq, Repr

def Run.contains (r : Run) (n : Nat) : Bool :=
  decide (r.first ≤ n) && decide (n ≤ r.last) && (n - r.first) % r.step == 0

def inTable (table : List Run) (c : Char) : Bool :=
  table.any (·.contains c.toNat)

def isAscending : List Run → Bool
  | [] => true
  | [r] => decide (r.first ≤ r.last)
  | r :: s :: rest => decide (r.first ≤ r.last) && decide (r.last < s.first) && isAscending (s :: rest)

end Figment.Unicode
