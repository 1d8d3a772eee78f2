/-!
Whole numbers written in digits.
-/

namespace Figment.Decimal

def digitsValue (ds : List Char) : Nat :=
  ds.foldl (fun n d => 10 * n + (d.toNat - '0'.toNat)) 0

/-- The value of one digit. Letters of either case follow the nine. -/
def digit? (base : Nat) (c : Char) : Option Nat :=
  let value :=
    if c.isDigit then c.toNat - '0'.toNat
    else if c.isAlpha then c.toLower.toNat - 'a'.toNat + 10
    else base
  if value < base then some value else none

def numeral? (base : Nat) (s : List Char) : Option Nat :=
  if s = [] then none
  else s.foldlM (fun n c => (digit? base c).map (base * n + ·)) 0

example : numeral? 16 ['f', 'F'] = some 255 ∧ numeral? 8 ['8'] = none ∧ numeral? 10 [] = none := by
  decide

end Figment.Decimal
