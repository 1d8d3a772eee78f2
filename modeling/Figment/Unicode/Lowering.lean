import Figment.Unicode.Case
/-!
Lowercasing a text.

Each character is mapped on its own, except for the capital sigma, whose lowercase form at the end
of a word differs from the one inside it.
-/

namespace Figment.Unicode

def meetsCased (s : List Char) : Bool :=
  (s.dropWhile isCaseIgnorable).head?.any isCased

/-- The lowercase form of a capital sigma between `before`, read backwards, and `after`: the final
one if a word ends there that has begun earlier. -/
def lowerSigma (before after : List Char) : Char :=
  if meetsCased before && !meetsCased after then '\u03c2' else '\u03c3'

/-- The lowercase form of a text that `before`, read backwards, stands in front of. -/
def lowerAfter (before : List Char) : List Char → List Char
  | [] => []
  | c :: rest =>
    (if c = '\u03a3' then [lowerSigma before rest] else lowerChar c) ++ lowerAfter (c :: before) rest

def lower (s : String) : String :=
  .ofList (lowerAfter [] s.toList)

example : lowerAfter [] ['A', '\u03a3'] = ['a', '\u03c2'] ∧
    lowerAfter [] ['\u03a3', '.', 'B'] = ['\u03c3', '.', 'b'] := by
  decide +kernel

end Figment.Unicode
