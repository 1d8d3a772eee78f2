import Figment.Unicode.Run
/-!
White space: the Unicode property White_Space, and the text operation that needs it.
-/

namespace Figment.Unicode

/-- The 25 characters of the property White_Space. -/
def blankRuns : List Run := [
  ⟨9, 13, 1⟩, ⟨32, 32, 1⟩, ⟨133, 133, 1⟩, ⟨160, 160, 1⟩, ⟨5760, 5760, 1⟩, ⟨8192, 8202, 1⟩,
  ⟨8232, 8233, 1⟩, ⟨8239, 8239, 1⟩, ⟨8287, 8287, 1⟩, ⟨12288, 12288, 1⟩]

def isBlank (c : Char) : Bool :=
  inTable blankRuns c

example : isAscending blankRuns = true ∧ isBlank '\u00a0' = true ∧ isBlank '\u200b' = false := by decide

def trim (s : List Char) : List Char :=
  ((s.dropWhile isBlank).reverse.dropWhile isBlank).reverse

end Figment.Unicode
