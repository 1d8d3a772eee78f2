import Figment.Pattern.CharClass
/-!
Patterns: the subset of regular expressions that strings are generated from.

A pattern is a list of alternatives, an alternative a list of pieces, and a piece an atom with
bounds on its repetition. `Pattern.longest` is the length of the longest string a pattern can
generate, which is what the reader of patterns limits.
-/

namespace Figment

mutual

inductive Atom where
  | literal (c : Char)
  | set (k : CharClass)
  /-- One printable character. -/
  | any
  /-- A line or word boundary: accepted, generates nothing. -/
  | anchor
  | group (alternatives : List (List Piece))

inductive Piece where
  | mk (atom : Atom) (least most : UInt32)

end

instance : Inhabited Atom := ⟨.anchor⟩

abbrev Pattern := List (List Piece)

namespace Piece

def atom : Piece → Atom
  | mk a _ _ => a

def least : Piece → UInt32
  | mk _ n _ => n

def most : Piece → UInt32
  | mk _ _ n => n

end Piece

/-- The largest length that is told apart from larger ones. -/
def lengthCap : Nat := Nat.pow 2 64 - 1

def saturate (n : Nat) : Nat :=
  min n lengthCap

mutual

/-- The length of the longest string an atom can generate, cut off at `lengthCap`. -/
def Atom.longest : Atom → Nat
  | .literal _ => 1
  | .set _ => 1
  | .any => 1
  | .anchor => 0
  | .group p => Pattern.longest p

def Piece.longest : Piece → Nat
  | .mk a _ most => saturate (a.longest * most.toNat)

def Pattern.longestRun : List Piece → Nat
  | [] => 0
  | p :: ps => saturate (p.longest + Pattern.longestRun ps)

def Pattern.longest : List (List Piece) → Nat
  | [] => 0
  | ps :: rest => max (Pattern.longestRun ps) (Pattern.longest rest)

end

end Figment
