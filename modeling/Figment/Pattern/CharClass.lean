import Figment.Unicode.Blank
/-!
Character classes: what stands between square brackets in a pattern, and the backslash shorthands.

`CharClass.candidates` lists the characters a class can produce, each once and in code point order.
-/

namespace Figment

inductive Shorthand where
  | digit
  | notDigit
  | word
  | notWord
  | space
  | notSpace
deriving DecidableEq, Repr

namespace Shorthand

def ofLetter? : Char → Option Shorthand
  | 'd' => some digit
  | 'D' => some notDigit
  | 'w' => some word
  | 'W' => some notWord
  | 's' => some space
  | 'S' => some notSpace
  | _ => none

/-- Digits and word characters are those of ASCII; white space is that of Unicode. -/
def contains (c : Char) : Shorthand → Bool
  | digit => c.isDigit
  | notDigit => !c.isDigit
  | word => c.isAlphanum || c == '_'
  | notWord => !(c.isAlphanum || c == '_')
  | space => Unicode.isBlank c
  | notSpace => !Unicode.isBlank c

end Shorthand

/-- A member of a character class; a single character is the range from itself to itself. -/
inductive ClassItem where
  | range (first last : Char)
  | shorthand (s : Shorthand)
deriving DecidableEq, Repr

/-- A set of characters, or with `negated` what is left of the printable ones without them. -/
structure CharClass where
  negated : Bool
  items : List ClassItem
deriving DecidableEq, Repr

def charsBetween (first last : Nat) : List Char :=
  (List.range' first (last + 1 - first)).filterMap fun n =>
    if h : n.isValidChar then some (Char.ofNatAux n h) else none

/-- Printable ASCII, from space to tilde: what an unspecified character is drawn from. -/
def printable : List Char :=
  charsBetween 0x20 0x7E

def dropRepeats (cs : List Char) : List Char :=
  cs.foldr (fun c rest => if rest.head? = some c then rest else c :: rest) []

namespace ClassItem

def contains (c : Char) : ClassItem → Bool
  | range first last => decide (first ≤ c) && decide (c ≤ last)
  | shorthand s => s.contains c

/-- The characters that an item contributes to a class that is not negated: a range all that it
spans, a shorthand its printable ones besides tab and line feed. -/
def members : ClassItem → List Char
  | range first last => charsBetween first.toNat last.toNat
  | shorthand s => ('\t' :: '\n' :: printable).filter (s.contains ·)

end ClassItem

namespace CharClass

def ofShorthand (s : Shorthand) : CharClass :=
  ⟨false, [.shorthand s]⟩

def mentions (k : CharClass) (c : Char) : Bool :=
  k.items.any (·.contains c)

def candidates (k : CharClass) : List Char :=
  if k.negated then printable.filter (!k.mentions ·)
  else dropRepeats ((k.items.flatMap ClassItem.members).mergeSort fun a b => decide (a ≤ b))

end CharClass

end Figment
