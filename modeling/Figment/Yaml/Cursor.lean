/-!
The text of a YAML document and a place in it.

Before anything is read, line ends are made uniform and characters that may not occur in a document
are refused. A cursor is what is left of the text, with the place reached in it. It moves one
character at a time; how far a construct is indented is a matter of columns, how long a key is one of
octets.
-/

namespace Figment.Yaml

/-- Line feed, the line separator and the paragraph separator end a line. -/
def isBreak (c : Char) : Bool :=
  c == '\n' || c == '\u2028' || c == '\u2029'

def isGap (c : Char) : Bool :=
  c == ' ' || c == '\t'

def isAllowed (c : Char) : Bool :=
  let n := c.toNat
  n == 0x9 || n == 0xA || n == 0xD || (0x20 ≤ n && n ≤ 0x7E) || n == 0x85 || (0xA0 ≤ n && n ≤ 0xFFFD)
    || 0x10000 ≤ n

def isWordChar (c : Char) : Bool :=
  c.isAlphanum || c == '-' || c == '_'

/-- The text with a line feed for each carriage return, for each carriage return with a line feed
behind it, and for each next-line character. -/
def uniformBreaks : List Char → List Char
  | [] => []
  | '\r' :: '\n' :: rest => '\n' :: uniformBreaks rest
  | c :: rest => (if c = '\r' ∨ c = '\u0085' then '\n' else c) :: uniformBreaks rest

def characters? (text : String) : Option (List Char) :=
  let s := text.toList
  if s.all isAllowed then some (uniformBreaks s) else none

structure Place where
  /-- The number of lines before this one. -/
  line : Nat
  /-- The number of characters before the place, on its line. -/
  column : Nat
  /-- The number of octets before the place, on its line. -/
  octets : Nat
deriving DecidableEq, Repr

namespace Place

def start : Place :=
  ⟨0, 0, 0⟩

def after (c : Char) (p : Place) : Place :=
  if isBreak c then ⟨p.line + 1, 0, 0⟩ else ⟨p.line, p.column + 1, p.octets + c.utf8Size⟩

end Place

structure Cursor where
  rest : List Char
  place : Place
deriving Repr

namespace Cursor

def start (s : List Char) : Cursor :=
  ⟨s, .start⟩

def line (c : Cursor) : Nat :=
  c.place.line

def column (c : Cursor) : Nat :=
  c.place.column

def next (c : Cursor) : Cursor :=
  match c.rest with
  | [] => c
  | x :: rest => ⟨rest, c.place.after x⟩

def skip (c : Cursor) : Nat → Cursor
  | 0 => c
  | n + 1 => c.next.skip n

def span (p : Char → Bool) (c : Cursor) : List Char × Cursor :=
  let taken := c.rest.takeWhile p
  (taken, c.skip taken.length)

def skipWhile (p : Char → Bool) (c : Cursor) : Cursor :=
  (c.span p).2

def sees (p : Char → Bool) (c : Cursor) : Bool :=
  c.rest.head?.any p

end Cursor

def isBoundary (s : List Char) : Bool :=
  s.head?.all fun c => isGap c || isBreak c

def hasMarker (c : Char) : List Char → Bool
  | x :: y :: z :: rest => x == c && y == c && z == c && isBoundary rest
  | _ => false

/-- Whether a document starts or ends here. Markers count at the start of a line only. -/
def atMarker (column : Nat) (s : List Char) : Bool :=
  column == 0 && (hasMarker '-' s || hasMarker '.' s)

end Figment.Yaml
