import Figment.Yaml.Scalar
import Figment.Yaml.Tag
/-!
Tokens of a YAML document.

Collections in block style have no marks of their own: they are opened where a line is indented more
than the block around it, and closed where one is indented less. Only the colon tells that what
stands before it is a key, so the scanner remembers the token at which a key may have begun and, if
the colon comes, writes the key mark in front of that token.
-/

namespace Figment.Yaml

inductive Token where
  /-- The directive that names the version. -/
  | version (major minor : Nat)
  /-- The directive that lets a handle stand for the beginning of tags. -/
  | handle (name : List Char) (stem : List UInt8)
  | documentStart
  | documentEnd
  | blockSequence
  | blockMapping
  | blockEnd
  | flowSequence
  | flowSequenceEnd
  | flowMapping
  | flowMappingEnd
  | blockEntry
  | flowEntry
  | key
  | value
  | alias (name : List Char)
  | anchor (name : List Char)
  /-- A tag in two parts; the handle is empty if the rest is the whole tag. -/
  | tag (handle : List Char) (rest : List UInt8)
  | scalar (plain : Bool) (text : List Char)
deriving DecidableEq, Inhabited

def readAnchorName (c : Cursor) : Option (List Char × Cursor) :=
  let (name, c) := c.span isWordChar
  let ended := isBoundary c.rest || c.sees (· ∈ ['?', ':', ',', ']', '\x7d', '%', '@', '\x60'])
  if name ≠ [] ∧ ended then some (name, c) else none

/-- A handle: an exclamation mark, and perhaps a name with a second one behind it. The name alone
is returned too, for what begins like a handle need not be one. -/
def readHandle (c : Cursor) : Option (List Char × Cursor) :=
  if c.sees (· == '!') then
    let (name, c) := c.next.span isWordChar
    if c.sees (· == '!') then some ('!' :: (name ++ ['!']), c.next) else some ('!' :: name, c)
  else none

def isClosedHandle (s : List Char) : Bool :=
  2 ≤ s.length && s.getLast? == some '!'

/-- A tag: in angle brackets, behind a handle, or behind a single exclamation mark, which can also
stand alone. -/
def readTag (inFlow : Bool) (c : Cursor) : Option (Token × Cursor) := do
  let (token, c) ← match c.next.rest with
    | '<' :: _ => verbatim (c.skip 2)
    | _ => shorthand c
  if isBoundary c.rest || (inFlow && c.sees (· == ',')) then pure (token, c) else none
where
  verbatim (c : Cursor) : Option (Token × Cursor) := do
    let (octets, c) ← Tag.read true c
    if octets ≠ [] ∧ c.sees (· == '>') then pure (.tag [] (Tag.beforeNull octets), c.next) else none
  shorthand (c : Cursor) : Option (Token × Cursor) := do
    let (head, c) ← readHandle c
    let (octets, c) ← Tag.read false c
    if isClosedHandle head then
      if octets = [] then none else pure (.tag head (Tag.beforeNull octets), c)
    else
      let octets := Tag.beforeNull (Tag.encoded head.tail ++ octets)
      pure (if octets = [] then .tag [] (Tag.encoded ['!']) else .tag ['!'] octets, c)

def readVersionPart (c : Cursor) : Option (Nat × Cursor) :=
  let (ds, c) := c.span (·.isDigit)
  if ds = [] ∨ 9 < ds.length then none else some (Decimal.digitsValue ds, c)

def readDirective (c : Cursor) : Option (Token × Cursor) := do
  let (name, c) := c.next.span isWordChar
  if !isBoundary c.rest then none
  let (token, c) ←
    if name = ['Y', 'A', 'M', 'L'] then version (c.skipWhile isGap)
    else if name = ['T', 'A', 'G'] then abbreviation (c.skipWhile isGap)
    else none
  let c ← skipToLineEnd c
  pure (token, c)
where
  version (c : Cursor) : Option (Token × Cursor) := do
    let (major, c) ← readVersionPart c
    if !c.sees (· == '.') then none
    let (minor, c) ← readVersionPart c.next
    pure (.version major minor, c)
  abbreviation (c : Cursor) : Option (Token × Cursor) := do
    let (name, c) ← readHandle c
    if !(name == ['!'] || isClosedHandle name) || !c.sees isGap then none
    let (stem, c) ← Tag.read true (c.skipWhile isGap)
    if stem = [] || !isBoundary c.rest then none
    pure (.handle name (Tag.beforeNull stem), c)

structure PendingKey where
  /-- The number of tokens before it. -/
  index : Nat
  place : Place
  /-- Whether the line makes no sense unless this is a key. -/
  required : Bool
deriving Repr

/-- How many octets a key may have, if no mark in front of it says that it is one. -/
def maxKeySize : Nat := 1024

structure Scanner where
  cursor : Cursor
  tokens : Array Token
  /-- The columns of the blocks that are open, the innermost first. -/
  blocks : List Nat
  /-- Whether a key may begin here. -/
  keyAllowed : Bool
  /-- The key that may have begun in the collection at hand. -/
  pending : Option PendingKey
  /-- The same for the collections around it, down to the outermost flow collection. -/
  outer : List (Option PendingKey)

namespace Scanner

def start (s : List Char) : Scanner where
  cursor := .start s
  tokens := #[]
  blocks := []
  keyAllowed := true
  pending := none
  outer := []

def inFlow (s : Scanner) : Bool :=
  !s.outer.isEmpty

def column (s : Scanner) : Nat :=
  s.cursor.column

def indent? (s : Scanner) : Option Nat :=
  s.blocks.head?

def emit (s : Scanner) (t : Token) : Scanner :=
  { s with tokens := s.tokens.push t }

def mark (s : Scanner) (n : Nat) (t : Token) : Scanner :=
  { s.emit t with cursor := s.cursor.skip n }

/-- Skips white space, comments and line breaks, at most `fuel` pieces. Where a key may begin in
block style, a tab is no white space. A byte order mark at the start of a line is skipped, but takes
up its column. -/
def skipSpace : Nat → Scanner → Scanner
  | 0, s => s
  | fuel + 1, s =>
    let c := s.cursor
    let c := if c.column = 0 ∧ c.sees (· == '\ufeff') then c.next else c
    let tabs := s.inFlow || !s.keyAllowed
    let c := c.skipWhile fun x => x == ' ' || (tabs && x == '\t')
    let c := if c.sees (· == '#') then c.skipWhile (!isBreak ·) else c
    if c.sees isBreak then
      skipSpace fuel { s with cursor := c.next, keyAllowed := s.keyAllowed || !s.inFlow }
    else { s with cursor := c }

/-- Whether a key that began at `k` would by now be too long or spread over two lines. -/
def isStale (s : Scanner) (k : PendingKey) : Bool :=
  k.place.line < s.cursor.line || k.place.octets + maxKeySize < s.cursor.place.octets

/-- Forgets the pending key if it cannot be one any more. Those of the collections around have their
turn when these are at hand again: a key does not get any shorter. -/
def dropStale (s : Scanner) : Option Scanner :=
  match s.pending with
  | none => some s
  | some k =>
    if s.isStale k then (if k.required then none else some { s with pending := none }) else some s

def dropKey (s : Scanner) : Option Scanner :=
  if s.pending.any (·.required) then none else some { s with pending := none }

def saveKey (s : Scanner) : Option Scanner :=
  if s.keyAllowed then do
    let s ← s.dropKey
    let required := !s.inFlow && s.indent? == some s.column
    pure { s with pending := some ⟨s.tokens.size, s.cursor.place, required⟩ }
  else some s

/-- Closes the blocks that are indented more than `column`, and without a column all of them. -/
def closeBlocks (s : Scanner) (column : Option Nat) : Scanner :=
  if s.inFlow then s
  else
    let closed := s.blocks.takeWhile fun b => column.all (· < b)
    { s with
      tokens := s.tokens ++ closed.map fun _ => Token.blockEnd
      blocks := s.blocks.drop closed.length }

/-- Opens a block at a column that is deeper than the block at hand, its token being the one with
number `index`. -/
def openBlock (s : Scanner) (column index : Nat) (t : Token) : Scanner :=
  if s.inFlow || !s.indent?.all (· < column) then s
  else { s with tokens := s.tokens.insertIdxIfInBounds index t, blocks := column :: s.blocks }

/-- The mark at the start of a document, at its end, or at the end of the text closes all blocks. -/
def leaveDocument (s : Scanner) : Option Scanner := do
  let s ← (s.closeBlocks none).dropKey
  pure { s with keyAllowed := false }

def openFlow (s : Scanner) (t : Token) : Option Scanner := do
  let s ← s.saveKey
  pure ({ s with pending := none, outer := s.pending :: s.outer, keyAllowed := true }.mark 1 t)

def closeFlow (s : Scanner) (t : Token) : Option Scanner := do
  let s ← s.dropKey
  let s := match s.outer with
    | [] => s
    | k :: outer => { s with pending := k, outer }
  pure ({ s with keyAllowed := false }.mark 1 t)

def flowEntry (s : Scanner) : Option Scanner := do
  let s ← s.dropKey
  pure ({ s with keyAllowed := true }.mark 1 .flowEntry)

def blockEntry (s : Scanner) : Option Scanner := do
  if !s.inFlow && !s.keyAllowed then none
  let s ← (s.openBlock s.column s.tokens.size .blockSequence).dropKey
  pure ({ s with keyAllowed := true }.mark 1 .blockEntry)

def explicitKey (s : Scanner) : Option Scanner := do
  if !s.inFlow && !s.keyAllowed then none
  let s ← (s.openBlock s.column s.tokens.size .blockMapping).dropKey
  pure ({ s with keyAllowed := !s.inFlow }.mark 1 .key)

/-- A colon: the pending key is one, or else a key without a beginning was meant. -/
def valueMark (s : Scanner) : Option Scanner :=
  match s.pending with
  | some k =>
    let s := { s with tokens := s.tokens.insertIdxIfInBounds k.index .key }
    let s := s.openBlock k.place.column k.index .blockMapping
    some ({ s with pending := none, keyAllowed := false }.mark 1 .value)
  | none =>
    if !s.inFlow && !s.keyAllowed then none
    else
      let s := s.openBlock s.column s.tokens.size .blockMapping
      some ({ s with keyAllowed := !s.inFlow }.mark 1 .value)

def nameToken (s : Scanner) (read : Cursor → Option (Token × Cursor)) : Option Scanner := do
  let s ← s.saveKey
  let (t, c) ← read s.cursor
  pure { s.emit t with cursor := c, keyAllowed := false }

/-- Takes a scalar. A key may begin behind one that ended in a line break. -/
def scalarToken (s : Scanner) (plain : Bool) (read : Option ScannedScalar) : Option Scanner := do
  let s ← s.saveKey
  let r ← read
  pure { s.emit (.scalar plain r.text) with cursor := r.after, keyAllowed := r.broken }

def blockScalar (s : Scanner) (literal : Bool) : Option Scanner := do
  let s ← s.dropKey
  let r ← readBlock literal s.indent? s.cursor.next
  pure { s.emit (.scalar false r.text) with cursor := r.after, keyAllowed := true }

def plainScalar (s : Scanner) : Option Scanner :=
  let least := match s.indent? with
    | some n => n + 1
    | none => 0
  s.scalarToken true
    (readPlain s.inFlow least [] .none s.cursor.place s.cursor.rest)

def startsPlain (s : Scanner) (c : Char) (rest : List Char) : Bool :=
  if c = '-' then !rest.head?.any isGap
  else if c = '?' ∨ c = ':' then !s.inFlow && !isBoundary rest
  else
    !isGap c && !isBreak c && c ∉
      [',', '[', ']', '\x7b', '\x7d', '#', '&', '*', '!', '|', '>', '\'', '"', '%', '@', '\x60']

def take (s : Scanner) (c : Char) (rest : List Char) : Option Scanner :=
  let here := s.cursor
  if s.column = 0 ∧ c = '%' then do
    let s ← s.leaveDocument
    let (t, after) ← readDirective here
    pure { s.emit t with cursor := after }
  else if s.column = 0 ∧ hasMarker '-' (c :: rest) then
    s.leaveDocument.map (·.mark 3 .documentStart)
  else if s.column = 0 ∧ hasMarker '.' (c :: rest) then
    s.leaveDocument.map (·.mark 3 .documentEnd)
  else if c = '[' then s.openFlow .flowSequence
  else if c = '\x7b' then s.openFlow .flowMapping
  else if c = ']' then s.closeFlow .flowSequenceEnd
  else if c = '\x7d' then s.closeFlow .flowMappingEnd
  else if c = ',' then s.flowEntry
  else if c = '-' ∧ isBoundary rest then s.blockEntry
  else if c = '?' ∧ (s.inFlow ∨ isBoundary rest) then s.explicitKey
  else if c = ':' ∧ (s.inFlow ∨ isBoundary rest) then s.valueMark
  else if c = '*' then s.nameToken fun c => (readAnchorName c.next).map fun r => (.alias r.1, r.2)
  else if c = '&' then s.nameToken fun c => (readAnchorName c.next).map fun r => (.anchor r.1, r.2)
  else if c = '!' then s.nameToken (readTag s.inFlow)
  else if c = '|' ∧ !s.inFlow then s.blockScalar true
  else if c = '>' ∧ !s.inFlow then s.blockScalar false
  else if c = '\'' then
    s.scalarToken false (readSingleQuoted [] .none (here.place.after c) rest)
  else if c = '"' then
    s.scalarToken false (readDoubleQuoted [] .none .anything (here.place.after c) rest)
  else if s.startsPlain c rest then s.plainScalar
  else none

/-- Takes tokens up to the end of the text. Each one costs a unit of `fuel` and a character, so
that `fuel` also bounds the number of lines to be skipped. -/
def run : Nat → Scanner → Option (Array Token)
  | 0, _ => none
  | fuel + 1, s => do
    let s ← (skipSpace (fuel + 1) s).dropStale
    let s := s.closeBlocks (some s.column)
    match s.cursor.rest with
    | [] => s.leaveDocument.map (·.tokens)
    | c :: rest => (s.take c rest).bind (run fuel)

end Scanner

def tokens? (text : String) : Option (List Token) := do
  let s ← characters? text
  let tokens ← Scanner.run (s.length + 1) (.start s)
  pure tokens.toList

end Figment.Yaml
