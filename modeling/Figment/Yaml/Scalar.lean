import Figment.Decimal.Digits
import Figment.Yaml.Cursor
/-!
The texts of scalars.

White space inside a plain or quoted scalar is kept while it stays on one line. With a line break in
it the space around the break is dropped and the break is folded: a single one becomes a space, and
of several all but the first are kept. A block scalar is a run of indented lines, which are kept as
they are or folded in much the same way.
-/

namespace Figment.Yaml

/-- The white space met since the last character of a scalar, both lists read backwards. -/
inductive Gap where
  /-- Nothing but spaces and tabs. -/
  | blanks (cs : List Char)
  /-- Line breaks; an escaped first one leaves nothing behind. -/
  | breaks (first : Option Char) (more : List Char)

namespace Gap

def none : Gap := .blanks []

def isNone : Gap → Bool
  | blanks [] => true
  | _ => false

def isBroken : Gap → Bool
  | blanks _ => false
  | breaks _ _ => true

def push (c : Char) : Gap → Gap
  | blanks cs => if isBreak c then breaks (some c) [] else blanks (c :: cs)
  | breaks first more => if isBreak c then breaks first (c :: more) else breaks first more

def folded : Gap → List Char
  | blanks cs => cs
  | breaks Option.none more => more
  | breaks (some c) more =>
    if c = '\n' then (if more = [] then [' '] else more) else more ++ [c]

end Gap

def isFlowIndicator (c : Char) : Bool :=
  c ∈ [',', '[', ']', '\x7b', '\x7d']

structure ScannedScalar where
  text : List Char
  after : Cursor
  broken : Bool

/-- Reads on in a plain scalar, of which `before` has been read and then `gap`. It ends before a
comment, a document marker, a colon with a boundary behind it, in a flow collection before an
indicator, and outside of one at a line that is indented less than `least`. -/
def readPlain (inFlow : Bool) (least : Nat) (before : List Char) (gap : Gap) (p : Place) :
    List Char → Option ScannedScalar
  | [] => some ⟨before.reverse, ⟨[], p⟩, gap.isBroken⟩
  | c :: rest =>
    let stop := some ⟨before.reverse, ⟨c :: rest, p⟩, gap.isBroken⟩
    if isGap c || isBreak c then
      if c = '\t' ∧ gap.isBroken ∧ p.column < least then none
      else readPlain inFlow least before (gap.push c) (p.after c) rest
    else if !gap.isNone &&
        ((!inFlow && p.column < least) || atMarker p.column (c :: rest) || c == '#') then stop
    else if inFlow && c == ':' && rest.head?.any fun d => isFlowIndicator d || d == '?' then none
    else if (c == ':' && isBoundary rest) || (inFlow && isFlowIndicator c) then stop
    else readPlain inFlow least (c :: (gap.folded ++ before)) .none (p.after c) rest

/-- Reads on in a scalar between single quotes. Two of them stand for one. -/
def readSingleQuoted (before : List Char) (gap : Gap) (p : Place) :
    List Char → Option ScannedScalar
  | [] => none
  | c :: rest =>
    let behind := p.after c
    if isGap c || isBreak c then readSingleQuoted before (gap.push c) behind rest
    else if atMarker p.column (c :: rest) then none
    else
      let before := gap.folded ++ before
      if c = '\'' then
        match rest with
        | '\'' :: rest => readSingleQuoted ('\'' :: before) .none (behind.after '\'') rest
        | _ => some ⟨before.reverse, ⟨rest, behind⟩, false⟩
      else readSingleQuoted (c :: before) .none behind rest

def escaped? : Char → Option (Char ⊕ Nat)
  | '0' => some (.inl '\x00')
  | 'a' => some (.inl '\x07')
  | 'b' => some (.inl '\x08')
  | 't' => some (.inl '\t')
  | '\t' => some (.inl '\t')
  | 'n' => some (.inl '\n')
  | 'v' => some (.inl '\x0b')
  | 'f' => some (.inl '\x0c')
  | 'r' => some (.inl '\r')
  | 'e' => some (.inl '\x1b')
  | ' ' => some (.inl ' ')
  | '"' => some (.inl '"')
  | '/' => some (.inl '/')
  | '\\' => some (.inl '\\')
  | 'N' => some (.inl '\u0085')
  | '_' => some (.inl '\u00a0')
  | 'L' => some (.inl '\u2028')
  | 'P' => some (.inl '\u2029')
  | 'x' => some (.inr 2)
  | 'u' => some (.inr 4)
  | 'U' => some (.inr 8)
  | _ => none

/-- What comes next between double quotes: anything, what follows a backslash, or so many more
hexadecimal digits of a code point. -/
inductive Expecting where
  | anything
  | escape
  | digits (more value : Nat)

def charOf? (n : Nat) : Option Char :=
  if h : n.isValidChar then some (Char.ofNatAux n h) else none

/-- Reads on in a scalar between double quotes. A line break behind a backslash is dropped with the
white space that follows it. -/
def readDoubleQuoted (before : List Char) (gap : Gap) (next : Expecting) (p : Place) :
    List Char → Option ScannedScalar
  | [] => none
  | c :: rest =>
    let behind := p.after c
    match next with
    | .escape =>
      if isBreak c then readDoubleQuoted before (.breaks none []) .anything behind rest
      else
        match escaped? c with
        | none => none
        | some (.inl d) => readDoubleQuoted (d :: before) .none .anything behind rest
        | some (.inr n) => readDoubleQuoted before .none (.digits n 0) behind rest
    | .digits more value =>
      match Decimal.digit? 16 c with
      | none => none
      | some d =>
        if more = 1 then
          match charOf? (16 * value + d) with
          | none => none
          | some x => readDoubleQuoted (x :: before) .none .anything behind rest
        else readDoubleQuoted before .none (.digits (more - 1) (16 * value + d)) behind rest
    | .anything =>
      if isGap c || isBreak c then readDoubleQuoted before (gap.push c) .anything behind rest
      else if atMarker p.column (c :: rest) then none
      else
        let before := gap.folded ++ before
        if c = '"' then some ⟨before.reverse, ⟨rest, behind⟩, false⟩
        else if c = '\\' then readDoubleQuoted before .none .escape behind rest
        else readDoubleQuoted (c :: before) .none .anything behind rest

/-- What happens to the line breaks at the end of a block scalar: all are dropped, the first is
kept, or all are kept. -/
inductive Chomping where
  | strip
  | clip
  | keep
deriving DecidableEq

/-- The indicators behind the mark of a block scalar, in either order: the chomping, and the
indentation if one is given. -/
def readBlockHeader (c : Cursor) : Option (Chomping × Option Nat × Cursor) :=
  let (sign, c) := chomping c
  (indentation c).map fun (indent, c) =>
    let (sign, c) := if sign.isNone ∧ indent.isSome then chomping c else (sign, c)
    (sign.getD .clip, indent, c)
where
  chomping (c : Cursor) : Option Chomping × Cursor :=
    match c.rest with
    | '+' :: _ => (some .keep, c.next)
    | '-' :: _ => (some .strip, c.next)
    | _ => (none, c)
  indentation (c : Cursor) : Option (Option Nat × Cursor) :=
    match c.rest with
    | d :: _ =>
      if d = '0' then none
      else if d.isDigit then some (some (d.toNat - '0'.toNat), c.next)
      else some (none, c)
    | [] => some (none, c)

def skipToLineEnd (c : Cursor) : Option Cursor :=
  let c := c.skipWhile isGap
  let c := if c.sees (· == '#') then c.skipWhile (!isBreak ·) else c
  match c.rest with
  | [] => some c
  | x :: _ => if isBreak x then some c.next else none

structure Margin where
  /-- Their line breaks, read backwards. -/
  breaks : List Char
  /-- The largest column reached in the indentation. -/
  deepest : Nat
  after : Cursor

/-- Skips indentation and blank lines. With an `indent` no line is skipped any further than that;
a tab in the indentation is refused. -/
def readMargin (indent : Option Nat) (breaks : List Char) (deepest : Nat) (p : Place) :
    List Char → Option Margin
  | [] => some ⟨breaks, max deepest p.column, ⟨[], p⟩⟩
  | c :: rest =>
    let inside := indent.all (p.column < ·)
    if c = ' ' ∧ inside then readMargin indent breaks deepest (p.after c) rest
    else if c = '\t' ∧ inside then none
    else if isBreak c then
      readMargin indent (c :: breaks) (max deepest p.column) (p.after c) rest
    else some ⟨breaks, max deepest p.column, ⟨c :: rest, p⟩⟩

/-- A block scalar so far: its text, the break that ended its last line, and those of the blank
lines since then, all read backwards. -/
structure BlockText where
  text : List Char
  lineEnd : List Char
  blank : List Char
  /-- Whether the last line starts with white space. -/
  indented : Bool

namespace BlockText

/-- Adds a line. In a folded scalar the break before it is folded, unless this line or the one
before starts with white space. -/
def addLine (t : BlockText) (literal : Bool) (line lineEnd : List Char) : BlockText :=
  let indented := line.head?.any isGap
  let joint :=
    if !literal && t.lineEnd == ['\n'] && !t.indented && !indented then
      if t.blank = [] then [' '] else []
    else t.lineEnd
  { text := line.reverse ++ (t.blank ++ (joint ++ t.text))
    lineEnd
    blank := []
    indented }

def chomp (t : BlockText) : Chomping → List Char
  | .strip => t.text.reverse
  | .clip => (t.lineEnd ++ t.text).reverse
  | .keep => (t.blank ++ (t.lineEnd ++ t.text)).reverse

end BlockText

def readBlockLines (literal : Bool) (indent : Nat) :
    Nat → BlockText → Cursor → Option (BlockText × Cursor)
  | 0, t, c => some (t, c)
  | fuel + 1, t, c =>
    if c.column ≠ indent ∨ c.rest = [] then some (t, c)
    else
      let (line, c) := c.span (!isBreak ·)
      let (lineEnd, c) := match c.rest with
        | x :: _ => ([x], c.next)
        | [] => ([], c)
      match readMargin (some indent) [] 0 c.place c.rest with
      | none => none
      | some m =>
        readBlockLines literal indent fuel
          { t.addLine literal line lineEnd with blank := m.breaks } m.after

/-- Reads a block scalar, after its mark. `outer` is the indentation of the block around it, if
there is one. Unless the header gives an indentation, that of the first line that is not blank
holds, though it has to be deeper than `outer`. -/
def readBlock (literal : Bool) (outer : Option Nat) (c : Cursor) : Option ScannedScalar := do
  let (chomping, given, c) ← readBlockHeader c
  let c ← skipToLineEnd c
  let given := given.map (outer.getD 0 + ·)
  let m ← readMargin given [] 0 c.place c.rest
  let least := match outer with
    | some n => n + 1
    | none => 1
  let indent := given.getD (max m.deepest least)
  let (t, after) ← readBlockLines literal indent (m.after.rest.length + 1)
    ⟨[], [], m.breaks, false⟩ m.after
  pure ⟨t.chomp chomping, after, false⟩

end Figment.Yaml
