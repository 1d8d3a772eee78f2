import Figment.Decimal.Digits
import Figment.Pattern.Basic
import Figment.Reading
/-!
Reading patterns.

    pattern    = run ('|' run)*            run   = piece*
    piece      = atom quantifier?          group = '(' '?:'? pattern ')'
    quantifier = ('?' | '*' | '+' | '{m}' | '{m,n}' | '{m,}') '?'?
    class      = '[' '^'? item+ ']'

The character at the front decides which form is read, so a form that has begun is never given up
for another one: all trouble inside it is fatal. `Pattern.read` accepts a text that is one pattern
whose longest string stays within `maxExpansion` characters.
-/

namespace Figment.Pattern

/-- How many repetitions an open quantifier allows beyond its lower bound. -/
def openRepeats : UInt32 := 8

def maxRepetition : UInt32 := 1000

def maxExpansion : Nat := 100000

/-- Characters that stand for themselves only behind a backslash. -/
def isSpecial (c : Char) : Bool :=
  c ∈ ['|', '(', ')', '[', '{', '*', '+', '?', '\\', '^', '$', '.']

def unescape : Char → Char
  | 'n' => '\n'
  | 't' => '\t'
  | 'r' => '\r'
  | c => c

def readNumber (s : List Char) : Reply UInt32 :=
  let ds := s.takeWhile (·.isDigit)
  if ds = [] then .stuck { rest := s }
  else if Decimal.digitsValue ds < Nat.pow 2 32 then
    .done (.ofNat (Decimal.digitsValue ds)) (s.dropWhile (·.isDigit))
  else .stuck { rest := s, cause := some "number too large to fit in target type" }

/-- The bounds before the closing brace: `m`, `m,` or `m,n`. A second number that cannot be read
counts as absent. -/
def readBounds (s : List Char) : Reply (UInt32 × UInt32) :=
  (readNumber s).andThen fun least rest =>
    match rest with
    | ',' :: rest =>
      ((readNumber rest).optional rest).map fun
        | some most => (least, most)
        | none => (least, if least ≤ 0xFFFFFFFF - openRepeats then least + openRepeats else 0xFFFFFFFF)
    | _ => .done (least, least) rest

def readRepetition (s : List Char) : Reply (UInt32 × UInt32) :=
  ((readBounds s).andThen fun bounds rest =>
    match rest with
    | '\x7d' :: rest =>
      if bounds.1 ≤ bounds.2 ∧ bounds.2 ≤ maxRepetition then .done bounds rest
      else .stuck { rest := s }
    | _ => .stuck { rest }).mapTrouble fun t =>
      (t.commit.within "repetition").expecting
        "`\x7bm\x7d`, `\x7bm,n\x7d` or `\x7bm,\x7d` with m <= n <= 1000"

/-- The bounds that a quantifier sets. A question mark behind it is read and means nothing. -/
def readQuantifier (s : List Char) : Reply (UInt32 × UInt32) :=
  match s with
  | '?' :: rest => .done (0, 1) (skipLazy rest)
  | '*' :: rest => .done (0, openRepeats) (skipLazy rest)
  | '+' :: rest => .done (1, 1 + openRepeats) (skipLazy rest)
  | '\x7b' :: rest => (readRepetition rest).andThen fun bounds rest => .done bounds (skipLazy rest)
  | _ => .stuck { rest := s }
where
  skipLazy : List Char → List Char
    | '?' :: rest => rest
    | rest => rest

/-- The bounds of a piece: those of the quantifier behind it, or exactly one. -/
def readTimes (s : List Char) : Reply (UInt32 × UInt32) :=
  ((readQuantifier s).optional s).map (·.getD (1, 1))

def readClassChar (s : List Char) : Reply Char :=
  match s with
  | '\\' :: c :: rest => .done (unescape c) rest
  | c :: rest => if c = ']' ∨ c = '\\' then .stuck { rest := s } else .done c rest
  | [] => .stuck { rest := s }

/-- A single character or a range. A hyphen directly before the closing bracket is a character. -/
def readClassRange (s : List Char) : Reply ClassItem :=
  (readClassChar s).andThen fun first rest =>
    match rest with
    | '-' :: after =>
      if after.head? = some ']' then .done (.range first first) rest
      else
        ((readClassChar after).andThen fun last rest =>
          if first ≤ last then .done (.range first last) rest
          else .stuck { rest := after }).mapTrouble fun t =>
            t.commit.within "character range"
    | _ => .done (.range first first) rest

/-- A backslash with a shorthand letter is tried before all else. -/
def readClassItem (s : List Char) : Reply ClassItem :=
  match s with
  | '\\' :: c :: rest =>
    match Shorthand.ofLetter? c with
    | some k => .done (.shorthand k) rest
    | none => readClassRange s
  | _ => readClassRange s

def readClassItems (s : List Char) : Reply (List ClassItem) :=
  match readClassItem s with
  | .stuck t => if t.fatal then .stuck t else .done [] s
  | .done item rest =>
    if rest.length < s.length then (readClassItems rest).map (item :: ·)
    else .done [item] rest
termination_by s.length

/-- A class, after the opening bracket: at least one item, and at least one candidate. -/
def readClass (s : List Char) : Reply CharClass :=
  (body.andThen fun k rest =>
    if k.candidates = [] then .stuck { rest := s } else .done k rest).mapTrouble fun t =>
      t.commit.within "character class"
where
  body : Reply CharClass :=
    let negated := s.head? = some '^'
    let start := if negated then s.tail else s
    let items := (readClassItem start).andThen fun _ _ => readClassItems start
    (items.mapTrouble (·.expecting "at least one member")).andThen fun items rest =>
      match rest with
      | ']' :: rest => .done ⟨negated, items⟩ rest
      | _ => .stuck { rest, expected := ["`]`"] }

def readEscape (s : List Char) : Reply Atom :=
  match s with
  | [] => .stuck { rest := s, fatal := true, label := some "escape" }
  | c :: rest =>
    if ('1' ≤ c ∧ c ≤ '9') ∨ c = 'k' then
      .stuck
        { rest := s
          fatal := true
          label := some "backreference"
          expected := ["a literal or class escape (backreferences are not supported)"] }
    else
      match Shorthand.ofLetter? c with
      | some k => .done (.set (.ofShorthand k)) rest
      | none => if c = 'b' ∨ c = 'B' then .done .anchor rest else .done (.literal (unescape c)) rest

def readGroupMark (s : List Char) : Reply Unit :=
  match s with
  | '?' :: ':' :: rest => .done () rest
  | '?' :: rest =>
    .stuck
      { rest
        fatal := true
        label := some "group modifier"
        expected := ["`?:` (lookaround is not supported)"] }
  | _ => .stuck { rest := s }

mutual

def readAtom (s : List Char) : Reply Atom :=
  match s with
  | '(' :: inside =>
    match (readGroupMark inside).optional inside with
    | .stuck t => .stuck t
    | .done _ start =>
      if start.length ≤ inside.length then
        (readAlternatives start).andThen fun p rest =>
          match rest with
          | ')' :: rest => .done (.group p) rest
          | _ => .stuck { rest, fatal := true, label := some "group", expected := ["`)`"] }
      else .stuck { rest := s }
  | '[' :: rest => (readClass rest).map .set
  | '^' :: rest => .done .anchor rest
  | '$' :: rest => .done .anchor rest
  | '.' :: rest => .done .any rest
  | '\\' :: rest => readEscape rest
  | c :: rest => if isSpecial c then .stuck { rest := s } else .done (.literal c) rest
  | [] => .stuck { rest := s }
termination_by (s.length, 0)

def readPiece (s : List Char) : Reply Piece :=
  (readAtom s).andThen fun atom rest =>
    (readTimes rest).map fun bounds => .mk atom bounds.1 bounds.2
termination_by (s.length, 1)

def readRun (s : List Char) : Reply (List Piece) :=
  match readPiece s with
  | .stuck t => if t.fatal then .stuck t else .done [] s
  | .done piece rest =>
    if rest.length < s.length then (readRun rest).map (piece :: ·)
    else .done [piece] rest
termination_by (s.length, 2)

/-- Runs with bars between them. A bar that no run can be read behind is left. -/
def readAlternatives (s : List Char) : Reply Pattern :=
  match readRun s with
  | .stuck t => .stuck t
  | .done run rest =>
    match rest with
    | '|' :: after =>
      if after.length < s.length then
        ((readAlternatives after).optional rest).map fun others => run :: others.getD []
      else .done [run] rest
    | _ => .done [run] rest
termination_by (s.length, 3)

end

def leftoverMessage (c : Char) : String :=
  if c = ')' then "unmatched ')'"
  else if c ∈ ['*', '+', '?', '\x7b'] then s!"quantifier '{c}' has nothing to repeat"
  else s!"unexpected character: '{c}'"

def read (text : String) : Except SyntaxError Pattern :=
  let whole := text.toList
  match readAlternatives whole with
  | .stuck t => .error (t.toError whole)
  | .done p [] =>
    if maxExpansion < Pattern.longest p then
      .error (.malformed (.of whole whole)
        s!"invalid repetition, pattern can generate more than {maxExpansion} characters")
    else .ok p
  | .done _ (c :: rest) => .error (.malformed (.of whole (c :: rest)) (leftoverMessage c))

end Figment.Pattern
