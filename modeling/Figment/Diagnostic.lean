import Figment.Check
import Figment.Delimited
/-!
Showing where a text is refused.

A place is counted in lines and characters, while what is marked in a text is counted in octets. The
lines in front of the place are skipped first, and then the characters in front of it.
-/

namespace Figment

def octets : List Char → Nat
  | [] => 0
  | c :: rest => c.utf8Size + octets rest

def lines : List Char → List (List Char)
  | [] => []
  | c :: rest => if c = '\n' then [c] :: lines rest else Delimited.consFirst c (lines rest)

example : lines ['a', '\n', '\n', 'b'] = [['a', '\n'], ['\n'], ['b']] ∧
    lines ['a', '\n'] = [['a', '\n']] := by
  decide

namespace Position

def linesBefore (p : Position) (text : List Char) : List Char :=
  ((lines text).take (p.line - 1)).flatten

def fromLine (p : Position) (text : List Char) : List Char :=
  text.drop (p.linesBefore text).length

/-- How many octets of a text are in front of a place. Where there is no character at the place, it is
taken for the end of the text. -/
def offset (p : Position) (text : List Char) : Nat :=
  if p.column - 1 < (p.fromLine text).length then
    octets (p.linesBefore text) + octets ((p.fromLine text).take (p.column - 1))
  else octets text

end Position

/-- A problem with a text of the data, and what is shown of the text. -/
structure Diagnostic where
  /-- The file and the key that the text comes from. -/
  origin : String
  text : String
  /-- What is marked: how many octets are in front of it, and how many it has. -/
  mark : Option (Nat × Nat)
  message : String
  help : Option String
deriving DecidableEq, Repr

def Diagnostic.ofSyntaxError (origin text : String) (e : SyntaxError) : Diagnostic where
  origin
  text
  mark := some (e.place.offset text.toList, 1)
  message := Check.syntaxMessage e
  help := some "directives look like #\x7bname 'arg', ...\x7d or #\x7bProvider.method\x7d"

end Figment
