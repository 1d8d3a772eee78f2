import Figment.Decimal.Digits
import Figment.Yaml.Cursor
/-!
Tags of YAML nodes.

A tag is a sequence of octets. Most of them are written as the characters they stand for, any of them
can be written as a percent sign with two hexadecimal digits. Octets written in this way come in groups
that look like encoded characters: the first one tells how many others follow. That they are one is not
asked for, so a tag need not be a text. What stands behind a null octet does not count.
-/

namespace Figment.Yaml

structure Tag where
  octets : List UInt8
deriving DecidableEq, Repr

namespace Tag

def encoded (s : List Char) : List UInt8 :=
  s.flatMap String.utf8EncodeChar

def ofText (s : String) : Tag :=
  ⟨encoded s.toList⟩

def standardStem : String :=
  "tag:yaml.org,2002:"

def standard (name : String) : Tag :=
  ofText (standardStem ++ name)

/-- Whether the tag is one of the document's own: they begin with an exclamation mark. -/
def isOwn (t : Tag) : Bool :=
  t.octets.head? == some 0x21

/-- The name in a tag of the document's own, if it is a text. A lone exclamation mark is its own
name. -/
def ownName? (t : Tag) : Option String :=
  match t.octets with
  | [0x21] => some "!"
  | 0x21 :: name => String.fromUTF8? ⟨name.toArray⟩
  | _ => none

def beforeNull (octets : List UInt8) : List UInt8 :=
  octets.takeWhile (· ≠ 0)

def groupSize? (octet : UInt8) : Option Nat :=
  if octet < 0x80 then some 1
  else if octet < 0xC0 then none
  else if octet < 0xE0 then some 2
  else if octet < 0xF0 then some 3
  else if octet < 0xF8 then some 4
  else none

def readOctet : List Char → Option (UInt8 × List Char)
  | '%' :: x :: y :: rest => do
    let high ← Decimal.digit? 16 x
    let low ← Decimal.digit? 16 y
    pure (.ofNat (16 * high + low), rest)
  | _ => none

def readFollowing : Nat → List Char → Option (List UInt8)
  | 0, _ => some []
  | n + 1, s => do
    let (octet, rest) ← readOctet s
    if 0x80 ≤ octet ∧ octet < 0xC0 then
      let more ← readFollowing n rest
      pure (octet :: more)
    else none

def readGroup (s : List Char) : Option (List UInt8) := do
  let (first, rest) ← readOctet s
  let n ← groupSize? first
  let more ← readFollowing (n - 1) rest
  pure (first :: more)

/-- The characters that tags are written with; those of flow collections only where nothing else can
be meant. -/
def isTagChar (verbatim : Bool) (c : Char) : Bool :=
  isWordChar c || c ∈ ";/?:@&=+$.!~*'()".toList || (verbatim && c ∈ [',', '[', ']'])

def readOctets (verbatim : Bool) : Nat → Cursor → Option (List UInt8 × Cursor)
  | 0, c => some ([], c)
  | fuel + 1, c =>
    match c.rest with
    | [] => some ([], c)
    | x :: _ =>
      if x = '%' then do
        let group ← readGroup c.rest
        let (more, after) ← readOctets verbatim fuel (c.skip (3 * group.length))
        pure (group ++ more, after)
      else if isTagChar verbatim x then do
        let (more, after) ← readOctets verbatim fuel c.next
        pure (encoded [x] ++ more, after)
      else some ([], c)

def read (verbatim : Bool) (c : Cursor) : Option (List UInt8 × Cursor) :=
  readOctets verbatim c.rest.length c

end Tag

end Figment.Yaml
