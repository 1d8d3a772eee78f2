import Figment.Yaml.Token
/-!
The nodes of a YAML document.

A node is what the tokens say it is: scalars are still texts, and an alias still points to the node
it repeats.

An anchor puts its node into a slot, and an alias means whatever node was put into the slot last, also
one that comes after the alias. The slot of an anchor has the number of names in use before it. So a
new name gets a slot of its own. A name that is used again moves to the slot that the next new name
will share with it.
-/

namespace Figment.Yaml

inductive Node where
  | alias (slot : Nat)
  | scalar (tag : Option Tag) (plain : Bool) (text : String)
  | sequence (tag : Option Tag) (items : List Node)
  | mapping (tag : Option Tag) (entries : List (Node × Node))
deriving Inhabited

/-- The anchors of a document, numbered in the order in which their nodes begin. -/
structure Anchors where
  /-- The slots for which names stand, each name once. -/
  names : List (List Char × Nat) := []
  /-- The slots of the anchors, the latest first. -/
  slots : List Nat := []
  /-- The nodes with the numbers of their anchors. -/
  nodes : List (Nat × Node) := []

namespace Anchors

def slot? (a : Anchors) (name : List Char) : Option Nat :=
  a.names.lookup name

def count (a : Anchors) : Nat :=
  a.slots.length

def declare (name : List Char) (a : Anchors) : Anchors :=
  { a with
    names := (name, a.names.length) :: a.names.filter (·.1 ≠ name)
    slots := a.names.length :: a.slots }

def add (number : Nat) (n : Node) (a : Anchors) : Anchors :=
  { a with nodes := (number, n) :: a.nodes }

/-- The node that was put into a slot last. -/
def node? (a : Anchors) (slot : Nat) : Option Node :=
  (latest slot a.slots).bind fun number => a.nodes.lookup number
where
  /-- The number of the latest anchor with a slot. -/
  latest (slot : Nat) : List Nat → Option Nat
    | [] => none
    | s :: earlier => if s = slot then some earlier.length else latest slot earlier

end Anchors

/-- A document: its root, its anchors, and its size, in which a collection counts twice. -/
structure Document where
  root : Node
  anchors : Anchors
  size : Nat

structure Scope where
  tokens : List Token
  /-- The beginnings of tags that handles stand for. -/
  handles : List (List Char × List UInt8) := []
  anchors : Anchors := {}
  size : Nat := 0

abbrev Compose := StateT Scope Option

namespace Compose

def peek : Compose (Option Token) := do
  return (← get).tokens.head?

def advance : Compose Unit :=
  modify fun s => { s with tokens := s.tokens.tail }

def sees (ts : List Token) : Compose Bool := do
  return (← peek).any (· ∈ ts)

def took (t : Token) : Compose Bool := do
  if ← sees [t] then
    advance
    return true
  return false

def expect (t : Token) : Compose Unit := do
  if !(← took t) then failure

def count (n : Nat) : Compose Unit :=
  modify fun s => { s with size := s.size + n }

def empty : Compose Node := do
  count 1
  return .scalar none true ""

def tagOf (handle : List Char) (rest : List UInt8) : Compose Tag := do
  if handle = [] then return ⟨rest⟩
  match (← get).handles.lookup handle with
  | some stem => return ⟨stem ++ rest⟩
  | none => failure

def declare (name : List Char) : Compose Nat := do
  let s ← get
  set { s with anchors := s.anchors.declare name }
  return s.anchors.count

def properties : Compose (Option (List Char) × Option Tag) := do
  match ← peek with
  | some (.anchor name) =>
    advance
    match ← peek with
    | some (.tag handle rest) =>
      advance
      return (some name, some (← tagOf handle rest))
    | _ => return (some name, none)
  | some (.tag handle rest) =>
    advance
    match ← peek with
    | some (.anchor name) =>
      advance
      return (some name, some (← tagOf handle rest))
    | _ => return (none, some (← tagOf handle rest))
  | _ => return (none, none)

-- Each function reads the entries of one kind of collection, the last one first in the answer, and
-- takes at most `fuel` steps. `node` reads a node inside it.
section Collections

variable (node : Compose Node)

def nodeBefore (ends : List Token) : Compose Node := do
  if ← sees ends then empty else node

def blockItems : Nat → List Node → Compose (List Node)
  | 0, _ => failure
  | fuel + 1, items => do
    if ← took .blockEnd then return items
    expect .blockEntry
    let item ← nodeBefore node [.blockEntry, .blockEnd]
    blockItems fuel (item :: items)

/-- The items of a sequence that is not indented more than the key it belongs to. -/
def flushItems : Nat → List Node → Compose (List Node)
  | 0, _ => failure
  | fuel + 1, items => do
    if !(← took .blockEntry) then return items
    let item ← nodeBefore node [.blockEntry, .key, .value, .blockEnd]
    flushItems fuel (item :: items)

def blockEntries : Nat → List (Node × Node) → Compose (List (Node × Node))
  | 0, _ => failure
  | fuel + 1, entries => do
    if ← took .blockEnd then return entries
    expect .key
    let key ← nodeBefore node [.key, .value, .blockEnd]
    let value ← if ← took .value then nodeBefore node [.key, .value, .blockEnd] else empty
    blockEntries fuel ((key, value) :: entries)

/-- A mapping of one entry as an item of a flow sequence, after its key mark. If no key follows,
the token that stands in its place is passed over. -/
def singlePair : Compose Node := do
  count 2
  let key ←
    if ← sees [.value, .flowEntry, .flowSequenceEnd] then do
      advance
      empty
    else node
  let value ← if ← took .value then nodeBefore node [.flowEntry, .flowSequenceEnd] else empty
  return .mapping none [(key, value)]

def flowItems : Nat → Bool → List Node → Compose (List Node)
  | 0, _, _ => failure
  | fuel + 1, first, items => do
    if ← took .flowSequenceEnd then return items
    if !first then
      expect .flowEntry
    if ← took .flowSequenceEnd then return items
    let item ← if ← took .key then singlePair node else node
    flowItems fuel false (item :: items)

def flowEntries : Nat → Bool → List (Node × Node) → Compose (List (Node × Node))
  | 0, _, _ => failure
  | fuel + 1, first, entries => do
    if ← took .flowMappingEnd then return entries
    if !first then
      expect .flowEntry
    if ← took .flowMappingEnd then return entries
    let ends := [Token.flowEntry, .flowMappingEnd]
    if ← took .key then
      let key ← nodeBefore node (.value :: ends)
      let value ← if ← took .value then nodeBefore node ends else empty
      flowEntries fuel false ((key, value) :: entries)
    else
      let key ← node
      let value ← empty
      flowEntries fuel false ((key, value) :: entries)

end Collections

inductive Style where
  /-- Nothing in block style. -/
  | flow
  | block
  /-- Also a sequence that is not indented. -/
  | flush
deriving DecidableEq

/-- The content of a node with the tag `tag`. `fuel` bounds the number of entries of a collection,
and `node` reads a node inside one. -/
def content (fuel : Nat) (node : Style → Compose Node) (style : Style) (bare : Bool)
    (tag : Option Tag) : Compose Node := do
  let inBlock := style ≠ .flow
  match ← peek with
  | some (.scalar plain text) =>
    advance
    count 1
    return .scalar tag plain (.ofList text)
  | some .flowSequence =>
    advance
    count 2
    return .sequence tag (← flowItems (node .flow) fuel true []).reverse
  | some .flowMapping =>
    advance
    count 2
    return .mapping tag (← flowEntries (node .flow) fuel true []).reverse
  | some .blockEntry =>
    if style = .flush then
      count 2
      return .sequence tag (← flushItems (node .block) fuel []).reverse
    else absent
  | some .blockSequence =>
    if inBlock then
      advance
      count 2
      return .sequence tag (← blockItems (node .block) fuel []).reverse
    else absent
  | some .blockMapping =>
    if inBlock then
      advance
      count 2
      return .mapping tag (← blockEntries (node .flush) fuel []).reverse
    else absent
  | _ => absent
where
  /-- A node without content needs an anchor or a tag. -/
  absent : Compose Node := do
    if bare then failure
    count 1
    return .scalar tag true ""

def nodeWith (fuel : Nat) (node : Style → Compose Node) (style : Style) : Compose Node := do
  match ← peek with
  | some (.alias name) =>
    match (← get).anchors.slot? name with
    | some slot =>
      advance
      count 1
      return .alias slot
    | none => failure
  | _ =>
    let (anchor, tag) ← properties
    let number ← anchor.mapM declare
    let n ← content fuel node style (anchor.isNone ∧ tag.isNone) tag
    match number with
    | some number => modify fun s => { s with anchors := s.anchors.add number n }
    | none => pure ()
    return n

/-- A node whose collections are nested at most `depth` deep. -/
def node (fuel : Nat) : Nat → Style → Compose Node
  | 0 => fun _ => failure
  | depth + 1 => nodeWith fuel (node fuel depth)

def standardHandles : List (List Char × List UInt8) :=
  [(['!'], Tag.encoded ['!']), (['!', '!'], Tag.encoded Tag.standardStem.toList)]

/-- The directives in front of a document, at most `fuel` of them. The version may be given once,
and a handle may be declared once. -/
def directives : Nat → Bool → Compose Unit
  | 0, _ => failure
  | fuel + 1, versioned => do
    match ← peek with
    | some (.version major minor) =>
      if versioned || major ≠ 1 || (minor ≠ 1 && minor ≠ 2) then failure
      advance
      directives fuel true
    | some (.handle name stem) =>
      let s ← get
      if (s.handles.lookup name).isSome then failure
      set { s with tokens := s.tokens.tail, handles := s.handles ++ [(name, stem)] }
      directives fuel versioned
    | _ => modify fun s => { s with handles := s.handles ++ standardHandles }

def isDirective : Token → Bool
  | .version _ _ => true
  | .handle _ _ => true
  | _ => false

def atDocumentEnd : Compose Bool := do
  return (← peek).all fun t => isDirective t || t = .documentStart || t = .documentEnd

def maxNesting : Nat := 128

/-- The document that a text consists of. Directives need a start mark behind them; any number of
end marks may follow. -/
def document (fuel : Nat) : Compose Document := do
  let root ←
    if (← peek).isNone then empty
    else if (← peek).any fun t => isDirective t || t = .documentStart then do
      directives fuel false
      expect .documentStart
      if ← atDocumentEnd then empty else node fuel (maxNesting + 1) .block
    else do
      directives fuel false
      node fuel (maxNesting + 1) .block
  let s ← get
  if s.tokens.all (· = .documentEnd) then return ⟨root, s.anchors, s.size⟩
  failure

end Compose

def document? (text : String) : Option Document := do
  let tokens ← tokens? text
  let (d, _) ← (Compose.document (tokens.length + 1)).run { tokens }
  pure d

end Figment.Yaml
