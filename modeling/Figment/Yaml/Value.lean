import Figment.Decimal.Binary64
import Figment.Yaml.Node
/-!
The values of YAML documents.

A plain scalar without a tag means null, a boolean, a number or text, depending on what it looks
like; a quoted one is text. A tag of the document's own stays on its value if it has a name. An alias
means a copy of the value it points to. The keys of a mapping are pairwise different. `Value.ofText?`
refuses whatever is not exactly one document.
-/

namespace Figment.Yaml

inductive Value where
  | null
  | bool (b : Bool)
  | int (i : Int)
  | float (x : Binary64)
  | text (s : String)
  | sequence (items : List Value)
  | mapping (entries : List (Value × Value))
  /-- A value with a tag of the document's own, without the exclamation mark in front. -/
  | tagged (tag : String) (value : Value)
deriving Inhabited

/-- Numbers are equal if they are numerically equal, and a number that is none equals itself. -/
def sameNumber : Binary64 → Binary64 → Bool
  | .finite n m q, .finite n' m' q' =>
    if m = 0 then m' == 0 else n == n' && m == m' && q == q'
  | x, y => x == y

/-- The name of a tag without the exclamation mark it may begin with, unless it is nothing else. -/
def bareName (name : String) : List Char :=
  match name.toList with
  | '!' :: c :: rest => c :: rest
  | s => s

mutual

/-- Whether two values are the same key. The order of the entries of a mapping does not matter. -/
def Value.same : Value → Value → Bool
  | .null, .null => true
  | .bool b, .bool b' => b == b'
  | .int i, .int i' => i == i'
  | .float x, .float x' => sameNumber x x'
  | .text s, .text s' => s == s'
  | .sequence items, .sequence items' => sameItems items items'
  | .mapping entries, .mapping entries' =>
    entries.length == entries'.length && sameEntries entries entries'
  | .tagged tag v, .tagged tag' v' => bareName tag == bareName tag' && v.same v'
  | _, _ => false

def sameItems : List Value → List Value → Bool
  | [], [] => true
  | v :: rest, v' :: rest' => v.same v' && sameItems rest rest'
  | _, _ => false

def sameEntries : List (Value × Value) → List (Value × Value) → Bool
  | [], _ => true
  | (k, v) :: rest, entries' =>
    entries'.any (fun e => k.same e.1 && v.same e.2) && sameEntries rest entries'

end

inductive Whole where
  | value (i : Int)
  /-- A number that needs more than 64 bits, though not more than 128. -/
  | tooLarge
  | none

def isNull (s : String) : Bool :=
  s ∈ ["null", "Null", "NULL", "~"]

def boolean? (s : String) : Option Bool :=
  if s ∈ ["true", "True", "TRUE"] then some true
  else if s ∈ ["false", "False", "FALSE"] then some false
  else none

def dropPlus : List Char → List Char
  | '+' :: rest => rest
  | s => s

/-- Several digits of which the first is zero: a text, not a number. A sign does not count. -/
def hasLeadingZero (s : List Char) : Bool :=
  let digits := match s with
    | '-' :: rest => rest
    | s => dropPlus s
  match digits with
  | '0' :: c :: rest => (c :: rest).all (·.isDigit)
  | _ => false

def basedNumeral? : List Char → Option Nat
  | '0' :: 'x' :: rest => Decimal.numeral? 16 rest
  | '0' :: 'o' :: rest => Decimal.numeral? 8 rest
  | '0' :: 'b' :: rest => Decimal.numeral? 2 rest
  | _ => none

def wholeNumber (text : List Char) : Whole :=
  match text with
  | '-' :: rest => bounded true (magnitude? text rest) (Nat.pow 2 63) (Nat.pow 2 127)
  | _ =>
    let rest := dropPlus text
    bounded false (magnitude? text rest) (Nat.pow 2 64 - 1) (Nat.pow 2 128 - 1)
where
  magnitude? (text rest : List Char) : Option Nat :=
    match basedNumeral? rest with
    | some n => some n
    | none => if hasLeadingZero text then none else Decimal.numeral? 10 rest
  bounded (negative : Bool) (n : Option Nat) (limit hardLimit : Nat) : Whole :=
    match n with
    | none => .none
    | some n =>
      if n ≤ limit then .value (if negative then -(n : Int) else n)
      else if n ≤ hardLimit then .tooLarge
      else .none

/-- A finite number in decimal notation, or one of the names of infinity and of no number. -/
def floatNumber? (text : List Char) : Option Binary64 :=
  let s := String.ofList text
  let unsigned := String.ofList (dropPlus text)
  if unsigned ∈ [".inf", ".Inf", ".INF"] then some (.infinite false)
  else if s ∈ ["-.inf", "-.Inf", "-.INF"] then some (.infinite true)
  else if s ∈ [".nan", ".NaN", ".NAN"] then some .nan
  else
    match text with
    | '+' :: '+' :: _ => none
    | '+' :: '-' :: _ => none
    | _ =>
      match Binary64.ofText? (dropPlus text) with
      | some (.finite n m q) => some (.finite n m q)
      | _ => none

def plainValue? (s : String) : Option Value :=
  if s = "" ∨ isNull s then some .null
  else
    match boolean? s with
    | some b => some (.bool b)
    | none =>
      match wholeNumber s.toList with
      | .value i => some (.int i)
      | .tooLarge => none
      | .none =>
        if hasLeadingZero s.toList then some (.text s)
        else some (((floatNumber? s.toList).map .float).getD (.text s))

def untaggedValue? (plain : Bool) (s : String) : Option Value :=
  if plain then plainValue? s else some (.text s)

/-- A scalar whose tag demands a type has to be of it. A tag of the document's own demands nothing, and
any other tag makes the scalar a text. -/
def scalarValue? (tag : Option Tag) (plain : Bool) (s : String) : Option Value :=
  match tag with
  | none => untaggedValue? plain s
  | some tag =>
    if tag = .standard "bool" then (boolean? s).map .bool
    else if tag = .standard "int" then
      match wholeNumber s.toList with
      | .value i => some (.int i)
      | _ => none
    else if tag = .standard "float" then (floatNumber? s.toList).map .float
    else if tag = .standard "null" then (if isNull s then some .null else none)
    else if tag.isOwn then untaggedValue? plain s
    else some (.text s)

/-- The number of aliases followed so far. -/
abbrev Resolve := StateT Nat Option

namespace Resolve

def aliasesPerUnit : Nat := 100

def target (d : Document) (slot : Nat) : Resolve Node := do
  let followed := (← get) + 1
  if aliasesPerUnit * d.size < followed then failure
  set followed
  match d.anchors.node? slot with
  | some n => return n
  | none => failure

def entries (value : Node → Resolve Value) :
    List (Value × Value) → List (Node × Node) → Resolve (List (Value × Value))
  | done, [] => return done.reverse
  | done, (k, v) :: rest => do
    let key ← value k
    if done.any (·.1.same key) then failure
    let v ← value v
    entries value ((key, v) :: done) rest

/-- The value under a tag: one with a name stays on it, and does not count any further. -/
def underTag (tag : Option Tag) (v : Option Tag → Resolve Value) : Resolve Value :=
  match tag.bind (·.ownName?) with
  | none => v tag
  | some name => do return .tagged name (← v none)

/-- The value of a node that is no alias. Collections need `inner`, which gives the values of the nodes
inside. -/
def build (inner : Option (Node → Resolve Value)) : Node → Resolve Value
  | .alias _ => failure
  | .scalar tag plain s => underTag tag fun tag => StateT.lift (scalarValue? tag plain s)
  | .sequence tag items => underTag tag fun _ => do
    match inner with
    | none => failure
    | some value => return .sequence (← items.mapM value)
  | .mapping tag es => underTag tag fun _ => do
    match inner with
    | none => failure
    | some value => return .mapping (← entries value [] es)

def resolved (d : Document) : Node → Resolve Node
  | .alias slot => target d slot
  | n => return n

/-- The value of a node, in which collections are nested at most `depth` deep, those that aliases
bring in counted. -/
def value (d : Document) : Nat → Node → Resolve Value
  | 0, n => do build none (← resolved d n)
  | depth + 1, n => do build (some (value d depth)) (← resolved d n)

end Resolve

def Document.value? (d : Document) : Option Value :=
  ((Resolve.value d Compose.maxNesting d.root).run 0).map (·.1)

def Value.ofText? (text : String) : Option Value :=
  (document? text).bind (·.value?)

end Figment.Yaml
