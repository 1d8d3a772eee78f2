import Figment.Data.Tree
import Figment.Failure
import Figment.Unicode.Lowering
import Figment.Yaml.Value
/-!
Data sources: YAML documents as trees of data.

A source is a mapping of names to values, to lists of values, or to further mappings. Names are
lowercased, and of names that become equal the last one counts. The layout with a locale and the
word `faker` around the data is accepted too.
-/

namespace Figment

/-- Why a document does not describe data. The places are keys. -/
inductive SourceFault where
  | notMapping
  | nonScalarKey (above : String)
  | emptyList (key : String)
  | nestedList (key : String)
  | missing (key : String)
deriving DecidableEq, Repr

def shownKey (key : String) : String :=
  if key = "" then "<root>" else key

def SourceFault.text : SourceFault → String
  | notMapping => "top level of a data source must be a mapping"
  | nonScalarKey above => s!"non-scalar key under '{shownKey above}'"
  | emptyList key => s!"empty list at '{key}'"
  | nestedList key => s!"lists may only hold scalar values at '{key}'"
  | missing key => s!"missing value at '{key}'"

namespace Tree

open Yaml (Value)

def scalarText? : Value → Option String
  | .text s => some s
  | .int i => some (toString i)
  | .float x => some x.pretty
  | .bool b => some (if b then "true" else "false")
  | _ => none

mutual

/-- The tree that a value at a key describes. Tags are ignored. -/
def ofValue (key : String) : Value → Except SourceFault Tree
  | .mapping entries => (ofEntries key [] entries).map .table
  | .sequence items =>
    if items.isEmpty then .error (.emptyList key)
    else
      match items.mapM scalarText? with
      | some texts => .ok (.list texts)
      | none => .error (.nestedList key)
  | .tagged _ v => ofValue key v
  | .null => .error (.missing key)
  | .text s => .ok (.text s)
  | .int i => .ok (.text (toString i))
  | .float x => .ok (.text x.pretty)
  | .bool b => .ok (.text (if b then "true" else "false"))

/-- The table `done` with the entries of a mapping at a key added to it. -/
def ofEntries (above : String) (done : List (String × Tree)) :
    List (Value × Value) → Except SourceFault (List (String × Tree))
  | [] => .ok done
  | (k, v) :: rest =>
    match scalarText? k with
    | none => .error (.nonScalarKey above)
    | some name =>
      let name := Unicode.lower name
      match ofValue (joinKey above name) v with
      | .error fault => .error fault
      | .ok t => ofEntries above (Keyed.put name t done) rest

end

theorem ofValue_mapping_eq_ok {key : String} {entries : List (Value × Value)} {t : Tree} :
    ofValue key (.mapping entries) = .ok t ↔ ∃ es, ofEntries key [] entries = .ok es ∧ t = table es := by
  rw [ofValue]
  cases ofEntries key [] entries with
  | error fault => simp [Except.map]
  | ok es => simp [Except.map, eq_comm]

theorem ofEntries_cons_eq_ok {above : String} {done es : List (String × Tree)} {k v : Value}
    {rest : List (Value × Value)} :
    ofEntries above done ((k, v) :: rest) = .ok es ↔
      ∃ name t, scalarText? k = some name ∧ ofValue (joinKey above (Unicode.lower name)) v = .ok t ∧
        ofEntries above (Keyed.put (Unicode.lower name) t done) rest = .ok es := by
  rw [ofEntries]
  cases scalarText? k with
  | none => simp
  | some name =>
    dsimp only
    cases inner : ofValue (joinKey above (Unicode.lower name)) v with
    | error fault => simp [inner]
    | ok t => simp [inner]

def entries? : Value → Option (List (Value × Value))
  | .mapping entries => some entries
  | .tagged _ v => entries? v
  | _ => none

def valueAt? (name : String) : List (Value × Value) → Option Value
  | [] => none
  | (.text s, v) :: rest => if s = name then some v else valueAt? name rest
  | _ :: rest => valueAt? name rest

/-- The mapping inside the layout of one locale that holds nothing but `faker`; any other mapping is
taken as it is. -/
def unwrapped (entries : List (Value × Value)) : List (Value × Value) :=
  let inner := match entries with
    | [(_, v)] =>
      match entries? v with
      | some [e] => (valueAt? "faker" [e]).bind entries?
      | _ => none
    | _ => none
  inner.getD entries

/-- The tree that a whole document describes. A document without a value describes no data. -/
def ofDocument : Value → Except SourceFault Tree
  | .mapping entries => (ofEntries "" [] (unwrapped entries)).map .table
  | .null => .ok (.table [])
  | _ => .error .notMapping

def ofYaml (origin text : String) : Except LoadFailure Tree :=
  match Value.ofText? text with
  | none => .error (.notYaml origin)
  | some v => (ofDocument v).mapError fun fault => .unsuitable origin fault.text

end Tree

end Figment
