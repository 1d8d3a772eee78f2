import Figment.Proofs.Data.Keys
import Mathlib.Data.List.Sort
/-!
Which documents describe data, and what data they describe.

A document is fine if all its entries are: a key is a scalar without a tag, and a value is a mapping, a
list of scalars that holds something, or a scalar. Its tree has the nesting of its mappings, where of
entries with one name the last one counts.
-/

namespace Figment

/-- A map is given by what is found in it. -/
theorem Keyed.Ordered.ext {α : Type} {m m' : List (String × α)} (h : Ordered m) (h' : Ordered m')
    (same : ∀ key, find? key m = find? key m') : m = m' := by
  have : Std.Irrefl fun e f : String × α => e.1 < f.1 := ⟨fun e => String.lt_irrefl e.1⟩
  refine (List.pairwise_map.1 h).eq_of_mem_iff (List.pairwise_map.1 h') fun e => ?_
  rw [← h.find?_eq_some_iff, ← h'.find?_eq_some_iff, same]

namespace Tree

open Yaml (Value)

/-- A text, a number or a boolean, without a tag. -/
def IsScalar : Value → Prop
  | .text _ | .int _ | .float _ | .bool _ => True
  | _ => False

/-- What may stand behind a key, whatever tags it has; the entries of a mapping are judged one by one. -/
inductive Suits : Value → Prop
  | scalar {v} : IsScalar v → Suits v
  | list {items} : items ≠ [] → (∀ item ∈ items, IsScalar item) → Suits (.sequence items)
  | mapping {entries} : Suits (.mapping entries)
  | tagged {tag v} : Suits v → Suits (.tagged tag v)

/-- What makes a value unfit in itself. -/
inductive Spoils : Value → (String → SourceFault) → Prop
  | missing : Spoils .null .missing
  | emptyList : Spoils (.sequence []) .emptyList
  | nestedList {items item} : item ∈ items → ¬ IsScalar item → Spoils (.sequence items) .nestedList
  | tagged {tag v kind} : Spoils v kind → Spoils (.tagged tag v) kind

/-- An entry of a mapping, and the names of the entries in which the mapping stands. -/
structure Entry where
  above : List String
  key : Value
  value : Value

/-- The name that a key gives to its value. -/
def nameOf? (key : Value) : Option String :=
  (scalarText? key).map Unicode.lower

mutual

/-- The entries in a value behind some names, as they stand in the document: first an entry, then those
in its value, then those after it. -/
def entriesIn (above : List String) : Value → List Entry
  | .mapping entries => entriesOf above entries
  | .tagged _ v => entriesIn above v
  | _ => []

def entriesOf (above : List String) : List (Value × Value) → List Entry
  | [] => []
  | (k, v) :: rest =>
    ⟨above, k, v⟩ :: (entriesIn (above ++ (nameOf? k).toList) v ++ entriesOf above rest)

end

def Entry.Fine (e : Entry) : Prop :=
  IsScalar e.key ∧ Suits e.value

/-- What is wrong with an entry, and the names that lead to the place: to its mapping if it is the key,
to the value otherwise. -/
inductive Entry.Offends (e : Entry) : (String → SourceFault) → List String → Prop
  | key : ¬ IsScalar e.key → e.Offends .nonScalarKey e.above
  | value {name kind} : nameOf? e.key = some name → Spoils e.value kind →
    e.Offends kind (e.above ++ [name])

/-- The fault is that of the first entry which is not fine. A place is shown by the names that lead to
it with points between them, without empty names in front. -/
def FirstOffence (es : List Entry) (fault : SourceFault) : Prop :=
  ∃ before e after kind path, es = before ++ e :: after ∧ (∀ b ∈ before, b.Fine) ∧
    e.Offends kind path ∧ fault = kind (".".intercalate (path.dropWhile (· = "")))

/-- The entries are the layout of one locale around the data. -/
def Wraps (entries data : List (Value × Value)) : Prop :=
  ∃ locale v inner, entries = [(locale, v)] ∧ entries? v = some [(.text "faker", inner)] ∧
    entries? inner = some data

/-- The entries that are the data of a document. -/
inductive Holds : Value → List (Value × Value) → Prop
  | nothing : Holds .null []
  | wrapped {entries data} : Wraps entries data → Holds (.mapping entries) data
  | plain {entries} : (∀ data, ¬ Wraps entries data) → Holds (.mapping entries) entries

/-- The value is that of the last entry with the name. -/
def LastNamed (name : String) (entries : List (Value × Value)) (v : Value) : Prop :=
  ∃ before k after, entries = before ++ (k, v) :: after ∧ nameOf? k = some name ∧
    ∀ e ∈ after, nameOf? e.1 ≠ some name

/-- The tree that a value describes. -/
inductive Describes : Value → Tree → Prop
  | scalar {v value} : scalarText? v = some value → Describes v (text value)
  | list {items values} : items.mapM scalarText? = some values → Describes (.sequence items) (list values)
  | tagged {tag v t} : Describes v t → Describes (.tagged tag v) t
  | table {entries es} (ordered : Keyed.Ordered es)
    (named : ∀ name, (Keyed.find? name es).isSome ↔ ∃ v, LastNamed name entries v)
    (below : ∀ name v t, LastNamed name entries v → Keyed.find? name es = some t → Describes v t) :
    Describes (.mapping entries) (table es)

/-- No value describes two trees. -/
theorem Describes.unique {v : Value} {t t' : Tree} (h : Describes v t) (h' : Describes v t') :
    t = t' := by
  induction h generalizing t' with
  | scalar value =>
    cases h' with
    | scalar value' => rw [Option.some.inj (value.symm.trans value')]
    | list _ => cases value
    | tagged _ => cases value
    | table _ _ _ => cases value
  | list values =>
    cases h' with
    | scalar value => cases value
    | list values' => rw [Option.some.inj (values.symm.trans values')]
  | tagged _ ih =>
    cases h' with
    | scalar value => cases value
    | tagged inner => exact ih inner
  | @table entries es ordered named below ih =>
    cases h' with
    | scalar value => cases value
    | @table _ es' ordered' named' below' =>
      congr 1
      refine ordered.ext ordered' fun name => ?_
      have both : (Keyed.find? name es).isSome ↔ (Keyed.find? name es').isSome :=
        (named name).trans (named' name).symm
      cases found : Keyed.find? name es with
      | none =>
        rw [found] at both
        exact (Option.not_isSome_iff_eq_none.1 fun present => nomatch both.2 present).symm
      | some t =>
        rw [found] at both
        obtain ⟨t', found'⟩ := Option.isSome_iff_exists.1 (both.1 rfl)
        obtain ⟨v, last⟩ := (named name).1 (found ▸ rfl)
        rw [found', ih name v t last found (below' name v t' last found')]

theorem isScalar_iff {v : Value} : IsScalar v ↔ ∃ value, scalarText? v = some value := by
  cases v <;> simp [IsScalar, scalarText?]

theorem not_isScalar_iff {v : Value} : ¬ IsScalar v ↔ scalarText? v = none := by
  rw [isScalar_iff, ← Option.isSome_iff_exists, Option.not_isSome_iff_eq_none]

theorem mapM_scalarText?_isSome_iff {items : List Value} :
    (items.mapM scalarText?).isSome ↔ ∀ item ∈ items, IsScalar item := by
  induction items with
  | nil => simp
  | cons item items ih =>
    rw [List.mapM_cons, List.forall_mem_cons, ← ih, isScalar_iff]
    cases scalarText? item with
    | none => simp
    | some value =>
      cases items.mapM scalarText? with
      | none => simp
      | some values => simp

theorem Suits.not_spoils {v : Value} (h : Suits v) {kind : String → SourceFault} : ¬ Spoils v kind := by
  intro spoils
  induction spoils with
  | missing =>
    cases h with
    | scalar value => exact value
  | emptyList =>
    cases h with
    | scalar value => exact value
    | list ne _ => exact ne rfl
  | nestedList mem other =>
    cases h with
    | scalar value => exact value
    | list _ all => exact other (all _ mem)
  | tagged _ ih =>
    cases h with
    | scalar value => exact value
    | tagged inner => exact ih inner

theorem keyFrom_concat (path : List String) (name : String) :
    keyFrom "" (path ++ [name]) = joinKey (keyFrom "" path) name := by
  rw [keyFrom, List.foldl_append]
  rfl

/-- A key leaves out the empty names in front. -/
theorem keyFrom_eq_dropWhile (path : List String) :
    keyFrom "" path = ".".intercalate (path.dropWhile (· = "")) := by
  induction path with
  | nil => rfl
  | cons name path ih =>
    by_cases empty : name = ""
    · rw [List.dropWhile_cons_of_pos (by simpa using empty), ← ih, empty]
      rfl
    · rw [List.dropWhile_cons_of_neg (by simpa using empty)]
      exact keyFrom_root fun first => empty (Option.some.inj first)

theorem valueAt?_single {name : String} {e : Value × Value} {v : Value} :
    valueAt? name [e] = some v ↔ e = (.text name, v) := by
  obtain ⟨k, u⟩ := e
  cases k <;> simp [valueAt?]

theorem unwrapped_of_wraps {entries data : List (Value × Value)} (h : Wraps entries data) :
    unwrapped entries = data := by
  obtain ⟨locale, v, inner, rfl, outer, within⟩ := h
  simp [unwrapped, outer, valueAt?, within]

theorem unwrapped_of_not_wraps {entries : List (Value × Value)} (h : ∀ data, ¬ Wraps entries data) :
    unwrapped entries = entries := by
  unfold unwrapped
  split
  · next locale v =>
    split
    · next e outer =>
      cases inner : (valueAt? "faker" [e]).bind entries? with
      | none => rfl
      | some data =>
        obtain ⟨w, named, within⟩ := Option.bind_eq_some_iff.1 inner
        rw [valueAt?_single] at named
        exact absurd ⟨locale, v, w, rfl, named ▸ outer, within⟩ (h data)
    · rfl
  · rfl

theorem holds_mapping_iff {entries data : List (Value × Value)} :
    Holds (.mapping entries) data ↔ unwrapped entries = data := by
  constructor
  · rintro (_ | wraps | plain)
    · exact unwrapped_of_wraps wraps
    · exact unwrapped_of_not_wraps plain
  · rintro rfl
    by_cases wraps : ∃ data, Wraps entries data
    · obtain ⟨data, wraps⟩ := wraps
      rw [unwrapped_of_wraps wraps]
      exact .wrapped wraps
    · rw [not_exists] at wraps
      rw [unwrapped_of_not_wraps wraps]
      exact .plain wraps

end Tree

end Figment
