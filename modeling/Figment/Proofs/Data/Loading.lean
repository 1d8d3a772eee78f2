import Figment.Proofs.Data.Conversion
/-!
The leaves of a document are found in the data made of it.

Names are lowercased one by one when a document is loaded, so that of siblings spelled alike the last
one counts and takes the place of those before it. Every other leaf is found behind the names that
lead to it, with the values it has in the document.
-/

namespace Figment

namespace Tree

open Yaml (Value)

/-- The values of a leaf, whatever tags it has. -/
def leafValues? : Value → Option (List String)
  | .sequence items => items.mapM scalarText?
  | .tagged _ v => leafValues? v
  | v => (scalarText? v).map fun text => [text]

/-- Whether a key is the name when both are lowercased. -/
def spelledLike (name : String) (k : Value) : Bool :=
  (scalarText? k).any fun other => Unicode.lower other == Unicode.lower name

/-- The value of a name, unless a later entry is spelled like it. -/
def lastAt? (name : String) : List (Value × Value) → Option Value
  | [] => none
  | (k, v) :: rest =>
    if rest.any fun e => spelledLike name e.1 then lastAt? name rest
    else if scalarText? k = some name then some v
    else none

/-- The values of the leaf that names lead to. -/
def leafAt? (v : Value) : List String → Option (List String)
  | [] => leafValues? v
  | name :: names => ((entries? v).bind (lastAt? name)).bind (leafAt? · names)

theorem spelledLike_iff {name : String} {k : Value} :
    spelledLike name k = true ↔ nameOf? k = some (Unicode.lower name) := by
  rw [spelledLike, nameOf?]
  cases scalarText? k with
  | none => simp
  | some other => simp

/-- The entry at a name is the last one with its lowercased name. -/
theorem lastNamed_of_lastAt? {name : String} {entries : List (Value × Value)} {v : Value}
    (h : lastAt? name entries = some v) : LastNamed (Unicode.lower name) entries v := by
  induction entries with
  | nil => cases h
  | cons e rest ih =>
    obtain ⟨k, u⟩ := e
    rw [lastAt?] at h
    refine lastNamed_cons_iff.2 ?_
    cases later : rest.any fun e => spelledLike name e.1 with
    | true =>
      rw [later] at h
      exact .inl (ih h)
    | false =>
      rw [later] at h
      obtain ⟨named, value⟩ := Option.ite_none_right_eq_some.1 h
      refine .inr ⟨fun e mem called => ?_, congrArg (Option.map Unicode.lower) named,
        (Option.some.inj value).symm⟩
      exact List.any_eq_false.1 later e mem (spelledLike_iff.2 called)

theorem lastAt?_unique {name name' : String} {entries : List (Value × Value)} {v v' : Value}
    (h : lastAt? name entries = some v) (h' : lastAt? name' entries = some v')
    (same : Unicode.lower name = Unicode.lower name') : name = name' ∧ v = v' := by
  induction entries with
  | nil => cases h
  | cons e rest ih =>
    have like : spelledLike name = spelledLike name' := by
      funext k
      rw [spelledLike, same, spelledLike]
    rw [lastAt?] at h h'
    rw [← like] at h'
    cases later : rest.any fun e => spelledLike name e.1 with
    | true =>
      rw [later] at h h'
      exact ih h h'
    | false =>
      rw [later] at h h'
      obtain ⟨named, value⟩ := Option.ite_none_right_eq_some.1 h
      obtain ⟨named', value'⟩ := Option.ite_none_right_eq_some.1 h'
      cases named.symm.trans named'
      cases value
      cases value'
      exact ⟨rfl, rfl⟩

/-- Leaves whose names are spelled alike are one leaf. -/
theorem leafAt?_unique {v : Value} {names names' values values' : List String}
    (h : leafAt? v names = some values) (h' : leafAt? v names' = some values')
    (same : names.map Unicode.lower = names'.map Unicode.lower) :
    names = names' ∧ values = values' := by
  induction names generalizing v names' with
  | nil =>
    cases names' with
    | nil =>
      cases h.symm.trans h'
      exact ⟨rfl, rfl⟩
    | cons name' names' => cases same
  | cons name names ih =>
    cases names' with
    | nil => cases same
    | cons name' names' =>
      obtain ⟨here, later⟩ := List.cons.inj same
      obtain ⟨u, found, below⟩ := Option.bind_eq_some_iff.1 h
      obtain ⟨u', found', below'⟩ := Option.bind_eq_some_iff.1 h'
      obtain ⟨entries, mapping, last⟩ := Option.bind_eq_some_iff.1 found
      obtain ⟨entries', mapping', last'⟩ := Option.bind_eq_some_iff.1 found'
      cases mapping.symm.trans mapping'
      obtain ⟨rfl, rfl⟩ := lastAt?_unique last last' here
      obtain ⟨rfl, rfl⟩ := ih below below' later
      exact ⟨rfl, rfl⟩

theorem values?_of_leafValues? {key : String} : (v : Value) → {values : List String} → {t : Tree} →
    leafValues? v = some values → ofValue key v = .ok t → t.values? = some values
  | .sequence items, _, _, leaf, h => by
    rw [leafValues?] at leaf
    rw [ofValue, leaf] at h
    split at h
    · cases h
    · cases h
      rfl
  | .tagged _ v, _, _, leaf, h => by
    rw [ofValue] at h
    exact values?_of_leafValues? v leaf h
  | .mapping _, _, _, leaf, _ | .null, _, _, leaf, _ => by cases leaf
  | .text _, _, _, leaf, h | .int _, _, _, leaf, h | .float _, _, _, leaf, h
  | .bool _, _, _, leaf, h => by
    cases leaf
    cases h
    rfl

theorem ofEntries_of_entries? {key : String} : (v : Value) → {inner : List (Value × Value)} →
    {t : Tree} → entries? v = some inner → ofValue key v = .ok t →
    ∃ es, ofEntries key [] inner = .ok es ∧ t = table es
  | .mapping _, _, _, mapping, h => by
    cases mapping
    exact ofValue_mapping_eq_ok.1 h
  | .tagged _ v, _, _, mapping, h => by
    rw [ofValue] at h
    exact ofEntries_of_entries? v mapping h
  | .sequence _, _, _, mapping, _ | .null, _, _, mapping, _ | .text _, _, _, mapping, _
  | .int _, _, _, mapping, _ | .float _, _, _, mapping, _ | .bool _, _, _, mapping, _ => by
    cases mapping

theorem leaf?_of_leafAt? {key : String} {v : Value} {t : Tree} {names values : List String}
    (leaf : leafAt? v names = some values) (h : ofValue key v = .ok t) :
    t.leaf? (names.map Unicode.lower) = some values := by
  induction names generalizing key v t with
  | nil => exact values?_of_leafValues? v leaf h
  | cons name names ih =>
    obtain ⟨u, found, below⟩ := Option.bind_eq_some_iff.1 leaf
    obtain ⟨entries, mapping, last⟩ := Option.bind_eq_some_iff.1 found
    obtain ⟨es, inside, rfl⟩ := ofEntries_of_entries? v mapping h
    obtain ⟨t, inner, here⟩ := find?_ofEntries_of_lastNamed (lastNamed_of_lastAt? last) inside
    rw [List.map_cons, leaf?_table_cons, here]
    exact ih below inner

theorem lower_intercalate_lower (names : List String) :
    Unicode.lower (".".intercalate (names.map Unicode.lower)) =
      ".".intercalate (names.map Unicode.lower) := by
  apply Unicode.lower_eq_self_iff.2
  induction names with
  | nil => simp
  | cons name rest ih =>
    have fixed := Unicode.lower_eq_self_iff.1 (Unicode.lower_lower name)
    cases rest with
    | nil => simpa using fixed
    | cons next rest =>
      intro c mem
      rw [List.map_cons, List.map_cons, String.intercalate_cons_cons, String.toList_append,
        String.toList_append, List.mem_append, List.mem_append] at mem
      rcases mem with (here | point) | later
      · exact fixed c here
      · rw [List.mem_singleton.1 point]
        exact Unicode.lowerChar_point
      · exact ih c later

end Tree

namespace Store

/-- A store whose data is one document, for the locale that every chain ends with. -/
def ofRoot (t : Tree) : Store :=
  empty.merge Chain.rootLocale t

theorem lookup_ofRoot (t : Tree) {chain : Chain} (h : Chain.rootLocale ∈ chain.locales)
    (key : String) : (ofRoot t).lookup chain key = t.leaf? (Tree.pathOf (Unicode.lower key)) := by
  have each (L : String) (path : List String) : ((ofRoot t).tree? L).bind (·.leaf? path) =
      if L = Chain.rootLocale then t.leaf? path else none := by
    by_cases same : L = Chain.rootLocale
    · rw [same, if_pos rfl, ofRoot, tree?_merge_self]
      rfl
    · rw [if_neg same, ofRoot, tree?_merge_of_ne empty t same]
      rfl
  obtain ⟨locales⟩ := chain
  simp only [lookup, each]
  cases t.leaf? (Tree.pathOf (Unicode.lower key)) with
  | none => simp
  | some values =>
    dsimp only at h
    induction locales with
    | nil => cases h
    | cons L rest ih =>
      by_cases same : L = Chain.rootLocale
      · rw [List.findSome?_cons, if_pos same]
      · rw [List.findSome?_cons, if_neg same]
        exact ih ((List.mem_cons.1 h).resolve_left (Ne.symm same))

end Store

namespace Tree

open Yaml (Value)

/-- A leaf whose names hold no point is found at the key made of its lowercased names, and at every
key that is lowercased to it. -/
theorem lookup_loaded_leaf {origin text : String} {t : Tree} (h : ofYaml origin text = .ok t) :
    ∃ v, Value.ofText? text = some v ∧
      (∀ names values, leafAt? (.mapping (rootEntries v)) names = some values →
        (∀ name ∈ names, '.' ∉ name.toList) →
        (Store.ofRoot t).lookup Chain.root (".".intercalate (names.map Unicode.lower)) =
          some values ∧
        (Unicode.lower (".".intercalate names) = ".".intercalate (names.map Unicode.lower) →
          (Store.ofRoot t).lookup Chain.root (".".intercalate names) = some values)) ∧
      ∀ names names' values values', leafAt? (.mapping (rootEntries v)) names = some values →
        leafAt? (.mapping (rootEntries v)) names' = some values' →
        names.map Unicode.lower = names'.map Unicode.lower → names = names' ∧ values = values' := by
  obtain ⟨v, read, accepted⟩ := ofYaml_eq_ok.1 h
  refine ⟨v, read, fun names values leaf undotted => ?_, fun _ _ _ _ => leafAt?_unique⟩
  have nonempty : names ≠ [] := by
    rintro rfl
    cases leaf
  have path : pathOf (".".intercalate (names.map Unicode.lower)) = names.map Unicode.lower := by
    refine pathOf_intercalate (by simpa using nonempty) fun part mem => ?_
    obtain ⟨name, named, rfl⟩ := List.mem_map.1 mem
    rw [Unicode.point_mem_lower_iff]
    exact undotted name named
  have last : Chain.rootLocale ∈ Chain.root.locales := List.mem_cons_self
  have found : t.leaf? (names.map Unicode.lower) = some values :=
    leaf?_of_leafAt? leaf (ofValue_mapping_eq_ok.2 (ofEntries_of_ofDocument accepted))
  refine ⟨?_, fun spelled => ?_⟩
  · rw [Store.lookup_ofRoot t last, lower_intercalate_lower, path, found]
  · rw [Store.lookup_ofRoot t last, spelled, path, found]

/-- A document in the layout of one locale, with a tag and a sibling that is overwritten. -/
def sportDocument : String :=
  "en:\n  faker:\n    Sport:\n      ball: x\n      Ball: !own [football, 7]\n"

theorem lookup_loaded_leaf_ball :
    ∃ t, ofYaml "<string>" sportDocument = .ok t ∧
      (Store.ofRoot t).lookup Chain.root "Sport.Ball" = some ["football", "7"] := by
  have leaf : ((Value.ofText? sportDocument).bind fun v =>
      leafAt? (.mapping (rootEntries v)) ["Sport", "Ball"]) = some ["football", "7"] := by
    decide +kernel
  have accepted : (ofYaml "<string>" sportDocument).toOption.isSome := by
    decide +kernel
  cases h : ofYaml "<string>" sportDocument with
  | error e =>
    rw [h] at accepted
    cases accepted
  | ok t =>
    obtain ⟨v, read, found, _⟩ := lookup_loaded_leaf h
    rw [read] at leaf
    exact ⟨t, rfl, (found ["Sport", "Ball"] _ leaf (by decide)).2 (by decide +kernel)⟩

/-- A leaf that a sibling overwrites, one whose name holds a point, and one whose name ends in a
capital sigma. -/
theorem loaded_leaf_overwritten :
    let leaves (text : String) := (Value.ofText? text).map fun v =>
      (rootEntries v).map fun e => (scalarText? e.1, leafValues? e.2)
    let found (text key : String) := (ofYaml "<string>" text).toOption.map fun t =>
      (Store.ofRoot t).lookup Chain.root key
    leaves "a: [x]\nA: [y]\n" = some [(some "a", some ["x"]), (some "A", some ["y"])] ∧
      found "a: [x]\nA: [y]\n" "a" = some (some ["y"]) ∧
      leaves "a.b: [x]\n" = some [(some "a.b", some ["x"])] ∧
      found "a.b: [x]\n" "a.b" = some none ∧
      found "ΑΣ:\n  x: [y]\n" "ΑΣ.x" = some none ∧
      found "ΑΣ:\n  x: [y]\n" "ας.x" = some (some ["y"]) := by
  decide +kernel

end Tree

end Figment
