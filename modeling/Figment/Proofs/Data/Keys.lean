import Figment.Proofs.Data.Merging
import Mathlib.Data.List.Nodup
import Mathlib.Data.List.TakeWhile
/-!
Keys and the paths they stand for.

A key is made of the names on the path to a leaf, and is divided at its points again. That gives back
the path if there is no point in the names. Only at the start an empty name leaves no trace in a key.
-/

namespace Figment.Tree

/-- The key of the names that lead on from the key `above`. -/
def keyFrom (above : String) (path : List String) : String :=
  path.foldl joinKey above

theorem keyFrom_cons (above name : String) (path : List String) :
    keyFrom above (name :: path) = keyFrom (joinKey above name) path := rfl

theorem joinKey_of_ne {above : String} (h : above ≠ "") (name : String) :
    joinKey above name = above ++ "." ++ name :=
  if_neg h

theorem keyFrom_eq_intercalate {above : String} (h : above ≠ "") (path : List String) :
    keyFrom above path = ".".intercalate (above :: path) := by
  induction path generalizing above with
  | nil => simp [keyFrom]
  | cons name path ih =>
    have longer : above ++ "." ++ name ≠ "" := by simp [h]
    rw [keyFrom_cons, joinKey_of_ne h, ih longer, String.intercalate_cons_cons]
    cases path with
    | nil => simp
    | cons next path =>
      rw [String.intercalate_cons_cons, String.intercalate_cons_cons]
      simp [String.append_assoc]

theorem keyFrom_root {path : List String} (h : path.head? ≠ some "") :
    keyFrom "" path = ".".intercalate path := by
  cases path with
  | nil => rfl
  | cons name path =>
    have ne : name ≠ "" := fun empty => h (congrArg some empty)
    exact keyFrom_eq_intercalate ne path

/-- Names without a point are found again in the key that is made of them. -/
theorem pathOf_intercalate {names : List String} (ne : names ≠ [])
    (h : ∀ name ∈ names, '.' ∉ name.toList) : pathOf (".".intercalate names) = names := by
  have parts : Delimited.split '.' (".".intercalate names).toList = names.map String.toList := by
    rw [String.toList_intercalate]
    refine Delimited.split_intercalate (by simpa using ne) fun part mem => ?_
    obtain ⟨name, named, rfl⟩ := List.mem_map.1 mem
    exact h name named
  rw [pathOf, parts, List.map_map]
  simp [Function.comp_def]

theorem intercalate_pathOf (key : String) : ".".intercalate (pathOf key) = key := by
  apply String.toList_inj.1
  rw [String.toList_intercalate, pathOf, List.map_map]
  simpa [Function.comp_def] using Delimited.intercalate_split '.' key.toList

theorem pathOf_injective : Function.Injective pathOf :=
  Function.LeftInverse.injective intercalate_pathOf

theorem pathOf_append {name : String} (h : '.' ∉ name.toList) (key : String) :
    pathOf (name ++ "." ++ key) = name :: pathOf key := by
  have parts : (name ++ "." ++ key).toList = name.toList ++ '.' :: key.toList := by simp
  rw [pathOf, parts, Delimited.split_append _ h, List.map_cons, String.ofList_toList, pathOf]

theorem point_not_mem_category (key : String) : '.' ∉ (category key).toList := by
  rw [category, String.toList_ofList]
  intro mem
  simpa using List.mem_takeWhile_imp mem

mutual

/-- The paths to the leaves of a tree, in the order of the tables, each with the values it leads to. -/
def leafPaths : Tree → List (List String × List String)
  | text value => [([], [value])]
  | list values => [([], values)]
  | table entries => leafPathsOf entries

def leafPathsOf : List (String × Tree) → List (List String × List String)
  | [] => []
  | (name, t) :: rest => t.leafPaths.map (.map (name :: ·) id) ++ leafPathsOf rest

end

theorem leafPathsOf_eq_flatMap (es : List (String × Tree)) :
    leafPathsOf es = es.flatMap fun e => e.2.leafPaths.map (.map (e.1 :: ·) id) := by
  induction es with
  | nil => rfl
  | cons e es ih => rw [leafPathsOf, List.flatMap_cons, ih]

mutual

theorem leavesFrom_eq (above : String) :
    (t : Tree) → t.leavesFrom above = t.leafPaths.map (.map (keyFrom above) id)
  | text _ => rfl
  | list _ => rfl
  | table entries => leavesOf_eq above entries

theorem leavesOf_eq (above : String) :
    (es : List (String × Tree)) → leavesOf above es = (leafPathsOf es).map (.map (keyFrom above) id)
  | [] => rfl
  | (name, t) :: rest => by
    rw [leavesOf, leavesFrom_eq, leavesOf_eq above rest, leafPathsOf, List.map_append, List.map_map]
    rfl

end

theorem leaves_eq (t : Tree) : t.leaves = t.leafPaths.map (.map (keyFrom "") id) :=
  leavesFrom_eq "" t

theorem leaf?_eq_some_iff_of_childless {t : Tree} (h : ∀ name, t.child? name = none)
    {path values : List String} : t.leaf? path = some values ↔ path = [] ∧ t.values? = some values := by
  cases path with
  | nil => simp [leaf?_nil]
  | cons name path => simp [leaf?_cons, h]

/-- The leaves that are listed are those to which paths lead. -/
theorem Sorted.mem_leafPaths_iff {t : Tree} (h : t.Sorted) {path values : List String} :
    (path, values) ∈ t.leafPaths ↔ t.leaf? path = some values := by
  induction t using induct generalizing path with
  | text value =>
    rw [leaf?_eq_some_iff_of_childless fun _ => rfl, leafPaths, List.mem_singleton, Prod.mk.injEq]
    simp [values?, eq_comm]
  | list texts =>
    rw [leaf?_eq_some_iff_of_childless fun _ => rfl, leafPaths, List.mem_singleton, Prod.mk.injEq]
    simp [values?, eq_comm]
  | table entries ih =>
    rw [leafPaths, leafPathsOf_eq_flatMap, List.mem_flatMap]
    constructor
    · rintro ⟨e, mem, listed⟩
      obtain ⟨⟨rest, texts⟩, below, pair⟩ := List.mem_map.1 listed
      cases pair
      have found := h.ordered.find?_eq_some_iff.2 mem
      rw [leaf?_table_cons, found]
      exact (ih e mem (h.find? found)).1 below
    · intro leaf
      cases path with
      | nil => cases leaf
      | cons name path =>
        rw [leaf?_table_cons] at leaf
        obtain ⟨t, found, below⟩ := Option.bind_eq_some_iff.1 leaf
        have mem := Keyed.mem_of_find? found
        have listed := (ih (name, t) mem (h.find? found)).2 below
        exact ⟨(name, t), mem, List.mem_map_of_mem listed⟩

/-- Every path to a leaf is listed once. -/
theorem Sorted.nodup_leafPaths {t : Tree} (h : t.Sorted) : (t.leafPaths.map (·.1)).Nodup := by
  induction t using induct with
  | text value => exact List.nodup_singleton []
  | list texts => exact List.nodup_singleton []
  | table entries ih =>
    rw [leafPaths, leafPathsOf_eq_flatMap, List.map_flatMap, List.nodup_flatMap]
    constructor
    · intro e mem
      have found := h.ordered.find?_eq_some_iff.2 mem
      have below := (ih e mem (h.find? found)).map (List.cons_injective (a := e.1))
      rw [List.map_map] at below ⊢
      exact below
    · -- Paths that begin with different names differ.
      refine (List.pairwise_map.1 h.ordered).imp fun {e f} lt => ?_
      intro path here there
      simp only [List.map_map, List.mem_map, Function.comp_apply] at here there
      obtain ⟨x, -, rfl⟩ := here
      obtain ⟨y, -, same⟩ := there
      exact String.lt_irrefl e.1 ((List.cons.inj same).1 ▸ lt)

theorem Sorted.mem_leaves_iff {t : Tree} (h : t.Sorted) {key : String} {values : List String} :
    (key, values) ∈ t.leaves ↔ ∃ path, t.leaf? path = some values ∧ keyFrom "" path = key := by
  simp only [leaves_eq, List.mem_map, Prod.exists, h.mem_leafPaths_iff, Prod.map_apply, id_eq,
    Prod.mk.injEq]
  constructor
  · rintro ⟨path, _, leaf, rfl, rfl⟩
    exact ⟨path, leaf, rfl⟩
  · rintro ⟨path, leaf, rfl⟩
    exact ⟨path, values, leaf, rfl, rfl⟩

/-- The tree with one leaf, to which the path leads. -/
def single (value : String) : List String → Tree
  | [] => text value
  | name :: path => table [(name, single value path)]

theorem leaf?_single (value : String) (path other : List String) :
    (single value path).leaf? other = if other = path then some [value] else none := by
  induction path generalizing other with
  | nil =>
    cases other with
    | nil => rfl
    | cons name other => rfl
  | cons name path ih =>
    cases other with
    | nil => rfl
    | cons first other =>
      rw [leaf?_cons, single, child?, Keyed.find?, Keyed.find?]
      by_cases same : name = first
      · rw [if_pos same, Option.bind_some, ih, same]
        simp
      · rw [if_neg same]
        simp [Ne.symm same]

mutual

/-- The names in all tables. -/
def names : Tree → List String
  | text _ => []
  | list _ => []
  | table entries => namesOf entries

def namesOf : List (String × Tree) → List String
  | [] => []
  | (name, t) :: rest => name :: (t.names ++ namesOf rest)

end

theorem mem_namesOf {es : List (String × Tree)} {name other : String} {t : Tree}
    (mem : (name, t) ∈ es) (h : other = name ∨ other ∈ t.names) : other ∈ namesOf es := by
  induction es with
  | nil => cases mem
  | cons e rest ih =>
    rw [namesOf, List.mem_cons, List.mem_append]
    rcases List.mem_cons.1 mem with rfl | later
    · exact h.imp_right .inl
    · exact .inr (.inr (ih later))

theorem exists_of_mem_namesOf {es : List (String × Tree)} {name : String} (h : name ∈ namesOf es) :
    ∃ e ∈ es, name = e.1 ∨ name ∈ e.2.names := by
  induction es with
  | nil => cases h
  | cons e rest ih =>
    rw [namesOf, List.mem_cons, List.mem_append] at h
    rcases h with here | below | later
    · exact ⟨e, List.mem_cons_self, .inl here⟩
    · exact ⟨e, List.mem_cons_self, .inr below⟩
    · obtain ⟨e', mem, named⟩ := ih later
      exact ⟨e', List.mem_cons_of_mem e mem, named⟩

theorem mem_names_of_leaf? {t : Tree} {path values : List String} (h : t.leaf? path = some values)
    {name : String} (mem : name ∈ path) : name ∈ t.names := by
  induction path generalizing t with
  | nil => cases mem
  | cons first path ih =>
    cases t with
    | text value => cases h
    | list texts => cases h
    | table entries =>
      rw [leaf?_table_cons] at h
      obtain ⟨u, found, below⟩ := Option.bind_eq_some_iff.1 h
      refine mem_namesOf (Keyed.mem_of_find? found) ?_
      exact (List.mem_cons.1 mem).imp_right (ih below)

theorem head?_ne_of_leaf? {t : Tree} (rooted : t.child? "" = none) {path values : List String}
    (h : t.leaf? path = some values) : path.head? ≠ some "" := by
  cases path with
  | nil => nofun
  | cons name path =>
    rintro empty
    cases empty
    rw [leaf?_cons, rooted] at h
    cases h

/-- A key whose path leads to a leaf is the key of that leaf, unless it begins with an empty name. -/
theorem mem_leaves_of_pathOf {t : Tree} (h : t.Sorted) {key : String} {values : List String}
    (leaf : t.leaf? (pathOf key) = some values) (first : (pathOf key).head? ≠ some "") :
    (key, values) ∈ t.leaves :=
  h.mem_leaves_iff.2 ⟨pathOf key, leaf, by rw [keyFrom_root first, intercalate_pathOf]⟩

section Plain

variable {t : Tree} (table : ∃ entries, t = .table entries)
  (undotted : ∀ name ∈ t.names, '.' ∉ name.toList) (rooted : t.child? "" = none)
include table undotted rooted

/-- Where no name holds a point and none at the root is empty, the key of a leaf stands for its path. -/
theorem pathOf_keyFrom {path values : List String} (leaf : t.leaf? path = some values) :
    pathOf (keyFrom "" path) = path := by
  have nonempty : path ≠ [] := by
    rintro rfl
    obtain ⟨entries, rfl⟩ := table
    cases leaf
  rw [keyFrom_root (head?_ne_of_leaf? rooted leaf), pathOf_intercalate nonempty]
  exact fun name mem => undotted name (mem_names_of_leaf? leaf mem)

theorem leaf?_pathOf_of_mem_leaves (h : t.Sorted) {key : String} {values : List String}
    (mem : (key, values) ∈ t.leaves) : t.leaf? (pathOf key) = some values := by
  obtain ⟨path, leaf, rfl⟩ := h.mem_leaves_iff.1 mem
  rw [pathOf_keyFrom table undotted rooted leaf]
  exact leaf

/-- Different leaves have different keys. -/
theorem nodup_leaves (h : t.Sorted) : (t.leaves.map (·.1)).Nodup := by
  have keys : t.leaves.map (·.1) = (t.leafPaths.map (·.1)).map (keyFrom "") := by
    rw [leaves_eq, List.map_map, List.map_map]
    rfl
  rw [keys]
  refine h.nodup_leafPaths.map_on fun path mem path' mem' same => ?_
  obtain ⟨⟨_, values⟩, listed, rfl⟩ := List.mem_map.1 mem
  obtain ⟨⟨_, values'⟩, listed', rfl⟩ := List.mem_map.1 mem'
  have leaf := h.mem_leafPaths_iff.1 listed
  have leaf' := h.mem_leafPaths_iff.1 listed'
  have paths := congrArg pathOf same
  rwa [pathOf_keyFrom table undotted rooted leaf, pathOf_keyFrom table undotted rooted leaf'] at paths

end Plain

end Figment.Tree
