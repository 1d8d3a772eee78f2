import Figment.Proofs.Data.Listing
import Figment.Proofs.Data.Loading
import Figment.Proofs.Span
/-!
Keys that are looked up in another spelling.

A look-up lowercases a key as a whole, while the names in the data have been lowercased one by one. A
point in a key ends no word, so that what becomes of a capital sigma can depend on the names beside its
own one. All else is lowercased alike, and where the sigmas are too, the data is found in any spelling of
its names.
-/

namespace Figment

namespace Unicode

/-- What becomes of a capital sigma in the name it stands in, the names in a key being divided by points. -/
def lowerSigmaOfName (before after : List Char) : Char :=
  lowerSigma (before.takeWhile (· ≠ '.')) (after.takeWhile (· ≠ '.'))

/-- A name in a key is lowercased as it is on its own. -/
theorem lowerWith_name_append {name rest : List Char} (before : List Char) (undotted : '.' ∉ name)
    (next : ∀ c ∈ rest.head?, c = '.') :
    lowerWith lowerSigmaOfName before (name ++ rest) =
      lowerAfter (before.takeWhile (· ≠ '.')) name ++
        lowerWith lowerSigmaOfName (name.reverse ++ before) rest := by
  induction name generalizing before with
  | nil => rfl
  | cons c name ih =>
    rw [List.mem_cons, not_or] at undotted
    have own : (c :: before).takeWhile (· ≠ '.') = c :: before.takeWhile (· ≠ '.') :=
      List.takeWhile_cons_of_pos (by simpa using Ne.symm undotted.1)
    have inside : (name ++ rest).takeWhile (· ≠ '.') = name := by
      apply takeWhile_append_stop
      · intro d mem
        simpa using fun point : d = '.' => undotted.2 (point ▸ mem)
      · intro d mem
        simpa using next d mem
    rw [List.cons_append, lowerWith, lowerAfter, lowerSigmaOfName, inside, ih (c :: before) undotted.2,
      own, List.reverse_cons, List.append_assoc, List.append_assoc]
    rfl

theorem head?_flatMap_point (names : List (List Char)) :
    ∀ c ∈ (names.flatMap ('.' :: ·)).head?, c = '.' := by
  cases names with
  | nil => simp
  | cons name names => simp [eq_comm]

theorem lowerWith_flatMap_point {names : List (List Char)} (before : List Char)
    (undotted : ∀ name ∈ names, '.' ∉ name) :
    lowerWith lowerSigmaOfName before (names.flatMap ('.' :: ·)) =
      (names.map (lowerAfter [])).flatMap ('.' :: ·) := by
  induction names generalizing before with
  | nil => rfl
  | cons name names ih =>
    obtain ⟨here, later⟩ := List.forall_mem_cons.1 undotted
    have point : ('.' :: before).takeWhile (· ≠ '.') = [] := rfl
    rw [List.flatMap_cons, List.cons_append, lowerWith, if_neg (by decide), lowerChar_point,
      lowerWith_name_append _ here (head?_flatMap_point names), point, ih _ later]
    rfl

/-- The names of a key in lower case make up the key in which each sigma has the form it has in its
name. -/
theorem toList_intercalate_lower {names : List String} (undotted : ∀ name ∈ names, '.' ∉ name.toList) :
    (".".intercalate (names.map lower)).toList =
      lowerWith lowerSigmaOfName [] (".".intercalate names).toList := by
  have points : ".".toList = ['.'] := rfl
  rw [String.toList_intercalate, String.toList_intercalate, points]
  cases names with
  | nil => rfl
  | cons name names =>
    obtain ⟨here, later⟩ := List.forall_mem_cons.1 undotted
    have others : ∀ part ∈ names.map String.toList, '.' ∉ part := by
      simpa using later
    have lowered : (names.map lower).map String.toList =
        (names.map String.toList).map (lowerAfter []) := by
      simp [lower, Function.comp_def]
    rw [List.map_cons, List.map_cons, List.map_cons, Delimited.intercalate_eq_append,
      Delimited.intercalate_eq_append, lowerWith_name_append [] here (head?_flatMap_point _),
      lowerWith_flatMap_point _ others, lowered, lower, String.toList_ofList, List.takeWhile_nil]

/-- A key and its names are lowercased alike exactly if this holds of every capital sigma. -/
theorem lower_intercalate_iff {names : List String} (undotted : ∀ name ∈ names, '.' ∉ name.toList) :
    lower (".".intercalate names) = ".".intercalate (names.map lower) ↔
      ∀ u v, (".".intercalate names).toList = u ++ '\u03a3' :: v →
        lowerSigma u.reverse v = lowerSigmaOfName u.reverse v := by
  rw [← String.toList_inj, toList_intercalate_lower undotted, lower, String.toList_ofList,
    lowerAfter_eq_lowerWith, lowerWith_eq_iff]
  simp only [List.append_nil]

end Unicode

namespace Store

theorem findSome?_root (t : Tree) (path : List String) :
    Chain.root.locales.findSome? ((ofRoot t).leaf? path) = t.leaf? path := by
  have tree : (ofRoot t).tree? Chain.rootLocale = some t := tree?_merge_self empty _ t
  change [Chain.rootLocale].findSome? _ = _
  rw [List.findSome?_singleton, leaf?, tree, Option.bind_some]

/-- A look-up finds the leaf behind the lowercased names of its key, in the first locale of the chain that
has one: in all data, if every capital sigma in the key becomes what it becomes in its name; otherwise
there is data in which this leaf is not found. -/
theorem lookup_spelled_iff {names : List String} (ne : names ≠ [])
    (undotted : ∀ name ∈ names, '.' ∉ name.toList) :
    (∀ (s : Store) (chain : Chain), s.lookup chain (".".intercalate names) =
        chain.locales.findSome? (s.leaf? (names.map Unicode.lower))) ↔
      ∀ u v, (".".intercalate names).toList = u ++ '\u03a3' :: v →
        Unicode.lowerSigma u.reverse v = Unicode.lowerSigmaOfName u.reverse v := by
  have path : Tree.pathOf (".".intercalate (names.map Unicode.lower)) = names.map Unicode.lower := by
    refine Tree.pathOf_intercalate (by simpa using ne) fun part mem => ?_
    obtain ⟨name, named, rfl⟩ := List.mem_map.1 mem
    rw [Unicode.point_mem_lower_iff]
    exact undotted name named
  rw [← Unicode.lower_intercalate_iff undotted]
  constructor
  · intro all
    have last : Chain.rootLocale ∈ Chain.root.locales := List.mem_cons_self
    have found := all (ofRoot (.single "" (names.map Unicode.lower))) .root
    rw [lookup_ofRoot _ last, findSome?_root, Tree.leaf?_single, Tree.leaf?_single,
      if_pos rfl] at found
    have same := (Option.ite_none_right_eq_some.1 found).1
    exact Tree.pathOf_injective (same.trans path.symm)
  · intro spelled s chain
    rw [lookup_eq, spelled, path]

/-- A sigma at the front of a name and one at the end of the last name. -/
theorem lookup_spelled_iff_street :
    let names := ["ΣΑ", "ΟΔΟΣ"]
    Unicode.lower (".".intercalate names) = ".".intercalate ["σα", "οδος"] ∧
      (ofRoot (.single "x" ["σα", "οδος"])).lookup .root (".".intercalate names) = some ["x"] := by
  intro names
  have undotted : ∀ name ∈ names, '.' ∉ name.toList := by decide
  have lowered : names.map Unicode.lower = ["σα", "οδος"] := by decide +kernel
  have alike : Unicode.lower (".".intercalate names) = ".".intercalate (names.map Unicode.lower) := by
    decide +kernel
  have found := (lookup_spelled_iff (List.cons_ne_nil _ _) undotted).2
    ((Unicode.lower_intercalate_iff undotted).1 alike)
  refine ⟨lowered ▸ alike, ?_⟩
  rw [found, lowered, findSome?_root, Tree.leaf?_single, if_pos rfl]

/-- A name that ends in a sigma, with another name behind it, and one that is a sigma, with another name
in front of it. -/
theorem lookup_spelled_lost :
    let found (path : List String) (key : String) := (ofRoot (.single "x" path)).lookup .root key
    let listed (path names : List String) := Chain.root.locales.findSome?
      ((ofRoot (.single "x" path)).leaf? (names.map Unicode.lower))
    found ["ας", "b"] "ΑΣ.b" = none ∧ listed ["ας", "b"] ["ΑΣ", "b"] = some ["x"] ∧
      found ["a", "σ"] "a.Σ" = none ∧ listed ["a", "σ"] ["a", "Σ"] = some ["x"] := by
  decide +kernel

end Store

end Figment
