import Figment.Data.Store
import Figment.Proofs.Data.Keys
/-!
The keys that are listed for a locale.

A tree is listed by the keys of its leaves, put into order, while a look-up divides a key at its points
and follows the parts. Where the names in tables are not empty and hold no point, the listed keys are
exactly those that lead to a leaf, each of them once, so that what a look-up finds can be read off the
lists of the locales.
-/

namespace Figment

namespace Tree

/-- A table in order, all names of which can be read off the keys made of them. -/
structure IsPlain (t : Tree) : Prop where
  table : ∃ entries, t = table entries
  sorted : t.Sorted
  named : ∀ name ∈ t.names, name ≠ "" ∧ '.' ∉ name.toList

namespace IsPlain

variable {t : Tree} (h : t.IsPlain)
include h

theorem undotted : ∀ name ∈ t.names, '.' ∉ name.toList := by
  intro name mem
  exact (h.named name mem).2

theorem rooted : t.child? "" = none := by
  obtain ⟨entries, rfl⟩ := h.table
  cases found : Keyed.find? "" entries with
  | none => exact found
  | some u =>
    have mem := mem_namesOf (Keyed.mem_of_find? found) (.inl rfl)
    exact absurd rfl (h.named "" mem).1

/-- A key is listed if its path leads to a leaf, and only then. -/
theorem mem_keys_iff {key : String} : key ∈ t.keys ↔ (t.leaf? (pathOf key)).isSome := by
  rw [keys, List.mem_mergeSort, List.mem_map, Option.isSome_iff_exists]
  constructor
  · rintro ⟨⟨_, values⟩, mem, rfl⟩
    exact ⟨values, leaf?_pathOf_of_mem_leaves h.table h.undotted h.rooted h.sorted mem⟩
  · rintro ⟨values, leaf⟩
    exact ⟨(key, values), mem_leaves_of_pathOf h.sorted leaf (head?_ne_of_leaf? h.rooted leaf), rfl⟩

/-- The key of a leaf, divided at its points, is the path to it. -/
theorem pathOf_intercalate {path values : List String} (leaf : t.leaf? path = some values) :
    pathOf (".".intercalate path) = path := by
  rw [← keyFrom_root (head?_ne_of_leaf? h.rooted leaf)]
  exact pathOf_keyFrom h.table h.undotted h.rooted leaf

theorem pairwise_keys : t.keys.Pairwise (· < ·) := by
  have ascending : t.keys.Pairwise fun a b => decide (a ≤ b) = true := by
    apply List.pairwise_mergeSort
    · intro a b c first second
      simp only [decide_eq_true_eq] at first second ⊢
      exact String.le_trans first second
    · intro a b
      simpa using String.le_total a b
  have distinct : t.keys.Nodup := by
    rw [keys, (List.mergeSort_perm _ _).nodup_iff]
    exact nodup_leaves h.table h.undotted h.rooted h.sorted
  exact (ascending.and distinct).imp fun both => Std.lt_of_le_of_ne (of_decide_eq_true both.1) both.2

end IsPlain

end Tree

/-- The first result of a list is that of its first member which has one. -/
theorem findSome?_eq_find?_bind {α β : Type} {f : α → Option β} {p : α → Bool} {as : List α}
    (h : ∀ a ∈ as, p a = (f a).isSome) : as.findSome? f = (as.find? p).bind f := by
  induction as with
  | nil => rfl
  | cons a as ih =>
    have here := h a List.mem_cons_self
    have later := ih fun b mem => h b (List.mem_cons_of_mem a mem)
    rw [List.findSome?_cons, List.find?_cons, here]
    cases found : f a with
    | none => exact later
    | some b => exact found.symm

namespace Store

/-- The data of every locale is plain. -/
def IsPlain (s : Store) : Prop :=
  ∀ locale t, s.tree? locale = some t → t.IsPlain

/-- The leaf to which a path leads in the tree of a locale. -/
def leaf? (s : Store) (path : List String) (locale : String) : Option (List String) :=
  (s.tree? locale).bind (·.leaf? path)

theorem lookup_eq (s : Store) (chain : Chain) (key : String) :
    s.lookup chain key = chain.locales.findSome? (s.leaf? (Tree.pathOf (Unicode.lower key))) := rfl

theorem IsPlain.mem_keys_iff {s : Store} (h : s.IsPlain) {locale key : String} :
    key ∈ s.keys locale ↔ (s.leaf? (Tree.pathOf key) locale).isSome := by
  rw [keys, leaf?]
  cases tree : s.tree? locale with
  | none => simp
  | some t => exact (h locale t tree).mem_keys_iff

theorem IsPlain.pairwise_keys {s : Store} (h : s.IsPlain) (locale : String) :
    (s.keys locale).Pairwise (· < ·) := by
  rw [keys]
  cases tree : s.tree? locale with
  | none => exact .nil
  | some t => exact (h locale t tree).pairwise_keys

/-- The keys of a locale ascend, and they are those whose paths lead to a leaf of its tree. So a look-up
finds something exactly if the key in lower case is listed for a locale of the chain, and it finds what
the first such locale has there. -/
theorem listed_keys_law {s : Store} (h : s.IsPlain) :
    (∀ locale, (s.keys locale).Pairwise (· < ·) ∧
      ∀ key, key ∈ s.keys locale ↔ (s.leaf? (Tree.pathOf key) locale).isSome) ∧
    ∀ chain key,
      ((s.lookup chain key).isSome ↔ ∃ locale ∈ chain.locales, Unicode.lower key ∈ s.keys locale) ∧
      s.lookup chain key = (chain.locales.find? (Unicode.lower key ∈ s.keys ·)).bind
        (s.leaf? (Tree.pathOf (Unicode.lower key))) := by
  refine ⟨fun locale => ⟨h.pairwise_keys locale, fun key => h.mem_keys_iff⟩, fun chain key => ⟨?_, ?_⟩⟩
  · rw [lookup_eq, List.isSome_findSome?, List.any_eq_true]
    simp only [h.mem_keys_iff]
  · refine findSome?_eq_find?_bind fun locale _ => ?_
    rw [Bool.eq_iff_iff, decide_eq_true_iff]
    exact h.mem_keys_iff

/-- A table `a` in front of a name that goes on with a hyphen. In the list of the keys this name comes
first, because a hyphen comes before a point. -/
def hyphenStore : Store :=
  ⟨[("en", .table [("a", .table [("b", .text "x"), ("z", .list ["y"])]), ("a-c", .text "w")]),
    ("en-GB", .table [("a", .text "v")])]⟩

theorem listed_keys_law_hyphen :
    (hyphenStore.keys "en").Pairwise (· < ·) ∧ "a-c" ∈ hyphenStore.keys "en" ∧
      "a.b" ∈ hyphenStore.keys "en" ∧ "a" ∉ hyphenStore.keys "en" ∧
      hyphenStore.lookup ⟨["en-GB", "en"]⟩ "A.b" = some ["x"] := by
  have formed : ∀ e ∈ hyphenStore.trees, e.2.WellFormed ∧
      ∀ name ∈ e.2.names, name ≠ "" ∧ '.' ∉ name.toList := by
    decide +kernel
  have tables : ∀ e ∈ hyphenStore.trees, ∃ entries, e.2 = .table entries := by
    simp [hyphenStore]
  have plain : hyphenStore.IsPlain := by
    intro locale t tree
    have mem := Keyed.mem_of_find? tree
    exact ⟨tables _ mem, (formed _ mem).1.sorted, (formed _ mem).2⟩
  obtain ⟨listed, found⟩ := listed_keys_law plain
  have british : Unicode.lower "A.b" ∉ hyphenStore.keys "en-GB" := by
    rw [(listed "en-GB").2]
    decide +kernel
  have english : Unicode.lower "A.b" ∈ hyphenStore.keys "en" := by
    rw [(listed "en").2]
    decide +kernel
  have first : ["en-GB", "en"].find? (Unicode.lower "A.b" ∈ hyphenStore.keys ·) = some "en" := by
    simp [british, english]
  refine ⟨(listed "en").1, ((listed "en").2 _).2 rfl, ((listed "en").2 _).2 rfl, ?_, ?_⟩
  · rw [(listed "en").2]
    decide
  · rw [(found _ "A.b").2, first]
    decide +kernel

end Store

end Figment
