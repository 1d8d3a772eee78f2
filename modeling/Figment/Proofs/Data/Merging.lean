import Figment.Proofs.Data.Overlay
import Figment.Proofs.Data.WellFormed
/-!
The law of laying one tree over another.

Of two trees on top of each other, the upper one decides all paths on which it has a leaf or at whose
end it has anything, and the lower one all others. A tree that lies on top already changes nothing when
it is laid over the result again.
-/

namespace Figment

namespace Tree

theorem get?_table_cons (entries : List (String × Tree)) (name : String) (path : List String) :
    (table entries).get? (name :: path) = (Keyed.find? name entries).bind (·.get? path) := rfl

/-- A path is settled by a leaf on it or a table at its end. -/
theorem settles_iff {t : Tree} {path : List String} :
    settles path t = true ↔
      (∃ front, front <+: path ∧ (t.leaf? front).isSome) ∨
        ∃ entries, t.get? path = some (table entries) := by
  have root (path : List String) {leaf : Tree} (h : leaf.values?.isSome) :
      ∃ front, front <+: path ∧ (leaf.leaf? front).isSome :=
    ⟨[], List.nil_prefix, h⟩
  induction path generalizing t with
  | nil =>
    refine iff_of_true rfl ?_
    cases t with
    | text value => exact .inl (root [] rfl)
    | list values => exact .inl (root [] rfl)
    | table entries => exact .inr ⟨entries, rfl⟩
  | cons name path ih =>
    cases t with
    | text value => exact iff_of_true rfl (.inl (root (name :: path) rfl))
    | list values => exact iff_of_true rfl (.inl (root (name :: path) rfl))
    | table entries =>
      have front : (∃ front, front <+: name :: path ∧ ((table entries).leaf? front).isSome) ↔
          ∃ front, front <+: path ∧ ((table entries).leaf? (name :: front)).isSome := by
        constructor
        · rintro ⟨front, within, leaf⟩
          rcases List.prefix_cons_iff.1 within with rfl | ⟨rest, rfl, within⟩
          · cases leaf
          · exact ⟨rest, (List.prefix_cons_inj name).1 within, leaf⟩
        · rintro ⟨rest, within, leaf⟩
          exact ⟨name :: rest, List.prefix_cons_iff.2 (.inr ⟨rest, rfl, within⟩), leaf⟩
      rw [settles, front]
      simp only [leaf?_table_cons, get?_table_cons]
      cases Keyed.find? name entries with
      | none => simp
      | some u => exact ih

/-- The tree has a leaf on the way to the end of the path, or a table there. -/
def Obstructs (t : Tree) (path : List String) : Prop :=
  (∃ front, front <+: path ∧ front ≠ path ∧ (t.leaf? front).isSome) ∨
    ∃ entries, t.get? path = some (table entries)

theorem settles_iff_obstructs {t : Tree} {path : List String} (h : t.leaf? path = none) :
    settles path t = true ↔ t.Obstructs path := by
  rw [settles_iff, Obstructs]
  refine or_congr_left (exists_congr fun front => and_congr_right fun _ => ?_)
  refine (and_iff_right_of_imp ?_).symm
  rintro leaf rfl
  rw [h] at leaf
  cases leaf

theorem leaf?_overlay_of_leaf {upper : Tree} {path values : List String}
    (h : upper.leaf? path = some values) (base : Tree) :
    (base.overlay upper).leaf? path = some values := by
  have settled : settles path upper = true :=
    settles_iff.2 (.inl ⟨path, List.prefix_refl path, by rw [h]; rfl⟩)
  rw [leaf?_overlay, if_pos settled, h]

theorem leaf?_overlay_of_obstructs {upper : Tree} {path : List String}
    (h : upper.leaf? path = none) (obstructs : upper.Obstructs path) (base : Tree) :
    (base.overlay upper).leaf? path = none := by
  rw [leaf?_overlay, if_pos ((settles_iff_obstructs h).2 obstructs), h]

theorem leaf?_overlay_of_not_obstructs {upper : Tree} {path : List String}
    (h : upper.leaf? path = none) (free : ¬ upper.Obstructs path) (base : Tree) :
    (base.overlay upper).leaf? path = base.leaf? path := by
  rw [leaf?_overlay, if_neg fun settled => free ((settles_iff_obstructs h).1 settled)]

/-- The entries of all tables stand in ascending order of their names. -/
def Sorted (t : Tree) : Prop :=
  ∀ path entries, t.get? path = some (table entries) → Keyed.Ordered entries

theorem WellFormed.sorted {t : Tree} (h : t.WellFormed) : t.Sorted :=
  fun _ _ reached => (h.get? reached).1

theorem Sorted.ordered {entries : List (String × Tree)} (h : (table entries).Sorted) :
    Keyed.Ordered entries :=
  h [] entries rfl

theorem Sorted.find? {entries : List (String × Tree)} (h : (table entries).Sorted) {name : String}
    {t : Tree} (found : Keyed.find? name entries = some t) : t.Sorted := by
  intro path inner reached
  refine h (name :: path) inner ?_
  rw [get?_table_cons, found]
  exact reached

theorem ordered_overlayEntries {base : List (String × Tree)} (h : Keyed.Ordered base)
    (upper : List (String × Tree)) : Keyed.Ordered (overlayEntries base upper) := by
  induction upper with
  | nil => exact h
  | cons e rest ih => exact ih.put e.1 _

/-- Entries change nothing where each of them changes nothing at its name. -/
theorem overlayEntries_eq_self {base upper : List (String × Tree)} (h : Keyed.Ordered base)
    (same : ∀ e ∈ upper, ∃ lower, Keyed.find? e.1 base = some lower ∧ lower.overlay e.2 = lower) :
    overlayEntries base upper = base := by
  induction upper with
  | nil => rfl
  | cons e rest ih =>
    obtain ⟨lower, found, unchanged⟩ := same e List.mem_cons_self
    rw [overlayEntries, ih fun e mem => same e (List.mem_cons_of_mem _ mem), found]
    dsimp only
    rw [unchanged, h.put_of_find? found]

mutual

/-- The induction on a tree whose tables are known to be good if all their entries are. -/
theorem induct {P : Tree → Prop} (text : ∀ value, P (text value)) (list : ∀ values, P (list values))
    (table : ∀ entries, (∀ e ∈ entries, P e.2) → P (table entries)) : ∀ t, P t
  | .text value => text value
  | .list values => list values
  | .table entries => table entries (inductEntries text list table entries)

theorem inductEntries {P : Tree → Prop} (text : ∀ value, P (.text value))
    (list : ∀ values, P (.list values))
    (table : ∀ entries, (∀ e ∈ entries, P e.2) → P (.table entries)) :
    ∀ entries : List (String × Tree), ∀ e ∈ entries, P e.2
  | [], _, mem => nomatch mem
  | (_, t) :: rest, e, mem =>
    match List.mem_cons.1 mem with
    | .inl here => here ▸ induct text list table t
    | .inr later => inductEntries text list table rest e later

end

theorem overlay_text (value : String) (upper : Tree) : (text value).overlay upper = upper := by
  cases upper with
  | text value => rw [overlay]
  | list values => rw [overlay]
  | table entries => rfl

theorem sorted_text (value : String) : (text value).Sorted := by
  intro path entries reached
  cases path with
  | nil => cases reached
  | cons name path => cases reached

theorem overlay_overlay {base upper : Tree} (hb : base.Sorted) (hu : upper.Sorted) :
    (base.overlay upper).overlay upper = base.overlay upper := by
  induction upper using induct generalizing base with
  | text value => rw [overlay, overlay]
  | list values => rw [overlay, overlay]
  | table upper ih =>
    have child {name : String} {u : Tree} (mem : (name, u) ∈ upper) :
        Keyed.find? name upper = some u ∧ u.Sorted := by
      have found := hu.ordered.find?_eq_some_iff.2 mem
      exact ⟨found, hu.find? found⟩
    -- What lies over a leaf is left as it is, and so laid over itself.
    have itself {name : String} {u : Tree} (mem : (name, u) ∈ upper) : u.overlay u = u := by
      have again := ih (name, u) mem (sorted_text "") (child mem).2
      rwa [overlay_text] at again
    have replaced : (table upper).overlay (table upper) = table upper := by
      refine congrArg table (overlayEntries_eq_self hu.ordered fun (name, u) mem => ?_)
      exact ⟨u, (child mem).1, itself mem⟩
    cases base with
    | text value => exact replaced
    | list values => exact replaced
    | table entries =>
      refine congrArg table (overlayEntries_eq_self (ordered_overlayEntries hb.ordered upper) ?_)
      intro (name, u) mem
      obtain ⟨found, sorted⟩ := child mem
      rw [find?_overlayEntries, found]
      cases below : Keyed.find? name entries with
      | none => exact ⟨u, rfl, itself mem⟩
      | some lower => exact ⟨lower.overlay u, rfl, ih (name, u) mem (hb.find? below) sorted⟩

/-- A tree laid over another one decides what is found at a path if it has a leaf there, a leaf on the
way or a table at the end: then nothing but its own leaf is found. At all other paths the lower tree is
seen. Laid over the result again it changes nothing. -/
theorem overlay_law (base upper : Tree) :
    (∀ path,
      (∀ values, upper.leaf? path = some values → (base.overlay upper).leaf? path = some values) ∧
      (upper.leaf? path = none → ¬ upper.Obstructs path →
        (base.overlay upper).leaf? path = base.leaf? path) ∧
      (upper.leaf? path = none → upper.Obstructs path → (base.overlay upper).leaf? path = none)) ∧
    (base.Sorted → upper.Sorted → (base.overlay upper).overlay upper = base.overlay upper) := by
  refine ⟨fun path => ⟨?_, ?_, ?_⟩, overlay_overlay⟩
  · intro values leaf
    exact leaf?_overlay_of_leaf leaf base
  · intro none free
    exact leaf?_overlay_of_not_obstructs none free base
  · intro none obstructs
    exact leaf?_overlay_of_obstructs none obstructs base

/-- A table and a text of the upper tree above leaves of the lower one, beside a leaf that shows. -/
theorem overlay_law_clash :
    let base := table [("a", table [("b", text "x"), ("c", text "y")]), ("d", table [("e", text "z")])]
    let upper := table [("a", table [("b", table [])]), ("d", text "w")]
    (base.overlay upper).leaf? ["d"] = some ["w"] ∧
      (base.overlay upper).leaf? ["a", "c"] = base.leaf? ["a", "c"] ∧
      (base.overlay upper).leaf? ["a", "b"] = none ∧ (base.overlay upper).leaf? ["d", "e"] = none ∧
      (base.overlay upper).overlay upper = base.overlay upper := by
  intro base upper
  obtain ⟨found, again⟩ := overlay_law base upper
  have free : ¬ upper.Obstructs ["a", "c"] := by
    rw [← settles_iff_obstructs rfl]
    decide
  have lower : base.WellFormed := by decide +kernel
  have above : upper.WellFormed := by decide +kernel
  refine ⟨(found ["d"]).1 ["w"] rfl, (found ["a", "c"]).2.1 rfl free,
    (found ["a", "b"]).2.2 rfl (.inr ⟨[], rfl⟩), (found ["d", "e"]).2.2 rfl (.inl ?_),
    again lower.sorted above.sorted⟩
  exact ⟨["d"], by decide, by decide, rfl⟩

end Tree

end Figment
