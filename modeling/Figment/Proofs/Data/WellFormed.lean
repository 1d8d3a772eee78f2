import Figment.Proofs.Data.Changes
import Figment.Proofs.Unicode.Lowercase
/-!
The data of a generator is in order.

Conversion refuses empty lists, lowercases names and puts them into their places, and laying one tree
over another brings in nothing new. So no matter what is added or registered, the data of every locale
is a table, the names in all tables are in lower case, and there is something to pick at every leaf.
-/

namespace Figment

namespace Tree

open Yaml (Value)

mutual

/-- Lists hold something, and the names in tables are in lower case and in ascending order. -/
def WellFormed : Tree → Prop
  | text _ => True
  | list values => values ≠ []
  | table entries => Keyed.Ordered entries ∧ EntriesWellFormed entries

def EntriesWellFormed : List (String × Tree) → Prop
  | [] => True
  | (name, t) :: rest => Unicode.lower name = name ∧ t.WellFormed ∧ EntriesWellFormed rest

end

mutual

def decideWellFormed : (t : Tree) → Decidable t.WellFormed
  | text _ => .isTrue trivial
  | list values => inferInstanceAs (Decidable (values ≠ []))
  | table entries =>
    have := decideEntriesWellFormed entries
    inferInstanceAs (Decidable (Keyed.Ordered entries ∧ EntriesWellFormed entries))

def decideEntriesWellFormed : (es : List (String × Tree)) → Decidable (EntriesWellFormed es)
  | [] => .isTrue trivial
  | (name, t) :: rest =>
    have := t.decideWellFormed
    have := decideEntriesWellFormed rest
    inferInstanceAs (Decidable (Unicode.lower name = name ∧ t.WellFormed ∧ EntriesWellFormed rest))

end

instance (t : Tree) : Decidable t.WellFormed := t.decideWellFormed

theorem entriesWellFormed_iff {es : List (String × Tree)} :
    EntriesWellFormed es ↔ ∀ e ∈ es, Unicode.lower e.1 = e.1 ∧ e.2.WellFormed := by
  induction es with
  | nil => simp [EntriesWellFormed]
  | cons e rest ih =>
    rw [EntriesWellFormed, ih, List.forall_mem_cons, and_assoc]

theorem wellFormed_table_nil : WellFormed (table []) :=
  ⟨Keyed.ordered_nil, trivial⟩

theorem WellFormed.put {es : List (String × Tree)} (h : WellFormed (table es)) {name : String}
    {t : Tree} (lower : Unicode.lower name = name) (ht : t.WellFormed) :
    WellFormed (table (Keyed.put name t es)) := by
  refine ⟨h.1.put name t, entriesWellFormed_iff.2 fun e mem => ?_⟩
  rcases Keyed.mem_put mem with rfl | old
  · exact ⟨lower, ht⟩
  · exact entriesWellFormed_iff.1 h.2 e old

theorem WellFormed.find? {es : List (String × Tree)} (h : WellFormed (table es)) {name : String}
    {t : Tree} (found : Keyed.find? name es = some t) : Unicode.lower name = name ∧ t.WellFormed :=
  entriesWellFormed_iff.1 h.2 (name, t) (Keyed.mem_of_find? found)

theorem WellFormed.get? {t u : Tree} (h : t.WellFormed) {path : List String}
    (found : t.get? path = some u) : u.WellFormed := by
  induction path generalizing t with
  | nil =>
    cases found
    exact h
  | cons name path ih =>
    obtain ⟨v, child, rest⟩ := Option.bind_eq_some_iff.1 found
    cases t with
    | text value => cases child
    | list values => cases child
    | table entries => exact ih (h.find? child).2 rest

/-- There is something to pick at every leaf. -/
theorem WellFormed.leaf?_ne_nil {t : Tree} (h : t.WellFormed) {path values : List String}
    (found : t.leaf? path = some values) : values ≠ [] := by
  obtain ⟨u, reached, leaf⟩ := Option.bind_eq_some_iff.1 found
  have inside := h.get? reached
  cases u with
  | text value =>
    cases leaf
    exact List.cons_ne_nil value []
  | list values =>
    cases leaf
    exact inside
  | table entries => cases leaf

mutual

theorem wellFormed_ofValue (key : String) :
    (v : Value) → {t : Tree} → ofValue key v = .ok t → t.WellFormed
  | .mapping entries, _, h => by
    obtain ⟨es, inner, rfl⟩ := ofValue_mapping_eq_ok.1 h
    exact wellFormed_ofEntries key wellFormed_table_nil entries inner
  | .sequence items, _, h => by
    rw [ofValue] at h
    split at h
    · cases h
    · next nonempty =>
      split at h
      · next texts converted =>
        cases h
        rintro rfl
        cases items with
        | nil => exact nonempty rfl
        | cons item rest =>
          rw [List.mapM_cons] at converted
          obtain ⟨text, _, converted⟩ := Option.bind_eq_some_iff.1 converted
          obtain ⟨texts, _, converted⟩ := Option.bind_eq_some_iff.1 converted
          cases converted
      · cases h
  | .tagged _ v, _, h => by
    rw [ofValue] at h
    exact wellFormed_ofValue key v h
  | .null, _, h => by cases h
  | .text _, _, h | .int _, _, h | .float _, _, h | .bool _, _, h => by
    cases h
    trivial

theorem wellFormed_ofEntries (above : String) {done : List (String × Tree)}
    (hd : WellFormed (table done)) : (entries : List (Value × Value)) → {es : List (String × Tree)} →
    ofEntries above done entries = .ok es → WellFormed (table es)
  | [], _, h => by
    cases h
    exact hd
  | (k, v) :: rest, _, h => by
    obtain ⟨name, t, _, inner, later⟩ := ofEntries_cons_eq_ok.1 h
    have ht := wellFormed_ofValue _ v inner
    exact wellFormed_ofEntries above (hd.put (Unicode.lower_lower name) ht) rest later

end

/-- A table in order, as the data of a locale has to be. -/
structure IsRoot (t : Tree) : Prop where
  table : ∃ entries, t = table entries
  wellFormed : t.WellFormed

/-- The entries from which the tree of a document is made. -/
def rootEntries : Value → List (Value × Value)
  | .mapping entries => unwrapped entries
  | _ => []

theorem ofEntries_of_ofDocument {v : Value} {t : Tree} (h : ofDocument v = .ok t) :
    ∃ es, ofEntries "" [] (rootEntries v) = .ok es ∧ t = .table es := by
  cases v with
  | mapping entries =>
    change ofValue "" (.mapping (unwrapped entries)) = .ok t at h
    exact ofValue_mapping_eq_ok.1 h
  | null =>
    cases h
    exact ⟨[], rfl, rfl⟩
  | _ => cases h

theorem ofYaml_eq_ok {origin text : String} {t : Tree} :
    ofYaml origin text = .ok t ↔ ∃ v, Value.ofText? text = some v ∧ ofDocument v = .ok t := by
  rw [ofYaml]
  cases Value.ofText? text with
  | none => simp
  | some v =>
    cases converted : ofDocument v with
    | error fault => simp [converted, Except.mapError]
    | ok u => simp [converted, Except.mapError]

theorem isRoot_ofYaml {origin text : String} {t : Tree} (h : ofYaml origin text = .ok t) :
    t.IsRoot := by
  obtain ⟨v, _, accepted⟩ := ofYaml_eq_ok.1 h
  obtain ⟨es, inner, rfl⟩ := ofEntries_of_ofDocument accepted
  exact ⟨⟨es, rfl⟩, wellFormed_ofEntries "" wellFormed_table_nil _ inner⟩

mutual

theorem WellFormed.overlay {base : Tree} (hb : base.WellFormed) :
    (upper : Tree) → upper.WellFormed → (base.overlay upper).WellFormed
  | .text value, _ => by
    rw [Tree.overlay]
    trivial
  | .list values, h => by
    rw [Tree.overlay]
    exact h
  | .table upper, h => by
    cases base with
    | text value => exact h
    | list values => exact h
    | table entries => exact hb.overlayEntries upper h.2

theorem WellFormed.overlayEntries {base : List (String × Tree)} (hb : WellFormed (table base)) :
    (upper : List (String × Tree)) → EntriesWellFormed upper →
    WellFormed (table (overlayEntries base upper))
  | [], _ => hb
  | (name, u) :: rest, h => by
    obtain ⟨lower, hu, later⟩ := h
    rw [Tree.overlayEntries]
    refine (hb.overlayEntries rest later).put lower ?_
    split
    · next found => exact (hb.find? found).2.overlay u hu
    · exact hu

end

theorem IsRoot.overlay {base upper : Tree} (hb : base.IsRoot) (hu : upper.IsRoot) :
    (base.overlay upper).IsRoot := by
  refine ⟨?_, hb.wellFormed.overlay upper hu.wellFormed⟩
  obtain ⟨lower, rfl⟩ := hb.table
  obtain ⟨entries, rfl⟩ := hu.table
  exact ⟨_, rfl⟩

end Tree

namespace Store

def WellFormed (s : Store) : Prop :=
  ∀ e ∈ s.trees, e.2.IsRoot

variable {s : Store}

theorem wellFormed_empty : empty.WellFormed :=
  nofun

theorem WellFormed.tree? (h : s.WellFormed) {locale : String} {t : Tree}
    (found : s.tree? locale = some t) : t.IsRoot :=
  h (locale, t) (Keyed.mem_of_find? found)

theorem WellFormed.merge (h : s.WellFormed) (locale : String) {t : Tree} (ht : t.IsRoot) :
    (s.merge locale t).WellFormed := by
  intro e mem
  rcases Keyed.mem_put mem with rfl | old
  · dsimp only
    split
    · next found => exact (h.tree? found).overlay ht
    · exact ht
  · exact h e old

theorem WellFormed.lookup_ne_nil (h : s.WellFormed) {chain : Chain} {key : String}
    {values : List String} (found : s.lookup chain key = some values) : values ≠ [] := by
  obtain ⟨locale, _, leaf⟩ := List.exists_of_findSome?_eq_some found
  obtain ⟨t, tree, reached⟩ := Option.bind_eq_some_iff.1 leaf
  exact (h.tree? tree).wellFormed.leaf?_ne_nil reached

end Store

theorem Bundled.wellFormed_store : Bundled.store.WellFormed := by
  have all : ∀ t ∈ [english, british, german], t.WellFormed := by decide +kernel
  have en : english.IsRoot := ⟨⟨_, rfl⟩, all _ (by simp)⟩
  have gb : british.IsRoot := ⟨⟨_, rfl⟩, all _ (by simp)⟩
  have de : german.IsRoot := ⟨⟨_, rfl⟩, all _ (by simp)⟩
  exact ((Store.wellFormed_empty.merge "en" en).merge "en-GB" gb).merge "de" de

namespace Generator

variable {g : Generator}

theorem wellFormed_new {locale : String} {maxDepth : Nat} {bundled : Bool}
    (h : Generator.new locale maxDepth bundled = .ok g) : g.store.WellFormed := by
  obtain ⟨chain, _, rfl⟩ := new_eq_ok.1 h
  cases bundled with
  | true => exact Bundled.wellFormed_store
  | false => exact Store.wellFormed_empty

theorem isRoot_of_added {a : Addition} {locale : String} {t : Tree}
    (h : a.added? = some (locale, t)) : t.IsRoot := by
  obtain ⟨document, _⟩ := Addition.added?_eq_some_iff.1 h
  cases a with
  | text given yaml => exact Tree.isRoot_ofYaml document
  | file given path content =>
    cases content with
    | error reason => cases document
    | ok yaml => exact Tree.isRoot_ofYaml document

theorem wellFormed_apply (h : g.store.WellFormed) (c : Change) : (c.apply g).store.WellFormed := by
  cases c with
  | register name p => exact h
  | add a =>
    cases added : a.added? with
    | none =>
      rw [Change.apply, attempt_of_not_added added]
      exact h
    | some e =>
      obtain ⟨locale, t⟩ := e
      rw [Change.apply, attempt_of_added added]
      exact h.merge locale (isRoot_of_added added)

theorem wellFormed_changed (h : g.store.WellFormed) (changes : List Change) :
    (g.changed changes).store.WellFormed := by
  induction changes generalizing g with
  | nil => exact h
  | cons c changes ih => exact ih (wellFormed_apply h c)

end Generator

end Figment
