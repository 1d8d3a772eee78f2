import Figment.Proofs.Data.Description
/-!
The conversion of documents, and what is reported of those that are refused.

Exactly the documents of fine entries are accepted, and each is made into the tree that it describes. Of
what is wrong in a document, the first place is reported, an entry coming before those in its value.
-/

namespace Figment

namespace Tree

open Yaml (Value)

mutual

theorem fine_of_ofValue {key : String} (path : List String) : (v : Value) → {t : Tree} →
    ofValue key v = .ok t → Suits v ∧ ∀ e ∈ entriesIn path v, e.Fine
  | .mapping entries, _, h => by
    obtain ⟨es, inner, rfl⟩ := ofValue_mapping_eq_ok.1 h
    exact ⟨.mapping, fine_of_ofEntries path entries inner⟩
  | .sequence items, _, h => by
    rw [ofValue] at h
    split at h
    · cases h
    · next nonempty =>
      split at h
      · next values converted =>
        refine ⟨.list (by simpa using nonempty) ?_, nofun⟩
        exact mapM_scalarText?_isSome_iff.1 (Option.isSome_iff_exists.2 ⟨values, converted⟩)
      · cases h
  | .tagged tag v, _, h => by
    rw [ofValue] at h
    obtain ⟨suits, fine⟩ := fine_of_ofValue path v h
    exact ⟨.tagged suits, fine⟩
  | .null, _, h => by cases h
  | .text _, _, _ | .int _, _, _ | .float _, _, _ | .bool _, _, _ => ⟨.scalar trivial, nofun⟩

theorem fine_of_ofEntries {above : String} {done : List (String × Tree)} (path : List String) :
    (entries : List (Value × Value)) → {es : List (String × Tree)} →
    ofEntries above done entries = .ok es → ∀ e ∈ entriesOf path entries, e.Fine
  | [], _, _ => nofun
  | (k, v) :: rest, _, h => by
    obtain ⟨name, t, named, inner, later⟩ := ofEntries_cons_eq_ok.1 h
    obtain ⟨suits, fine⟩ := fine_of_ofValue (path ++ (nameOf? k).toList) v inner
    rw [entriesOf, List.forall_mem_cons, List.forall_mem_append]
    exact ⟨⟨isScalar_iff.2 ⟨name, named⟩, suits⟩, fine, fine_of_ofEntries path rest later⟩

end

section

variable {e : Entry} {es : List Entry} {fault : SourceFault}

theorem Entry.Offends.first {kind : String → SourceFault} {path : List String}
    (h : e.Offends kind path) (es : List Entry) : FirstOffence (e :: es) (kind (keyFrom "" path)) :=
  ⟨[], e, es, kind, path, rfl, nofun, h, by rw [keyFrom_eq_dropWhile]⟩

theorem FirstOffence.behind (h : FirstOffence es fault) (before : List Entry)
    (fine : ∀ b ∈ before, b.Fine) : FirstOffence (before ++ es) fault := by
  obtain ⟨between, e, after, kind, path, rfl, fine', offends, shown⟩ := h
  refine ⟨before ++ between, e, after, kind, path, by simp, ?_, offends, shown⟩
  exact List.forall_mem_append.2 ⟨fine, fine'⟩

theorem FirstOffence.append (h : FirstOffence es fault) (more : List Entry) :
    FirstOffence (es ++ more) fault := by
  obtain ⟨before, e, after, kind, path, rfl, fine, offends, shown⟩ := h
  exact ⟨before, e, after ++ more, kind, path, by simp, fine, offends, shown⟩

theorem Entry.Fine.not_offends (h : e.Fine) {kind : String → SourceFault} {path : List String} :
    ¬ e.Offends kind path := by
  rintro (notScalar | ⟨_, spoils⟩)
  · exact notScalar h.1
  · exact h.2.not_spoils spoils

theorem FirstOffence.not_fine (h : FirstOffence es fault) : ¬ ∀ e ∈ es, e.Fine := by
  obtain ⟨before, e, after, kind, path, rfl, -, offends, -⟩ := h
  exact fun fine => (fine e (by simp)).not_offends offends

end

mutual

/-- A value is refused for itself or for the first entry in it that is not fine. -/
theorem offence_of_ofValue (path : List String) : (v : Value) → {fault : SourceFault} →
    ofValue (keyFrom "" path) v = .error fault →
    (∃ kind, Spoils v kind ∧ fault = kind (keyFrom "" path)) ∨
      (Suits v ∧ FirstOffence (entriesIn path v) fault)
  | .mapping entries, fault, h => by
    rw [ofValue] at h
    cases inner : ofEntries (keyFrom "" path) [] entries with
    | ok es =>
      rw [inner] at h
      cases h
    | error fault' =>
      rw [inner] at h
      cases h
      exact .inr ⟨.mapping, offence_of_ofEntries path entries inner⟩
  | .sequence items, _, h => by
    rw [ofValue] at h
    split at h
    · next empty =>
      cases h
      obtain rfl : items = [] := by simpa using empty
      exact .inl ⟨.emptyList, .emptyList, rfl⟩
    · split at h
      · cases h
      · next refused =>
        cases h
        have some_other : ¬ ∀ item ∈ items, IsScalar item := by
          rw [← mapM_scalarText?_isSome_iff, refused]
          nofun
        push Not at some_other
        obtain ⟨item, mem, other⟩ := some_other
        exact .inl ⟨.nestedList, .nestedList mem other, rfl⟩
  | .tagged tag v, _, h => by
    rw [ofValue] at h
    rcases offence_of_ofValue path v h with ⟨kind, spoils, rfl⟩ | ⟨suits, first⟩
    · exact .inl ⟨kind, .tagged spoils, rfl⟩
    · exact .inr ⟨.tagged suits, first⟩
  | .null, _, h => by
    cases h
    exact .inl ⟨.missing, .missing, rfl⟩
  | .text _, _, h | .int _, _, h | .float _, _, h | .bool _, _, h => by cases h

theorem offence_of_ofEntries {done : List (String × Tree)} (path : List String) :
    (entries : List (Value × Value)) → {fault : SourceFault} →
    ofEntries (keyFrom "" path) done entries = .error fault →
    FirstOffence (entriesOf path entries) fault
  | [], _, h => by cases h
  | (k, v) :: rest, fault, h => by
    rw [entriesOf]
    rw [ofEntries] at h
    cases named : scalarText? k with
    | none =>
      rw [named] at h
      cases h
      exact (Entry.Offends.key (e := ⟨path, k, v⟩) (not_isScalar_iff.2 named)).first _
    | some name =>
      have called : nameOf? k = some (Unicode.lower name) := congrArg (Option.map Unicode.lower) named
      have scalar : IsScalar k := isScalar_iff.2 ⟨name, named⟩
      rw [named] at h
      rw [called]
      simp only [← keyFrom_concat] at h
      cases inner : ofValue (keyFrom "" (path ++ [Unicode.lower name])) v with
      | error fault' =>
        rw [inner] at h
        cases h
        rcases offence_of_ofValue (path ++ [Unicode.lower name]) v inner with
          ⟨kind, spoils, rfl⟩ | ⟨suits, first⟩
        · exact (Entry.Offends.value (e := ⟨path, k, v⟩) called spoils).first _
        · exact (first.append _).behind [⟨path, k, v⟩] (by simpa using ⟨scalar, suits⟩)
      | ok t =>
        rw [inner] at h
        obtain ⟨suits, fine⟩ := fine_of_ofValue (path ++ [Unicode.lower name]) v inner
        refine (offence_of_ofEntries path rest h).behind
          (⟨path, k, v⟩ :: entriesIn (path ++ [Unicode.lower name]) v) ?_
        exact List.forall_mem_cons.2 ⟨⟨scalar, suits⟩, fine⟩

end

section

variable {name : String} {entries : List (Value × Value)}

theorem lastNamed_cons_iff {k v u : Value} : LastNamed name ((k, v) :: entries) u ↔
    LastNamed name entries u ∨
      (∀ e ∈ entries, nameOf? e.1 ≠ some name) ∧ nameOf? k = some name ∧ u = v := by
  constructor
  · rintro ⟨before, k', after, eq, named, last⟩
    cases before with
    | nil =>
      cases eq
      exact .inr ⟨last, named, rfl⟩
    | cons e before =>
      cases eq
      exact .inl ⟨before, k', after, rfl, named, last⟩
  · rintro (⟨before, k', after, rfl, named, last⟩ | ⟨last, named, rfl⟩)
    · exact ⟨(k, v) :: before, k', after, rfl, named, last⟩
    · exact ⟨[], k, entries, rfl, named, last⟩

theorem unnamed_or_lastNamed (name : String) (entries : List (Value × Value)) :
    (∀ e ∈ entries, nameOf? e.1 ≠ some name) ∨ ∃ v, LastNamed name entries v := by
  induction entries with
  | nil => exact .inl nofun
  | cons e rest ih =>
    obtain ⟨k, v⟩ := e
    rcases ih with unnamed | ⟨u, last⟩
    · by_cases named : nameOf? k = some name
      · exact .inr ⟨v, lastNamed_cons_iff.2 (.inr ⟨unnamed, named, rfl⟩)⟩
      · exact .inl (List.forall_mem_cons.2 ⟨named, unnamed⟩)
    · exact .inr ⟨u, lastNamed_cons_iff.2 (.inl last)⟩

variable {above : String} {done es : List (String × Tree)}

theorem find?_ofEntries_of_unnamed (unnamed : ∀ e ∈ entries, nameOf? e.1 ≠ some name)
    (h : ofEntries above done entries = .ok es) : Keyed.find? name es = Keyed.find? name done := by
  induction entries generalizing done with
  | nil =>
    cases h
    rfl
  | cons e rest ih =>
    obtain ⟨k, v⟩ := e
    obtain ⟨other, t, named, _, later⟩ := ofEntries_cons_eq_ok.1 h
    obtain ⟨here, there⟩ := List.forall_mem_cons.1 unnamed
    have ne : name ≠ Unicode.lower other := by
      rintro rfl
      exact here (congrArg (Option.map Unicode.lower) named)
    rw [ih there later, Keyed.find?_put_of_ne _ _ ne]

/-- The last entry with a name settles what the name leads to. -/
theorem find?_ofEntries_of_lastNamed {v : Value} (last : LastNamed name entries v)
    (h : ofEntries above done entries = .ok es) :
    ∃ t, ofValue (joinKey above name) v = .ok t ∧ Keyed.find? name es = some t := by
  induction entries generalizing done with
  | nil =>
    obtain ⟨before, k, after, eq, -⟩ := last
    simp at eq
  | cons e rest ih =>
    obtain ⟨k, u⟩ := e
    obtain ⟨other, t, named, inner, later⟩ := ofEntries_cons_eq_ok.1 h
    rcases lastNamed_cons_iff.1 last with last | ⟨unnamed, called, rfl⟩
    · exact ih last later
    · have same : Unicode.lower other = name := by
        rw [nameOf?, named] at called
        exact Option.some.inj called
      subst same
      exact ⟨t, inner, by rw [find?_ofEntries_of_unnamed unnamed later, Keyed.find?_put_self]⟩

end

mutual

theorem describes_ofValue {key : String} : (v : Value) → {t : Tree} → ofValue key v = .ok t →
    Describes v t
  | .mapping entries, _, h => by
    obtain ⟨es, inner, rfl⟩ := ofValue_mapping_eq_ok.1 h
    refine .table (wellFormed_ofEntries key wellFormed_table_nil entries inner).1 (fun name => ?_)
      fun name v t last found => ?_
    · constructor
      · intro present
        refine (unnamed_or_lastNamed name entries).resolve_left fun unnamed => ?_
        rw [find?_ofEntries_of_unnamed unnamed inner] at present
        cases present
      · rintro ⟨v, last⟩
        obtain ⟨t, -, found⟩ := find?_ofEntries_of_lastNamed last inner
        exact found ▸ rfl
    · obtain ⟨t', accepted, found'⟩ := find?_ofEntries_of_lastNamed last inner
      cases found.symm.trans found'
      obtain ⟨before, k, after, eq, -⟩ := last
      have mem : (k, v) ∈ entries := by simp [eq]
      exact describes_entries entries (k, v) mem accepted
  | .sequence items, _, h => by
    rw [ofValue] at h
    split at h
    · cases h
    · split at h
      · next values converted =>
        cases h
        exact .list converted
      · cases h
  | .tagged tag v, _, h => by
    rw [ofValue] at h
    exact .tagged (describes_ofValue v h)
  | .null, _, h => by cases h
  | .text _, _, h | .int _, _, h | .float _, _, h | .bool _, _, h => by
    cases h
    exact .scalar rfl

theorem describes_entries : (entries : List (Value × Value)) → ∀ e ∈ entries, ∀ {key : String}
    {t : Tree}, ofValue key e.2 = .ok t → Describes e.2 t
  | [], _, mem, _, _, _ => absurd mem List.not_mem_nil
  | (k, v) :: rest, e, mem, _, _, h => by
    rcases List.mem_cons.1 mem with rfl | later
    · exact describes_ofValue v h
    · exact describes_entries rest e later h

end

theorem ofDocument_of_holds {v : Value} {data : List (Value × Value)} (h : Holds v data) :
    ofDocument v = ofValue "" (.mapping data) := by
  cases v with
  | mapping entries =>
    obtain rfl := holds_mapping_iff.1 h
    rfl
  | null =>
    cases h
    rfl
  | _ => cases h

theorem ofDocument_of_not_holds {v : Value} (h : ∀ data, ¬ Holds v data) :
    ofDocument v = .error .notMapping := by
  cases v with
  | mapping entries => exact absurd (holds_mapping_iff.2 rfl) (h _)
  | null => exact absurd .nothing (h _)
  | _ => rfl

section

variable {v : Value} {data : List (Value × Value)} (h : Holds v data)
include h

theorem Holds.offence {fault : SourceFault} (refused : ofDocument v = .error fault) :
    FirstOffence (entriesOf [] data) fault := by
  rw [ofDocument_of_holds h] at refused
  rcases offence_of_ofValue [] (.mapping data) refused with ⟨kind, spoils, -⟩ | ⟨-, first⟩
  · exact absurd spoils Suits.mapping.not_spoils
  · exact first

theorem Holds.fine_and_describes {t : Tree} (accepted : ofDocument v = .ok t) :
    (∀ e ∈ entriesOf [] data, e.Fine) ∧ Describes (.mapping data) t := by
  rw [ofDocument_of_holds h] at accepted
  exact ⟨(fine_of_ofValue [] (.mapping data) accepted).2, describes_ofValue _ accepted⟩

theorem Holds.accepted_iff :
    (∃ t, ofDocument v = .ok t) ↔ ∀ e ∈ entriesOf [] data, e.Fine := by
  constructor
  · rintro ⟨t, accepted⟩
    exact (h.fine_and_describes accepted).1
  · intro fine
    cases outcome : ofDocument v with
    | ok t => exact ⟨t, rfl⟩
    | error fault => exact absurd fine (h.offence outcome).not_fine

theorem Holds.ofDocument_eq_ok_iff {t : Tree} : ofDocument v = .ok t ↔
    (∀ e ∈ entriesOf [] data, e.Fine) ∧ Describes (.mapping data) t := by
  refine ⟨h.fine_and_describes, fun ⟨fine, described⟩ => ?_⟩
  obtain ⟨u, accepted⟩ := h.accepted_iff.2 fine
  rw [accepted, described.unique (h.fine_and_describes accepted).2]

end

theorem exists_holds_of_accepted {v : Value} {t : Tree} (accepted : ofDocument v = .ok t) :
    ∃ data, Holds v data := by
  by_contra held
  rw [ofDocument_of_not_holds (not_exists.1 held)] at accepted
  cases accepted

/-- A document is accepted exactly if its data is fine, and then made into the tree that the data
describes. Otherwise it is no document of data at all, or the first entry that is not fine is reported
with the names that lead to the place. Only empty names in front are missing from the place. -/
theorem ofDocument_law (v : Value) :
    (∀ t, ofDocument v = .ok t ↔ ∃ data, Holds v data ∧ (∀ e ∈ entriesOf [] data, e.Fine) ∧
      Describes (.mapping data) t) ∧
    ((∃ t, ofDocument v = .ok t) ↔ ∃ data, Holds v data ∧ ∀ e ∈ entriesOf [] data, e.Fine) ∧
    (∀ fault, ofDocument v = .error fault →
      fault = .notMapping ∧ (∀ data, ¬ Holds v data) ∨
        ∃ data before e after kind path, Holds v data ∧
          entriesOf [] data = before ++ e :: after ∧ (∀ b ∈ before, b.Fine) ∧ e.Offends kind path ∧
          fault = kind (".".intercalate (path.dropWhile (· = ""))) ∧
          (path.head? ≠ some "" → fault = kind (".".intercalate path))) ∧
    ∀ origin text, Value.ofText? text = some v → ofYaml origin text =
      (ofDocument v).mapError fun fault => .unsuitable origin fault.text := by
  refine ⟨fun t => ?_, ?_, fun fault refused => ?_, fun origin text read => by rw [ofYaml, read]⟩
  · constructor
    · intro accepted
      obtain ⟨data, holds⟩ := exists_holds_of_accepted accepted
      exact ⟨data, holds, holds.ofDocument_eq_ok_iff.1 accepted⟩
    · rintro ⟨data, holds, described⟩
      exact holds.ofDocument_eq_ok_iff.2 described
  · constructor
    · rintro ⟨t, accepted⟩
      obtain ⟨data, holds⟩ := exists_holds_of_accepted accepted
      exact ⟨data, holds, holds.accepted_iff.1 ⟨t, accepted⟩⟩
    · rintro ⟨data, holds, fine⟩
      exact holds.accepted_iff.2 fine
  · by_cases held : ∃ data, Holds v data
    · obtain ⟨data, holds⟩ := held
      obtain ⟨before, e, after, kind, path, eq, fine, offends, shown⟩ := holds.offence refused
      refine .inr ⟨data, before, e, after, kind, path, holds, eq, fine, offends, shown, fun named => ?_⟩
      rw [shown, ← keyFrom_eq_dropWhile, keyFrom_root named]
    · rw [ofDocument_of_not_holds (not_exists.1 held)] at refused
      exact .inl ⟨(Except.error.inj refused).symm, not_exists.1 held⟩

/-- The layout of one locale, with a tag, a list with a list in it, and a value that is missing later. -/
def petDocument : Value :=
  .mapping [(.text "en", .tagged "own" (.mapping [(.text "faker", .mapping
    [(.text "Pet", .mapping [(.int 1, .text "x"), (.text "Names", .sequence [.sequence []])]),
      (.text "Sport", .null)])]))]

theorem ofDocument_law_pet :
    ofDocument petDocument = .error (.nestedList "pet.names") ∧
      ∃ data before e after kind path, Holds petDocument data ∧
        entriesOf [] data = before ++ e :: after ∧ (∀ b ∈ before, b.Fine) ∧ e.Offends kind path ∧
        SourceFault.nestedList "pet.names" = kind (".".intercalate (path.dropWhile (· = ""))) := by
  have refused : ofDocument petDocument = .error (.nestedList "pet.names") := by rfl
  obtain ⟨-, -, reported, -⟩ := ofDocument_law petDocument
  rcases reported _ refused with ⟨other, -⟩ |
    ⟨data, before, e, after, kind, path, holds, eq, fine, offends, shown, -⟩
  · cases other
  · exact ⟨refused, data, before, e, after, kind, path, holds, eq, fine, offends, shown⟩

/-- A value is missing behind the names `""` and `b`. What is reported is the key of another entry, where
nothing is missing. -/
theorem missing_value_misnamed :
    let data : List (Value × Value) :=
      [(.text "", .mapping [(.text "b", .null)]), (.text "b", .text "x")]
    Holds (.mapping data) data ∧ ofDocument (.mapping data) = .error (.missing "b") ∧
      (∃ before e after, entriesOf [] data = before ++ e :: after ∧ (∀ b ∈ before, b.Fine) ∧
        e.Offends .missing ["", "b"]) ∧
      SourceFault.missing "b" ≠ .missing (".".intercalate ["", "b"]) := by
  refine ⟨holds_mapping_iff.2 rfl, rfl, ⟨[⟨[], .text "", .mapping [(.text "b", .null)]⟩],
    ⟨[""], .text "b", .null⟩, [⟨[], .text "b", .text "x"⟩], ?_, ?_, ?_⟩, by decide⟩
  · rfl
  · simp [Entry.Fine, IsScalar, Suits.mapping]
  · exact .value rfl .missing

end Tree

end Figment
