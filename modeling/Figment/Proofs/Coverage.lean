import Figment.Command.Answer
import Figment.Proofs.Data.Conversion
import Figment.Proofs.Data.Listing
import Figment.Proofs.Distinct
/-!
What is reported of the coverage of data.

Source and target are compared as sets of keys. Where the keys of the mappings in both documents are not
empty and hold no point, the key of a leaf stands for the path to it, so that the report is about the
leaves of two trees: a key is missing if its path leads to no leaf of the target, be it that the path
ends in a table or that a leaf of the target cuts it short.
-/

namespace Figment

namespace Tree

open Yaml (Value)

/-- No key of a mapping is empty or holds a point, in entries and in all that stands in their values. -/
def PlainKeys (entries : List (Value × Value)) : Prop :=
  ∀ e ∈ entriesOf [] entries, ∀ name ∈ scalarText? e.key, name ≠ "" ∧ '.' ∉ name.toList

instance (entries : List (Value × Value)) : Decidable (PlainKeys entries) :=
  inferInstanceAs (Decidable (∀ e ∈ _, ∀ name ∈ scalarText? _, _))

/-- An entry of a mapping is among the entries in it, and so are those in its value. -/
theorem mem_entriesOf {k v : Value} {entries : List (Value × Value)} (mem : (k, v) ∈ entries)
    (above : List String) {e : Entry}
    (h : e = ⟨above, k, v⟩ ∨ e ∈ entriesIn (above ++ (nameOf? k).toList) v) :
    e ∈ entriesOf above entries := by
  induction entries with
  | nil => cases mem
  | cons first rest ih =>
    rw [entriesOf, List.mem_cons, List.mem_append]
    rcases List.mem_cons.1 mem with rfl | later
    · exact h.imp_right .inl
    · exact .inr (.inr (ih later))

/-- Every name in a tree is the name of a key in the value it describes. -/
theorem Describes.exists_entry {v : Value} {t : Tree} (h : Describes v t) {name : String}
    (mem : name ∈ t.names) (above : List String) :
    ∃ e ∈ entriesIn above v, nameOf? e.key = some name := by
  induction h generalizing above with
  | scalar _ => cases mem
  | list _ => cases mem
  | tagged _ ih => exact ih mem above
  | @table entries es ordered named _ ih =>
    obtain ⟨⟨first, u⟩, entry, origin⟩ := exists_of_mem_namesOf mem
    have found := ordered.find?_eq_some_iff.2 entry
    obtain ⟨w, last⟩ := (named first).1 (found ▸ rfl)
    have ⟨before, k, after, split, called, _⟩ := last
    have inside : (k, w) ∈ entries := by simp [split]
    rcases origin with rfl | below
    · exact ⟨⟨above, k, w⟩, mem_entriesOf inside above (.inl rfl), called⟩
    · obtain ⟨e, within, spelled⟩ := ih first w u last found below (above ++ (nameOf? k).toList)
      exact ⟨e, mem_entriesOf inside above (.inr within), spelled⟩

/-- A document with such keys is made into a tree whose names are found again in the keys of its leaves. -/
theorem isPlain_of_plainKeys {origin text : String} {v : Value} {t : Tree}
    (read : Value.ofText? text = some v) (accepted : ofYaml origin text = .ok t)
    (plain : PlainKeys (rootEntries v)) : t.IsPlain := by
  have root := isRoot_ofYaml accepted
  refine ⟨root.table, root.wellFormed.sorted, fun name mem => ?_⟩
  obtain ⟨v', read', converted⟩ := ofYaml_eq_ok.1 accepted
  cases read.symm.trans read'
  have described := describes_ofValue (.mapping (rootEntries v))
    (ofValue_mapping_eq_ok.2 (ofEntries_of_ofDocument converted))
  obtain ⟨e, inside, called⟩ := described.exists_entry mem []
  obtain ⟨spelled, scalar, rfl⟩ := Option.map_eq_some_iff.1 called
  obtain ⟨nonempty, undotted⟩ := plain e inside spelled scalar
  refine ⟨fun empty => nonempty ?_, fun point => undotted (Unicode.point_mem_lower_iff.1 point)⟩
  simpa using (Unicode.lower_eq_iff (by simp)).1 empty

theorem length_keys (t : Tree) : t.keys.length = t.leafPaths.length := by
  rw [keys, List.length_mergeSort, List.length_map, leaves_eq, List.length_map]

theorem IsPlain.keysOf_eq {t : Tree} (h : t.IsPlain) : Coverage.keysOf t = t.keys :=
  eraseDups_of_nodup (h.pairwise_keys.imp fun lt => String.ne_of_lt lt)

end Tree

namespace Coverage

/-- What a report says about the leaves of two trees. -/
structure Compares (source target : Tree) (c : Coverage) : Prop where
  ascending : c.missing.Pairwise (· < ·)
  mem_missing : ∀ key, key ∈ c.missing ↔ ∃ path,
    (source.leaf? path).isSome ∧ target.leaf? path = none ∧ ".".intercalate path = key
  source_leaves : c.covered + c.missing.length = source.leafPaths.length
  target_leaves : c.covered + c.extra = target.leafPaths.length

variable (source target : List String) (locale : String)

theorem covered_add_missing :
    (of source locale target).covered + (of source locale target).missing.length = source.length := by
  simpa [of] using (List.length_eq_length_filter_add (l := source) (· ∈ target)).symm

theorem covered_add_extra (hs : source.Nodup) (ht : target.Nodup) :
    (of source locale target).covered + (of source locale target).extra = target.length := by
  have common : (source.filter (· ∈ target)).Perm (target.filter (· ∈ source)) := by
    refine (List.perm_ext_iff_of_nodup (hs.filter _) (ht.filter _)).2 fun key => ?_
    simp [and_comm]
  rw [of, common.length_eq]
  simpa using (List.length_eq_length_filter_add (l := target) (· ∈ source)).symm

theorem compares_of {s t : Tree} (hs : s.IsPlain) (ht : t.IsPlain) :
    (of s.keys locale t.keys).Compares s t where
  ascending := hs.pairwise_keys.filter _
  mem_missing key := by
    rw [of, List.mem_filter, decide_eq_true_iff, hs.mem_keys_iff, ht.mem_keys_iff,
      Option.not_isSome_iff_eq_none]
    constructor
    · rintro ⟨leaf, none⟩
      exact ⟨Tree.pathOf key, leaf, none, Tree.intercalate_pathOf key⟩
    · rintro ⟨path, leaf, none, rfl⟩
      obtain ⟨values, found⟩ := Option.isSome_iff_exists.1 leaf
      rw [hs.pathOf_intercalate found]
      exact ⟨leaf, none⟩
  source_leaves := by rw [covered_add_missing, s.length_keys]
  target_leaves := by
    rw [covered_add_extra _ _ _ (hs.pairwise_keys.imp String.ne_of_lt)
      (ht.pairwise_keys.imp String.ne_of_lt), t.length_keys]

theorem Compares.isComplete_eq_false_iff {s t : Tree} {c : Coverage} (h : c.Compares s t) :
    c.isComplete = false ↔ ∃ path, (s.leaf? path).isSome ∧ t.leaf? path = none := by
  rw [isComplete, List.isEmpty_eq_false_iff_exists_mem]
  constructor
  · rintro ⟨key, mem⟩
    obtain ⟨path, leaf, none, -⟩ := (h.mem_missing key).1 mem
    exact ⟨path, leaf, none⟩
  · rintro ⟨path, leaf, none⟩
    exact ⟨_, (h.mem_missing _).2 ⟨path, leaf, none, rfl⟩⟩

end Coverage

namespace Command

open Yaml (Value)

/-- The file belongs to the locale, in normal form, and its text is a document with plain keys that is
made into the tree. -/
structure Loads (w : World) (f : LocaleFile) (locale : String) (t : Tree) : Prop where
  named : (Chain.ofText f.locale).map (·.primary) = .ok locale
  described : ∃ text v, w.read f.path = .ok text ∧ Value.ofText? text = some v ∧
    Tree.ofYaml f.path text = .ok t ∧ Tree.PlainKeys (Tree.rootEntries v)

namespace Loads

variable {w : World} {f : LocaleFile} {locale : String} {t : Tree} (h : Loads w f locale t)
include h

theorem isPlain : t.IsPlain := by
  obtain ⟨text, v, -, read, accepted, plain⟩ := h.described
  exact Tree.isPlain_of_plainKeys read accepted plain

theorem keysOfFile_eq : keysOfFile w f = .ok (locale, t.keys) := by
  obtain ⟨text, v, content, -, accepted, -⟩ := h.described
  have named := h.named
  rw [keysOfFile]
  cases chain : Chain.ofText f.locale with
  | error e =>
    rw [chain] at named
    cases named
  | ok c =>
    rw [chain] at named
    cases named
    simp [content, accepted, h.isPlain.keysOf_eq]
    rfl

end Loads

/-- The report on a file. One that cannot be loaded is taken to have no keys. -/
def report (w : World) (source : List String) (f : LocaleFile) : Coverage :=
  match keysOfFile w f with
  | .ok (locale, keys) => .of source locale keys
  | .error _ => .of source f.locale []

theorem Loads.report_eq {w : World} {f : LocaleFile} {locale : String} {t : Tree}
    (h : Loads w f locale t) (source : List String) : report w source f = .of source locale t.keys := by
  rw [report, h.keysOfFile_eq]

theorem mapM_eq_ok_map {ε α β : Type} {f : α → Except ε β} {g : α → β} {as : List α}
    (h : ∀ a ∈ as, f a = .ok (g a)) : as.mapM f = .ok (as.map g) := by
  induction as with
  | nil => rfl
  | cons a as ih =>
    rw [List.mapM_cons, h a List.mem_cons_self, ih fun b mem => h b (List.mem_cons_of_mem a mem)]
    rfl

section Requests

variable {w : World} {source : LocaleFile} {targets : List LocaleFile} {home : String} {s : Tree}
  (loaded : Loads w source home s)
include loaded

theorem Loads.compares_report {f : LocaleFile} {locale : String} {t : Tree} (target : Loads w f locale t) :
    (report w s.keys f).Compares s t := by
  rw [target.report_eq]
  exact Coverage.compares_of _ loaded.isPlain target.isPlain

/-- Targets that load are reported on one by one. -/
theorem coverages_eq (all : ∀ f ∈ targets, ∃ locale t, Loads w f locale t) (strict json : Bool) :
    coverages w ⟨source, targets, strict, json⟩ =
      .ok (s.leafPaths.length, targets.map (report w s.keys)) := by
  rw [coverages, loaded.keysOfFile_eq, ← s.length_keys]
  -- The source is loaded; what is left are the targets.
  change (do return (s.keys.length, ← targets.mapM _) : Except LoadFailure _) = _
  rw [mapM_eq_ok_map (g := report w s.keys)]
  · rfl
  · intro f mem
    obtain ⟨locale, t, target⟩ := all f mem
    rw [target.keysOfFile_eq, target.report_eq]
    rfl

theorem exists_incomplete_iff (all : ∀ f ∈ targets, ∃ locale t, Loads w f locale t) :
    (targets.map (report w s.keys)).all (·.isComplete) = false ↔ ∃ f ∈ targets, ∃ locale t path,
      Loads w f locale t ∧ (s.leaf? path).isSome ∧ t.leaf? path = none := by
  rw [List.all_map, List.all_eq_false]
  constructor
  · rintro ⟨f, target, lacks⟩
    obtain ⟨locale, t, h⟩ := all f target
    have incomplete := Bool.eq_false_of_not_eq_true lacks
    obtain ⟨path, differs⟩ := (loaded.compares_report h).isComplete_eq_false_iff.1 incomplete
    exact ⟨f, target, locale, t, path, h, differs⟩
  · rintro ⟨f, target, locale, t, path, h, differs⟩
    have incomplete := (loaded.compares_report h).isComplete_eq_false_iff.2 ⟨path, differs⟩
    exact ⟨f, target, Bool.not_eq_true _ ▸ incomplete⟩

/-- The reports on targets that load are those on the targets one by one, whatever the others are. Each
lists the keys of the leaves of the source that are no leaves of the target, and counts the leaves of
both. A strict request fails with the exit code for bad data exactly if a target misses a key. -/
theorem coverage_law :
    ∃ report : LocaleFile → Coverage,
      (∀ f locale t, Loads w f locale t →
        (report f).locale = locale ∧ (report f).Compares s t) ∧
      ∀ targets strict json, (∀ f ∈ targets, ∃ locale t, Loads w f locale t) →
        let r : CoverageRequest := ⟨source, targets, strict, json⟩
        let total := s.leafPaths.length
        let reports := targets.map report
        coverages w r = .ok (total, reports) ∧
        (answer w (.coverage r)).output =
          (if json then (Json.Value.array (reports.map (coverageJson total))).render ++ "\n"
          else Coverage.table total reports ++ "\n" ++ String.join (reports.map (·.missingList))) ∧
        ((answer w (.coverage r)).code = 65 ∨ (answer w (.coverage r)).code = 0) ∧
        ((answer w (.coverage r)).code = 65 ↔ strict = true ∧ ∃ f ∈ targets, ∃ locale t path,
          Loads w f locale t ∧ (s.leaf? path).isSome ∧ t.leaf? path = none) := by
  refine ⟨report w s.keys, fun f locale t target => ⟨?_, loaded.compares_report target⟩, ?_⟩
  · rw [target.report_eq]
    rfl
  · intro targets strict json all r total reports
    have reported : coverages w r = .ok (total, reports) := coverages_eq loaded all strict json
    have answered : answer w (.coverage r) =
        { code := if strict && !reports.all (·.isComplete) then 65 else 0
          output :=
            if json then (Json.Value.array (reports.map (coverageJson total))).render ++ "\n"
            else Coverage.table total reports ++ "\n" ++ String.join (reports.map (·.missingList)) } := by
      rw [answer, answerCoverage, reported]
      rfl
    refine ⟨reported, by rw [answered], ?_, ?_⟩
    · rw [answered]
      dsimp only
      split
      · exact .inl rfl
      · exact .inr rfl
    · rw [answered, ← exists_incomplete_iff loaded all]
      simp [reports]

end Requests

/-- Files for a source and two targets. Where the source has a table the first target has a leaf, and the
second one the other way round. -/
def petWorld : World where
  read path :=
    if path = "en.yml" then .ok "Pet:\n  name: [Rex, Tom]\n  kind: cat\ncity: Rome\n"
    else if path = "de.yml" then .ok "pet: Rex\nCity: Rom\n"
    else .ok "fr:\n  faker:\n    city: \x7bname: a\x7d\n    pet: \x7bNAME: Rex, kind: chat\x7d\n"
  seed := 0

theorem exists_loads {w : World} {f : LocaleFile} {locale text : String} (p : Tree → Bool)
    (named : (Chain.ofText f.locale).map (·.primary) = .ok locale) (read : w.read f.path = .ok text)
    (fine : (Value.ofText? text).any fun v =>
      (Tree.ofDocument v).toOption.any p && decide (Tree.PlainKeys (Tree.rootEntries v))) :
    ∃ t, Loads w f locale t ∧ p t = true := by
  obtain ⟨v, document, fine⟩ := (Option.any_eq_true _ _).1 fine
  obtain ⟨made, plain⟩ := Bool.and_eq_true_iff.1 fine
  cases accepted : Tree.ofDocument v with
  | error fault =>
    rw [accepted] at made
    cases made
  | ok t =>
    rw [accepted] at made
    exact ⟨t, ⟨named, text, v, read, document, Tree.ofYaml_eq_ok.2 ⟨v, document, accepted⟩,
      of_decide_eq_true plain⟩, made⟩

theorem coverage_law_pets :
    let source : LocaleFile := ⟨"en", "en.yml"⟩
    let r : CoverageRequest := ⟨source, [⟨"DE", "de.yml"⟩, ⟨"fr_CA", "fr.yml"⟩], true, false⟩
    ∃ s german french, Loads petWorld source "en" s ∧
      coverages petWorld r = .ok (3, [german, french]) ∧
      german.locale = "de" ∧ "pet.kind" ∈ german.missing ∧ "pet.name" ∈ german.missing ∧
      french.locale = "fr-CA" ∧ "city" ∈ french.missing ∧
      french.covered + french.missing.length = 3 ∧ french.covered + french.extra = 3 ∧
      (answer petWorld (.coverage r)).code = 65 := by
  intro source r
  obtain ⟨s, loaded, hs⟩ : ∃ s, Loads petWorld ⟨"en", "en.yml"⟩ "en" s ∧ _ :=
    exists_loads (fun s => s.leafPaths.length == 3 && ((s.leaf? ["city"]).isSome &&
      ((s.leaf? ["pet", "kind"]).isSome && (s.leaf? ["pet", "name"]).isSome)))
      (by rfl) rfl (by decide +kernel)
  obtain ⟨t, german, ht⟩ : ∃ t, Loads petWorld ⟨"DE", "de.yml"⟩ "de" t ∧ _ :=
    exists_loads (fun t => (t.leaf? ["pet", "kind"]).isNone && (t.leaf? ["pet", "name"]).isNone)
      (by rfl) rfl (by decide +kernel)
  obtain ⟨u, french, hu⟩ : ∃ u, Loads petWorld ⟨"fr_CA", "fr.yml"⟩ "fr-CA" u ∧ _ :=
    exists_loads (fun u => u.leafPaths.length == 3 && (u.leaf? ["city"]).isNone)
      (by rfl) rfl (by decide +kernel)
  simp only [Bool.and_eq_true, beq_iff_eq, Option.isNone_iff_eq_none] at hs ht hu
  obtain ⟨total, city, kind, name⟩ := hs
  obtain ⟨report, each, whole⟩ := coverage_law loaded
  obtain ⟨reported, -, -, code⟩ := whole r.targets true false <| by
    simp only [r, List.forall_mem_cons]
    exact ⟨⟨_, t, german⟩, ⟨_, u, french⟩, nofun⟩
  obtain ⟨inGermany, leaves⟩ := each _ _ t german
  obtain ⟨inCanada, leaves'⟩ := each _ _ u french
  refine ⟨s, _, _, loaded, total ▸ reported, inGermany, ?_, ?_, inCanada, ?_, ?_, ?_, ?_⟩
  · exact (leaves.mem_missing _).2 ⟨["pet", "kind"], kind, ht.1, rfl⟩
  · exact (leaves.mem_missing _).2 ⟨["pet", "name"], name, ht.2, rfl⟩
  · exact (leaves'.mem_missing _).2 ⟨["city"], city, hu.2, rfl⟩
  · exact total ▸ leaves'.source_leaves
  · exact hu.1 ▸ leaves'.target_leaves
  · exact code.2 ⟨rfl, _, List.mem_cons_self, _, t, _, german, kind, ht.1⟩

end Command

end Figment
