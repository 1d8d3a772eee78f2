import Figment.Check
import Figment.Evaluation
import Figment.Proofs.Data.Loading
import Figment.Proofs.Searching
/-!
Bare names in values, as they are checked and as they are evaluated.

The check looks for the key of a sibling among the keys of a file, and the evaluation for a leaf on the
path that the key stands for. A leaf on the path has this key. The converse needs names that are found
again in the keys made of them.
-/

namespace Figment.Check

/-- The keys among which siblings are sought, one for each value of a file. -/
def keysOf (t : Tree) : List String :=
  (t.leaves.flatMap fun e => e.2.map fun v => (e.1, v)).map (·.1)

/-- Every leaf has a value, and so its key is one of those. -/
theorem mem_keysOf_iff {t : Tree} (h : t.WellFormed) {key : String} :
    key ∈ keysOf t ↔ ∃ values, (key, values) ∈ t.leaves := by
  rw [keysOf, List.mem_map]
  constructor
  · rintro ⟨pair, mem, rfl⟩
    obtain ⟨⟨key, values⟩, leaf, inside⟩ := List.mem_flatMap.1 mem
    obtain ⟨v, _, rfl⟩ := List.mem_map.1 inside
    exact ⟨values, leaf⟩
  · rintro ⟨values, leaf⟩
    obtain ⟨path, found, _⟩ := h.sorted.mem_leaves_iff.1 leaf
    obtain ⟨v, mem⟩ := List.exists_mem_of_ne_nil values (h.leaf?_ne_nil found)
    exact ⟨(key, v), List.mem_flatMap.2 ⟨_, leaf, List.mem_map_of_mem mem⟩, rfl⟩

theorem directiveProblem?_bare_eq_none_iff {keys : List String} {key name : String}
    (h : Builtin.ofName? name = none) :
    directiveProblem? keys key (.builtin name []) = none ↔ siblingKey key name ∈ keys := by
  rw [directiveProblem?_bare, ownProblem?, h]
  simp

end Check

namespace Generator

theorem rootLocale_mem_of_ofText {locale : String} {chain : Chain}
    (h : Chain.ofText locale = .ok chain) : Chain.rootLocale ∈ chain.locales := by
  rw [Chain.ofText] at h
  cases read : Locale.read locale with
  | error e =>
    rw [read] at h
    cases h
  | ok id =>
    rw [read] at h
    cases h
    exact List.mem_eraseDups.2 (List.mem_append_right _ (List.mem_singleton_self _))

/-- A document that is added to a generator without data is all that is found. -/
theorem addText_of_new {locale : String} {maxDepth : Nat} {g : Generator} {text origin : String}
    {t : Tree} (made : Generator.new locale maxDepth false = .ok g)
    (accepted : Tree.ofYaml origin text = .ok t) :
    ∃ g', Generator.addText Chain.rootLocale text g = (.ok (), g') ∧
      ∀ key, g'.lookup key = t.leaf? (Tree.pathOf (Unicode.lower key)) := by
  obtain ⟨chain, ofText, rfl⟩ := new_eq_ok.1 made
  have document : Tree.ofYaml "<string>" text = .ok t :=
    Tree.ofYaml_eq_ok.2 (Tree.ofYaml_eq_ok.1 accepted)
  have normal : (Locale.read Chain.rootLocale).toOption.map Locale.text = some Chain.rootLocale := by
    decide +kernel
  have added : (Addition.text Chain.rootLocale text).added? = some (Chain.rootLocale, t) :=
    Addition.added?_eq_some_iff.2 ⟨document, normal⟩
  refine ⟨_, Addition.perform_of_added added _, fun key => ?_⟩
  exact Store.lookup_ofRoot t (rootLocale_mem_of_ofText ofText) key

end Generator

namespace Eval

theorem siblingKey?_isSome_iff {g : Generator} {trail : Trail} {name category : String}
    (h : Builtin.ofName? name = none) (inside : trail.category? = some category) :
    (siblingKey? g trail name []).isSome ↔ (g.lookup (category ++ "." ++ name)).isSome := by
  change _ ↔ g.hasKey (category ++ "." ++ name) = true
  by_cases known : g.hasKey (category ++ "." ++ name) = true
  · simp [siblingKey?, h, inside, known]
  · simp [siblingKey?, h, inside, known]

end Eval

namespace Check

open Figment.Tree

/-- For a document that is all the data there is, and a bare name that is lowercased behind its
category as it is on its own: if evaluation takes it for a sibling, it passes the check, and the other
way round if no name of the data holds a point or is empty at the root. -/
theorem bare_name_passes_iff_sibling {file text locale : String} {maxDepth : Nat} {t : Tree}
    {g : Generator} (accepted : ofYaml file text = .ok t)
    (made : Generator.new locale maxDepth false = .ok g) :
    ∃ g', Generator.addText Chain.rootLocale text g = (.ok (), g') ∧ ∀ key name trail,
      Builtin.ofName? name = none → trail.category? = some (category key) →
      Unicode.lower (category key ++ "." ++ name) = siblingKey key name →
      (category key ≠ "" → (Eval.siblingKey? g' trail name []).isSome →
        directiveProblem? (keysOf t) key (.builtin name []) = none) ∧
      ((∀ name ∈ t.names, '.' ∉ name.toList) → t.child? "" = none →
        (directiveProblem? (keysOf t) key (.builtin name []) = none ↔
          (Eval.siblingKey? g' trail name []).isSome)) := by
  have root := isRoot_ofYaml accepted
  have sorted := root.wellFormed.sorted
  obtain ⟨g', added, looked⟩ := Generator.addText_of_new made accepted
  refine ⟨g', added, fun key name trail unknown inside spelled => ?_⟩
  rw [directiveProblem?_bare_eq_none_iff unknown, Eval.siblingKey?_isSome_iff unknown inside, looked,
    spelled, mem_keysOf_iff root.wellFormed, Option.isSome_iff_exists]
  have listed {values : List String} (leaf : t.leaf? (pathOf (siblingKey key name)) = some values)
      (first : (pathOf (siblingKey key name)).head? ≠ some "") :
      ∃ values, (siblingKey key name, values) ∈ t.leaves :=
    ⟨values, mem_leaves_of_pathOf sorted leaf first⟩
  have path : pathOf (siblingKey key name) = category key :: pathOf (Unicode.lower name) :=
    pathOf_append (point_not_mem_category key) _
  refine ⟨?_, fun undotted rooted => ⟨?_, ?_⟩⟩
  · rintro named ⟨values, leaf⟩
    refine listed leaf ?_
    rw [path]
    simpa using named
  · rintro ⟨values, mem⟩
    exact ⟨values, leaf?_pathOf_of_mem_leaves root.table undotted rooted sorted mem⟩
  · rintro ⟨values, leaf⟩
    exact listed leaf (head?_ne_of_leaf? rooted leaf)

def petFile : String :=
  "Pet:\n  kind: [cat, dog]\n  line: \"a #\x7bKIND\x7d\"\n"

/-- The check and the evaluation of a name in capitals. -/
theorem bare_name_passes_iff_sibling_pet :
    ∃ t g g', ofYaml "pet.yml" petFile = .ok t ∧ Generator.new "de_AT" 64 false = .ok g ∧
      Generator.addText Chain.rootLocale petFile g = (.ok (), g') ∧
      directiveProblem? (keysOf t) "pet.line" (.builtin "KIND" []) = none ∧
      (Eval.siblingKey? g' (g'.newTrail.enter "pet.line") "KIND" []).isSome := by
  have facts : ((ofYaml "pet.yml" petFile).toOption.any fun t =>
      (t.names.all fun name => '.' ∉ name.toList) && ((t.child? "").isNone &&
        decide (directiveProblem? (keysOf t) "pet.line" (.builtin "KIND" []) = none))) = true := by
    decide +kernel
  have made : Generator.new "de_AT" 64 false =
      .ok ⟨⟨["de-AT", "de", "en"]⟩, 64, Store.empty, Generator.standardProviders, .empty⟩ :=
    Generator.new_eq_ok.2 ⟨_, by rfl, rfl⟩
  cases accepted : ofYaml "pet.yml" petFile with
  | error e =>
    rw [accepted] at facts
    cases facts
  | ok t =>
    rw [accepted] at facts
    obtain ⟨undotted, rest⟩ := Bool.and_eq_true_iff.1 facts
    obtain ⟨rooted, passes⟩ := Bool.and_eq_true_iff.1 rest
    obtain ⟨g', added, agree⟩ := bare_name_passes_iff_sibling accepted made
    obtain ⟨_, iff⟩ := agree "pet.line" "KIND" (g'.newTrail.enter "pet.line") (by decide +kernel)
      rfl (by decide +kernel)
    have passes := of_decide_eq_true passes
    refine ⟨t, _, g', rfl, made, added, passes, (iff ?_ (Option.isNone_iff_eq_none.1 rooted)).1 passes⟩
    simpa using undotted

/-- A file that passes although a name in it is unknown, because the key of another leaf looks the
same or because of a capital sigma, and one in which a sibling is not found under an empty name. -/
theorem bare_name_passes_without_sibling :
    let messages (text : String) := (fileIssues "f.yml" (.ok text)).map (·.message)
    let value (text key : String) :=
      (Generator.new "en" 64 false).toOption.bind fun g =>
        let loaded := Generator.addText "en" text g
        loaded.1.toOption.map fun _ => (loaded.2.resolve key (Source.scripted [0])).1
    let dotted := "a:\n  x: \"#\x7bb\x7d\"\n\"a.b\": y\n"
    let sigma := "a:\n  x: \"#\x7bΣ\x7d\"\n  σ: y\n"
    let empty := "\"\":\n  \"\": \"#\x7bb\x7d\"\n  b: y\n"
    messages dotted = [] ∧ value dotted "a.x" = some (.error (.unknownBuiltin "b" [])) ∧
      messages sigma = [] ∧ value sigma "a.x" = some (.error (.unknownBuiltin "Σ" [])) ∧
      messages empty = ["unknown builtin 'b'"] ∧ value empty "." = some (.ok "y") := by
  decide +kernel

end Check

end Figment
