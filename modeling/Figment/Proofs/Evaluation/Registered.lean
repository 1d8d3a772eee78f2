import Figment.Proofs.Data.Keys
import Figment.Proofs.Evaluation.Literal
import Figment.Proofs.Evaluation.Pieces
import Figment.Proofs.Naming
import Figment.Proofs.Registration
/-!
Directives that name a registered category.

A category looks for its values under a key that it builds from its own name, while the data is
found under the key as it is written. Where the two are one key, the directive is the value at that
key, one level deeper, evaluated once more. Where they are not, there is data that the directive
does not reach.
-/

namespace Figment

namespace Generator

/-- A generator with one value. -/
def single (key value : String) : Generator where
  chain := .root
  maxDepth := Trail.defaultLimit
  store := Store.empty.merge Chain.rootLocale (.single value (Tree.pathOf (Unicode.lower key)))
  registry := standardProviders
  instances := .empty

theorem hasKey_single (key value other : String) :
    (single key value).hasKey other = true ↔ Unicode.lower other = Unicode.lower key := by
  have tree : (single key value).store.tree? Chain.rootLocale =
      some (.single value (Tree.pathOf (Unicode.lower key))) :=
    Store.tree?_merge_self Store.empty Chain.rootLocale _
  have found : (single key value).lookup other =
      (Tree.single value (Tree.pathOf (Unicode.lower key))).leaf?
        (Tree.pathOf (Unicode.lower other)) := by
    change [Chain.rootLocale].findSome? (fun locale =>
      ((single key value).store.tree? locale).bind
        (·.leaf? (Tree.pathOf (Unicode.lower other)))) = _
    rw [List.findSome?_singleton, tree, Option.bind_some]
  rw [hasKey, found, Tree.leaf?_single]
  by_cases same : Unicode.lower other = Unicode.lower key
  · simp [same]
  · simp [same, Tree.pathOf_injective.eq_iff]

@[simp] theorem hasKey_registerCategory (g : Generator) (name key : String) :
    (g.registerCategory name).hasKey key = g.hasKey key := rfl

theorem hasKey_congr (g : Generator) {key other : String}
    (h : Unicode.lower key = Unicode.lower other) : g.hasKey key = g.hasKey other := by
  unfold hasKey lookup Store.lookup
  rw [h]

end Generator

namespace Eval

/-- The key of a method of a registered category, as the category builds it. -/
def categoryKey (name method : String) : String :=
  Name.category name ++ "." ++ method

theorem resolve_congr (g : Generator) (directive : Directive → Eval String) {key other : String}
    (h : Unicode.lower key = Unicode.lower other) :
    resolve g directive key = resolve g directive other := by
  unfold resolve
  rw [h]

theorem call_of_registered {g : Generator} {name method : String} (t : Trail)
    (registered : g.registry.get name = .ok (.ofCategory name))
    (snaked : Name.snake method = method) :
    call g t (.provider name method []) [] =
      if g.hasKey (categoryKey name method) then .key (categoryKey name method)
      else .refuse (.unknownMethod (Name.category name) method) := by
  rw [call, registered, snaked]
  rfl

section Plain

variable {g : Generator} {d : Directive} {p : Progress} (plain : d.args = [])
  (below : p.trail.depth < p.trail.limit)
include plain below

theorem evalDirective_of_key {key : String}
    (called : call g (opened p d.label).trail d [] = .key key) :
    g.evalDirective d p = (do
      let value ← g.resolveIn key
      let output ← g.evalText value
      move (·.pop)
      return output) (opened p d.label) := by
  rw [evalDirective_of_literals [] plain below, called]
  rfl

theorem evalDirective_of_refuse {e : Failure}
    (called : call g (opened p d.label).trail d [] = .refuse e) :
    g.evalDirective d p = (.error e, opened p d.label) := by
  rw [evalDirective_of_literals [] plain below, called]
  rfl

end Plain

/-- Where the key that a category builds is the key as it is written, the directive is the value at
this key, one level deeper, evaluated once more. -/
theorem evalDirective_of_registered {g : Generator} {before : Registry}
    {later : List (String × Provider)} {name method : String} {p : Progress}
    (registered : g.registry = (before.register name (.ofCategory name)).registerAll later)
    (last : ∀ e ∈ later, Name.normal e.1 ≠ Name.normal name) (snaked : Name.snake method = method)
    (reached : '_' ∉ name.toList ∧ Name.SigmaInside name method)
    (found : g.hasKey (name ++ "." ++ method) = true) (below : p.trail.depth < p.trail.limit) :
    let d := Directive.provider name method []
    g.evalDirective d p = (do
      let value ← g.resolveIn (name ++ "." ++ method)
      let output ← g.evalText value
      move (·.pop)
      return output) (opened p d.label) := by
  intro d
  have same : Unicode.lower (categoryKey name method) = Unicode.lower (name ++ "." ++ method) :=
    (Name.lower_category_key_iff snaked).2 reached
  have called : call g (opened p d.label).trail d [] = .key (categoryKey name method) := by
    rw [call_of_registered _ (Registry.get_of_registered registered last) snaked,
      g.hasKey_congr same, if_pos found]
  have value : g.resolveIn (categoryKey name method) = g.resolveIn (name ++ "." ++ method) := by
    unfold Generator.resolveIn
    simp only [resolve_congr g _ same]
  rw [evalDirective_of_key rfl below called, value]

/-- A category whose name holds an underscore, or a capital sigma that ends a word of the key, is
refused where there is nothing but the value that the directive names. -/
theorem evalDirective_single_of_lost (name method value : String) (p : Progress)
    (snaked : Name.snake method = method)
    (lost : ¬ ('_' ∉ name.toList ∧ Name.SigmaInside name method))
    (below : p.trail.depth < p.trail.limit) :
    let d := Directive.provider name method []
    let g := (Generator.single (name ++ "." ++ method) value).registerCategory name
    g.hasKey (name ++ "." ++ method) = true ∧
      g.evalDirective d p =
        (.error (.unknownMethod (Name.category name) method), opened p d.label) := by
  intro d g
  have keys (key : String) : g.hasKey key = true ↔
      Unicode.lower key = Unicode.lower (name ++ "." ++ method) := by
    rw [Generator.hasKey_registerCategory, Generator.hasKey_single]
  have missing : ¬ g.hasKey (categoryKey name method) = true := by
    rw [keys]
    exact fun same => lost ((Name.lower_category_key_iff snaked).1 same)
  have registered : g.registry.get name = .ok (.ofCategory name) :=
    Registry.get_of_get? (Registry.get?_register_of_eq _ _ rfl)
  refine ⟨(keys _).2 rfl, evalDirective_of_refuse rfl below ?_⟩
  rw [call_of_registered _ registered snaked, if_neg missing]

/-- A directive whose category builds the key as it is written fails only where the evaluation of the
value at the key, or that of its output, does, and it is this value if no directive is marked in it. For
all other names there is data at the key that the directive does not reach. -/
theorem registered_category_reachable (name method : String) (p : Progress)
    (snaked : Name.snake method = method) (below : p.trail.depth < p.trail.limit) :
    let d := Directive.provider name method []
    let key := name ++ "." ++ method
    ('_' ∉ name.toList ∧ Name.SigmaInside name method →
      ∀ (g : Generator) (before : Registry) (later : List (String × Provider)),
        g.registry = (before.register name (.ofCategory name)).registerAll later →
        (∀ e ∈ later, Name.normal e.1 ≠ Name.normal name) → g.hasKey key = true →
        let start := g.resolveIn key (opened p d.label)
        (∀ e q, g.evalDirective d p = (.error e, q) → start = (.error e, q) ∨
          ∃ s r, start = (.ok s, r) ∧ g.evalText s r = (.error e, q)) ∧
        ∀ s q, start = (.ok s, q) → Template.hasMark s.toList = false →
          g.evalDirective d p = (.ok s, { q with trail := p.trail })) ∧
    (¬ ('_' ∉ name.toList ∧ Name.SigmaInside name method) → ∀ value,
      let g := (Generator.single key value).registerCategory name
      g.hasKey key = true ∧
        g.evalDirective d p =
          (.error (.unknownMethod (Name.category name) method), opened p d.label)) := by
  intro d key
  refine ⟨fun reached g before later registered last found => ?_, fun lost value =>
    evalDirective_single_of_lost name method value p snaked lost below⟩
  intro start
  have value : start = g.resolveIn key (opened p d.label) := rfl
  rw [evalDirective_of_registered registered last snaked reached found below]
  constructor
  · intro e q eq
    rcases bind_eq_error eq with first | ⟨s, r, first, eq⟩
    · exact .inl (value.trans first)
    · refine .inr ⟨s, r, value.trans first, ?_⟩
      rcases bind_eq_error eq with second | ⟨output, t, _, eq⟩
      · exact second
      · cases eq
  · intro s q first unmarked
    have kept : q.trail = (opened p d.label).trail :=
      keeps_output g _ (.key key) _ s q first
    have closed : q.trail.pop = p.trail := by rw [kept]; rfl
    rw [bind_of_ok (value.symm.trans first), bind_of_ok (g.evalText_of_unmarked unmarked q), ← closed]
    rfl

def dayLogGenerator : Generator :=
  ((Generator.single "daylog.sky" "cloudy").registerCategory "DayLog").register "Number" .numbers

/-- A category of two words, and a provider registered after it. -/
theorem registered_category_reachable_day_log :
    let p : Progress := ⟨.new 1, Source.scripted [], 0⟩
    dayLogGenerator.hasKey "DayLog.sky" = true ∧
      ∃ q, dayLogGenerator.resolveIn "DayLog.sky" (opened p "DayLog.sky") = (.ok "cloudy", q) ∧
        dayLogGenerator.evalDirective (.provider "DayLog" "sky" []) p =
          (.ok "cloudy", { q with trail := p.trail }) := by
  intro p
  have last : ∀ e ∈ [("Number", Provider.numbers)], Name.normal e.1 ≠ Name.normal "DayLog" := by
    decide +kernel
  have found : dayLogGenerator.hasKey "DayLog.sky" = true := by
    decide +kernel
  have value : (dayLogGenerator.resolveIn "DayLog.sky" (opened p "DayLog.sky")).1 =
      .ok "cloudy" := by
    decide +kernel
  obtain ⟨q, rest⟩ : ∃ q, (dayLogGenerator.resolveIn "DayLog.sky" (opened p "DayLog.sky")).2 = q :=
    ⟨_, rfl⟩
  have done : dayLogGenerator.resolveIn "DayLog.sky" (opened p "DayLog.sky") = (.ok "cloudy", q) :=
    Prod.ext value rest
  obtain ⟨reachable, _⟩ := registered_category_reachable "DayLog" "sky" p (by decide +kernel) (by decide)
  have outcomes := reachable ⟨by decide, Name.sigmaInside_of_not_mem (by decide) "sky"⟩ dayLogGenerator
    Generator.standardProviders [("Number", .numbers)] rfl last found
  exact ⟨found, q, done, outcomes.2 "cloudy" q done (by decide)⟩

def telephoneGenerator : Generator :=
  Generator.registerCategory ⟨.root, Trail.defaultLimit, Bundled.store, Generator.standardProviders,
    .empty⟩ "phone_number"

def telephoneStart : Progress :=
  ⟨telephoneGenerator.newTrail, .scripted (List.replicate 11 0), 0⟩

/-- A category of the bundled data that is not reached under its own name. -/
theorem registered_category_lost :
    telephoneGenerator.hasKey "phone_number.formats" = true ∧
      Name.snake "formats" = "formats" ∧
      (telephoneGenerator.resolveIn "phone_number.formats"
        (opened telephoneStart "phone_number.formats")).1 = .ok "000-000-0000" ∧
      (telephoneGenerator.evalDirective (.provider "phone_number" "formats" [])
        telephoneStart).1 = .error (.unknownMethod "phonenumber" "formats") := by
  decide +kernel

end Eval

end Figment
