import Figment.Generator
import Figment.Proofs.Data.Overlay
/-!
The data of a generator after any calls that add data.

What a call adds depends on the call alone: a document, and a locale in its normal form. A call that
fails adds nothing. The tree of a locale is made of the documents that were added to it, in their
order, so that the order of calls to different locales does not matter.
-/

namespace Figment

/-- The bundled documents with their locales, in the order in which they are added. -/
def Bundled.sources : List (String × Tree) :=
  [("en", english), ("en-GB", british), ("de", german)]

-- Their locales are in normal form.
example : ∀ e ∈ Bundled.sources, (Locale.read e.1).toOption.map Locale.text = some e.1 := by
  decide +kernel

/-- The store that documents make when each is added to its locale. -/
def Store.ofHistory (history : List (String × Tree)) : Store :=
  history.foldl (fun s e => s.merge e.1 e.2) .empty

/-- The documents that a history has for a locale. -/
def documentsFor (locale : String) (history : List (String × Tree)) : List Tree :=
  (history.filter (·.1 = locale)).map (·.2)

theorem documentsFor_append (locale : String) (front back : List (String × Tree)) :
    documentsFor locale (front ++ back) =
      documentsFor locale front ++ documentsFor locale back := by
  rw [documentsFor, List.filter_append, List.map_append, documentsFor, documentsFor]

theorem documentsFor_self (locale : String) (t : Tree) : documentsFor locale [(locale, t)] = [t] := by
  simp [documentsFor]

theorem documentsFor_of_ne {locale other : String} (t : Tree) (h : other ≠ locale) :
    documentsFor locale [(other, t)] = [] := by
  simp [documentsFor, h]

theorem Store.tree?_ofHistory (history : List (String × Tree)) (locale : String) :
    (Store.ofHistory history).tree? locale = Tree.layered (documentsFor locale history) := by
  induction history using List.reverseRecOn with
  | nil => rfl
  | append_singleton history e ih =>
    obtain ⟨target, t⟩ := e
    have last : Store.ofHistory (history ++ [(target, t)]) =
        (Store.ofHistory history).merge target t := by
      rw [Store.ofHistory, List.foldl_append]
      rfl
    rw [last, documentsFor_append]
    by_cases same : target = locale
    · subst same
      rw [Store.tree?_merge_self, ih, documentsFor_self]
      exact (Tree.layered_concat _ t).symm
    · rw [Store.tree?_merge_of_ne _ _ (Ne.symm same), ih, documentsFor_of_ne t same,
        List.append_nil]

/-- A call that adds data. A file comes with its content, or with the reason why it cannot be
read. -/
inductive Addition where
  | text (locale yaml : String)
  | file (locale path : String) (content : Except String String)

namespace Addition

def perform : Addition → Setup Unit
  | text locale yaml => Generator.addText locale yaml
  | file locale path content => Generator.addFile locale path content

def document : Addition → Except LoadFailure Tree
  | text _ yaml => Tree.ofYaml "<string>" yaml
  | file _ path (.ok yaml) => Tree.ofYaml path yaml
  | file _ path (.error reason) => .error (.unreadable path reason)

/-- The locale as it is given. -/
def given : Addition → String
  | text locale _ => locale
  | file locale _ _ => locale

/-- The normal form of the locale that is given, if it is one. -/
def locale? (a : Addition) : Option String :=
  (Locale.read a.given).toOption.map Locale.text

/-- What a call adds, and to which locale. -/
def added? (a : Addition) : Option (String × Tree) :=
  match a.document with
  | .ok t => a.locale?.map (·, t)
  | .error _ => none

theorem locale?_eq_some_iff {a : Addition} {locale : String} :
    a.locale? = some locale ↔ ∃ id, Locale.read a.given = .ok id ∧ id.text = locale := by
  unfold locale?
  cases Locale.read a.given with
  | error e => simp [Except.toOption]
  | ok id => simp [Except.toOption]

theorem added?_eq_some_iff {a : Addition} {locale : String} {t : Tree} :
    a.added? = some (locale, t) ↔ a.document = .ok t ∧ a.locale? = some locale := by
  unfold added?
  cases a.document with
  | error e => simp
  | ok u => simp [and_comm]

theorem addTree_of_read {locale : String} {id : Locale} (h : Locale.read locale = .ok id) (t : Tree)
    (g : Generator) :
    Generator.addTree locale t g = (.ok (), { g with store := g.store.merge id.text t }) := by
  have chain : Chain.ofText locale = .ok (Chain.ofLocale id) := by
    rw [Chain.ofText, h]
    rfl
  rw [Generator.addTree, chain, ← Chain.primary_ofLocale id]
  rfl

theorem addTree_of_not_read {locale : String} {e : LoadFailure} (h : Locale.read locale = .error e)
    (t : Tree) (g : Generator) : Generator.addTree locale t g = (.error e, g) := by
  have chain : Chain.ofText locale = .error e := by
    rw [Chain.ofText, h]
    rfl
  rw [Generator.addTree, chain]
  rfl

/-- The document is read before anything else is done. -/
theorem perform_eq (a : Addition) :
    a.perform = (liftM a.document : Setup Tree) >>= Generator.addTree a.given := by
  cases a with
  | text locale yaml => rfl
  | file locale path content =>
    cases content with
    | error reason => rfl
    | ok yaml => rfl

theorem perform_of_document {a : Addition} {t : Tree} (h : a.document = .ok t) :
    a.perform = Generator.addTree a.given t := by
  rw [perform_eq, h]
  rfl

theorem perform_of_no_document {a : Addition} {e : LoadFailure} (h : a.document = .error e)
    (g : Generator) : a.perform g = (.error e, g) := by
  rw [perform_eq, h]
  rfl

theorem perform_of_added {a : Addition} {locale : String} {t : Tree} (h : a.added? = some (locale, t))
    (g : Generator) : a.perform g = (.ok (), { g with store := g.store.merge locale t }) := by
  obtain ⟨document, named⟩ := added?_eq_some_iff.1 h
  obtain ⟨id, read, rfl⟩ := locale?_eq_some_iff.1 named
  rw [perform_of_document document, addTree_of_read read]

theorem perform_of_not_added {a : Addition} (h : a.added? = none) (g : Generator) :
    ∃ e, a.perform g = (.error e, g) := by
  cases document : a.document with
  | error e => exact ⟨e, perform_of_no_document document g⟩
  | ok t =>
    cases read : Locale.read a.given with
    | error e => exact ⟨e, by rw [perform_of_document document, addTree_of_not_read read]⟩
    | ok id =>
      have added := added?_eq_some_iff.2 ⟨document, locale?_eq_some_iff.2 ⟨id, read, rfl⟩⟩
      rw [h] at added
      cases added

theorem fails_iff_not_added (a : Addition) (g : Generator) :
    (∃ e, (a.perform g).1 = .error e) ↔ a.added? = none := by
  constructor
  · rintro ⟨e, failed⟩
    cases added : a.added? with
    | none => rfl
    | some what =>
      rw [perform_of_added added g] at failed
      cases failed
  · intro h
    obtain ⟨e, run⟩ := perform_of_not_added h g
    exact ⟨e, congrArg Prod.fst run⟩

theorem unchanged_of_fails {a : Addition} {g after : Generator} {e : LoadFailure}
    (h : a.perform g = (.error e, after)) : after = g := by
  have nothing := (a.fails_iff_not_added g).1 ⟨e, congrArg Prod.fst h⟩
  obtain ⟨_, run⟩ := perform_of_not_added nothing g
  exact congrArg Prod.snd (h.symm.trans run)

/-- Two calls that do not go to one locale. -/
def Apart (a b : Addition) : Prop :=
  ∀ locale, a.locale? = some locale → b.locale? ≠ some locale

/-- The same calls in an order in which calls to one locale follow each other as before. -/
inductive Reordered : List Addition → List Addition → Prop
  | refl (calls : List Addition) : Reordered calls calls
  | swap {a b : Addition} (front back : List Addition) {calls : List Addition} : Apart a b →
      Reordered (front ++ b :: a :: back) calls → Reordered (front ++ a :: b :: back) calls

theorem documentsFor_swap {a b : Addition} (h : Apart a b) (locale : String) :
    documentsFor locale ([a, b].filterMap added?) = documentsFor locale ([b, a].filterMap added?) := by
  cases first : a.added? with
  | none => simp only [List.filterMap_cons, first]
  | some x =>
    cases second : b.added? with
    | none => simp [first, second]
    | some y =>
      have ne : x.1 ≠ y.1 := by
        intro same
        have target := (added?_eq_some_iff.1 second).2
        rw [← same] at target
        exact h x.1 (added?_eq_some_iff.1 first).2 target
      by_cases here : x.1 = locale
      · have other : ¬ y.1 = locale := fun same => ne (here.trans same.symm)
        simp [first, second, documentsFor, here, other]
      · simp [first, second, documentsFor, List.filter_cons, here]

theorem Reordered.documentsFor_eq {calls others : List Addition} (h : Reordered calls others)
    (locale : String) (before : List (String × Tree)) :
    documentsFor locale (before ++ others.filterMap added?) =
      documentsFor locale (before ++ calls.filterMap added?) := by
  induction h with
  | refl calls => rfl
  | @swap a b front back calls apart _ ih =>
    have around (u v : Addition) :
        front ++ u :: v :: back = front ++ ([u, v] ++ back) := rfl
    rw [ih, around, around]
    simp only [List.filterMap_append, documentsFor_append]
    rw [documentsFor_swap apart]

end Addition

namespace Generator

/-- The generator after a call, whether it succeeds or fails. -/
def attempt (g : Generator) (a : Addition) : Generator :=
  (a.perform g).2

def attemptAll (g : Generator) (calls : List Addition) : Generator :=
  calls.foldl attempt g

theorem attempt_of_added {a : Addition} {locale : String} {t : Tree}
    (h : a.added? = some (locale, t)) (g : Generator) :
    g.attempt a = { g with store := g.store.merge locale t } := by
  rw [attempt, Addition.perform_of_added h]

theorem attempt_of_not_added {a : Addition} (h : a.added? = none) (g : Generator) :
    g.attempt a = g := by
  obtain ⟨e, run⟩ := Addition.perform_of_not_added h g
  rw [attempt, run]

theorem attemptAll_eq (g : Generator) (calls : List Addition) :
    g.attemptAll calls =
      { g with
        store := (calls.filterMap Addition.added?).foldl (fun s e => s.merge e.1 e.2) g.store } := by
  induction calls generalizing g with
  | nil => rfl
  | cons a calls ih =>
    rw [attemptAll, List.foldl_cons, ← attemptAll, ih]
    cases added : a.added? with
    | none => rw [attempt_of_not_added added, List.filterMap_cons_none added]
    | some e => rw [attempt_of_added added, List.filterMap_cons_some added, List.foldl_cons]

/-- All that has been added to a generator: the bundled documents if it has them, then those of the
calls that succeed. -/
def history (bundled : Bool) (calls : List Addition) : List (String × Tree) :=
  (if bundled then Bundled.sources else []) ++ calls.filterMap Addition.added?

theorem new_eq_ok {locale : String} {maxDepth : Nat} {bundled : Bool} {g : Generator} :
    Generator.new locale maxDepth bundled = .ok g ↔ ∃ chain, Chain.ofText locale = .ok chain ∧
      g = ⟨chain, maxDepth, if bundled then Bundled.store else Store.empty, standardProviders,
        Cache.empty⟩ := by
  rw [Generator.new]
  cases Chain.ofText locale with
  | error e => simp [Except.map]
  | ok chain => simp [Except.map, eq_comm]

theorem store_attemptAll {locale : String} {maxDepth : Nat} {bundled : Bool} {g : Generator}
    (h : Generator.new locale maxDepth bundled = .ok g) (calls : List Addition) :
    (g.attemptAll calls).store = Store.ofHistory (history bundled calls) := by
  have start : g.store = Store.ofHistory (if bundled then Bundled.sources else []) := by
    obtain ⟨chain, _, rfl⟩ := new_eq_ok.1 h
    cases bundled with
    | true => rfl
    | false => rfl
  rw [attemptAll_eq, start, history, Store.ofHistory, Store.ofHistory, List.foldl_append]

/-- Whatever calls were made, the tree of a locale is the documents added to it, laid over each other
in their order, and a key is looked up in these trees along the chain. -/
theorem lookup_after_additions {locale : String} {maxDepth : Nat} {bundled : Bool} {g : Generator}
    (h : Generator.new locale maxDepth bundled = .ok g) (calls : List Addition) :
    (∀ L, (g.attemptAll calls).store.tree? L =
      Tree.layered (documentsFor L (history bundled calls))) ∧
    (∀ L path, ((g.attemptAll calls).store.tree? L).bind (·.leaf? path) =
      ((documentsFor L (history bundled calls)).reverse.find? (Tree.settles path)).bind
        (·.leaf? path)) ∧
    (∀ key, (g.attemptAll calls).lookup key = g.chain.locales.findSome? fun L =>
      (Tree.layered (documentsFor L (history bundled calls))).bind
        (·.leaf? (Tree.pathOf (Unicode.lower key)))) ∧
    (∀ call : Addition,
      (∃ e, (call.perform (g.attemptAll calls)).1 = .error e) ↔ call.added? = none) ∧
    (∀ (call : Addition) e after, call.perform (g.attemptAll calls) = (.error e, after) →
      after = g.attemptAll calls) ∧
    (∀ others, Addition.Reordered calls others → ∀ key,
      (g.attemptAll others).lookup key = (g.attemptAll calls).lookup key) := by
  have trees (calls : List Addition) (L : String) : (g.attemptAll calls).store.tree? L =
      Tree.layered (documentsFor L (history bundled calls)) := by
    rw [store_attemptAll h, Store.tree?_ofHistory]
  have looked (calls : List Addition) (key : String) : (g.attemptAll calls).lookup key =
      g.chain.locales.findSome? fun L =>
        (Tree.layered (documentsFor L (history bundled calls))).bind
          (·.leaf? (Tree.pathOf (Unicode.lower key))) := by
    have chain : (g.attemptAll calls).chain = g.chain := by rw [attemptAll_eq]
    unfold lookup Store.lookup
    simp only [chain, trees]
  refine ⟨trees calls, fun L path => ?_, looked calls, fun call => ?_, fun call e after failed => ?_,
    ?_⟩
  · rw [trees, Tree.leaf?_layered]
  · exact call.fails_iff_not_added _
  · exact Addition.unchanged_of_fails failed
  · intro others same key
    rw [looked, looked]
    simp only [history, same.documentsFor_eq]

/-- Two spellings of one locale, calls that fail, and a table in front of a leaf of another
locale. -/
theorem lookup_after_additions_spellings :
    ∃ g, Generator.new "de_AT" 64 true = .ok g ∧
      (g.attemptAll [.text "DE-at" "name:\n  prefix:\n    long: Doktor", .text "de_AT" "a: ~",
        .text "en" "name:\n  prefix: Sir", .text "no locale" "a: b",
        .file "de" "missing.yml" (.error "not found")]).lookup "Name.Prefix" =
        some ["Herr", "Frau", "Dr."] := by
  have chain : Chain.ofText "de_AT" = .ok ⟨["de-AT", "de", "en"]⟩ := by rfl
  have made : Generator.new "de_AT" 64 true =
      .ok ⟨⟨["de-AT", "de", "en"]⟩, 64, Bundled.store, standardProviders, .empty⟩ := by
    rw [Generator.new, chain]
    rfl
  obtain ⟨_, _, looked, _⟩ := lookup_after_additions made
    [.text "DE-at" "name:\n  prefix:\n    long: Doktor", .text "de_AT" "a: ~",
      .text "en" "name:\n  prefix: Sir", .text "no locale" "a: b",
      .file "de" "missing.yml" (.error "not found")]
  refine ⟨_, made, ?_⟩
  rw [looked]
  decide +kernel

end Generator

end Figment
