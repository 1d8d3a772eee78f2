import Figment.Proofs.Distinct
import Figment.Proofs.Locale.Respelling
/-!
Chains of locales.

Every step of a chain drops one thing: the variants, or else the region, or else the script. What is
below a locale in its chain is the chain of the next locale, so every locale in a chain has the rest
of it as its own chain.
-/

namespace Figment

namespace Locale

/-- The step from an identifier to the next one of its chain. -/
inductive Drops : Locale → Locale → Prop
  | variants {id : Locale} (present : id.variants ≠ []) : Drops id { id with variants := [] }
  | region {id : Locale} (plain : id.variants = []) (present : id.region ≠ none) :
    Drops id { id with region := none }
  | script {id : Locale} (plain : id.variants = []) (everywhere : id.region = none)
    (present : id.script ≠ none) : Drops id { id with script := none }

theorem not_drops (language : List Char) (next : Locale) : ¬ Drops { language } next := by
  intro h
  cases h with
  | variants present => exact present rfl
  | region plain present => exact present rfl
  | script plain everywhere present => exact present rfl

theorem drops_or_bare (id : Locale) :
    (∃ next, Drops id next) ∨ id = { language := id.language } := by
  obtain ⟨language, script, region, variants⟩ := id
  cases variants with
  | cons v variants => exact .inl ⟨_, .variants (List.cons_ne_nil v variants)⟩
  | nil =>
    cases region with
    | some r => exact .inl ⟨_, .region rfl (Option.some_ne_none r)⟩
    | none =>
      cases script with
      | some s => exact .inl ⟨_, .script rfl rfl (Option.some_ne_none s)⟩
      | none => exact .inr rfl

theorem Drops.parts_lt {id next : Locale} (h : Drops id next) :
    next.parts.length < id.parts.length := by
  cases h with
  | variants present =>
    have pos := List.length_pos_of_ne_nil present
    simp [parts]
    omega
  | region plain present =>
    obtain ⟨r, eq⟩ := Option.ne_none_iff_exists'.1 present
    simp [parts, eq]
  | script plain everywhere present =>
    obtain ⟨s, eq⟩ := Option.ne_none_iff_exists'.1 present
    simp [parts, eq]

theorem Drops.normal {id next : Locale} (h : Drops id next) (n : id.Normal) : next.Normal := by
  cases h with
  | variants present => exact { n with variants := ⟨[], .nil, .refl _⟩, ascending := .nil }
  | region plain present => exact { n with region := .none }
  | script plain everywhere present => exact { n with script := .none }

/-- A statement that goes up from a language alone along every step holds of all identifiers. -/
theorem Drops.induction {motive : Locale → Prop} (bare : ∀ language, motive { language })
    (step : ∀ {id next}, Drops id next → motive next → motive id) (id : Locale) : motive id := by
  rcases drops_or_bare id with ⟨next, drop⟩ | eq
  · have shorter := drop.parts_lt
    exact step drop (Drops.induction bare step next)
  · rw [eq]
    exact bare id.language
termination_by id.parts.length

theorem fallbacks_bare (language : List Char) : fallbacks { language } = [{ language }] :=
  rfl

theorem Drops.fallbacks_eq {id next : Locale} (h : Drops id next) :
    id.fallbacks = id :: next.fallbacks := by
  cases h with
  | variants present => simp [fallbacks, present]
  | region plain present => simp [fallbacks, plain, present]
  | script plain everywhere present => simp [fallbacks, plain, everywhere, present]

theorem exists_fallbacks_eq_cons (id : Locale) : ∃ rest, id.fallbacks = id :: rest :=
  ⟨_, rfl⟩

theorem isChain_fallbacks (id : Locale) : id.fallbacks.IsChain Drops := by
  induction id using Drops.induction with
  | bare language => exact List.isChain_singleton _
  | @step id next drop ih =>
    obtain ⟨rest, eq⟩ := exists_fallbacks_eq_cons next
    rw [drop.fallbacks_eq, eq, List.isChain_cons_cons, ← eq]
    exact ⟨drop, ih⟩

theorem of_mem_fallbacks {id m : Locale} (n : id.Normal) (h : m ∈ id.fallbacks) :
    m.Normal ∧ m.parts.length ≤ id.parts.length := by
  induction id using Drops.induction with
  | bare language =>
    rw [List.mem_singleton.1 h]
    exact ⟨n, le_refl _⟩
  | @step id next drop ih =>
    rw [drop.fallbacks_eq, List.mem_cons] at h
    rcases h with rfl | below
    · exact ⟨n, le_refl _⟩
    · obtain ⟨n', shorter⟩ := ih (drop.normal n) below
      exact ⟨n', shorter.trans drop.parts_lt.le⟩

theorem Normal.eq_of_text {id id' : Locale} (h : id.Normal) (h' : id'.Normal)
    (same : id.text = id'.text) : id = id' := by
  have read := h.read_text
  rw [same, h'.read_text] at read
  exact (Except.ok.inj read).symm

end Locale

open Figment.Locale (Drops Respelled)

namespace Chain

/-- The identifier of the root locale. -/
def rootId : Locale :=
  { language := rootLocale.toList }

theorem normal_rootId : rootId.Normal :=
  ⟨rfl, .none, .none, ⟨[], .nil, .refl _⟩, .nil⟩

theorem text_rootId : rootId.text = rootLocale := by
  decide

theorem locales_bare (language : List Char) :
    (ofLocale { language }).locales = ({ language } : Locale).text ::
      if ({ language } : Locale).text = rootLocale then [] else [rootLocale] := by
  rw [ofLocale, Locale.fallbacks_bare]
  by_cases root : ({ language } : Locale).text = rootLocale
  · simp [List.eraseDups_cons, root]
  · simp [List.eraseDups_cons, root, Ne.symm root]

theorem locales_of_drops {id next : Locale} (drop : Drops id next) (n : id.Normal) :
    (ofLocale id).locales = id.text :: (ofLocale next).locales := by
  -- What is below has fewer subtags, and from the root there is no step.
  have new : id.text ∉ next.fallbacks.map Locale.text ++ [rootLocale] := by
    intro found
    rcases List.mem_append.1 found with below | root
    · obtain ⟨m, mem, same⟩ := List.mem_map.1 below
      obtain ⟨n', shorter⟩ := Locale.of_mem_fallbacks (drop.normal n) mem
      have longer := drop.parts_lt
      rw [n'.eq_of_text n same] at shorter
      omega
    · have same : id.text = rootId.text := by rw [List.mem_singleton.1 root, text_rootId]
      rw [n.eq_of_text normal_rootId same] at drop
      exact Locale.not_drops _ _ drop
  have kept : (next.fallbacks.map Locale.text ++ [rootLocale]).filter (fun t => !t == id.text) =
      next.fallbacks.map Locale.text ++ [rootLocale] := by
    refine List.filter_eq_self.2 fun t ht => ?_
    simp only [Bool.not_eq_true', beq_eq_false_iff_ne]
    rintro rfl
    exact new ht
  rw [ofLocale, drop.fallbacks_eq, List.map_cons, List.cons_append]
  change List.eraseDups _ = _
  rw [List.eraseDups_cons, kept]
  rfl

/-- The locales are the identifier and what it falls back to, one drop after the other, and the
root locale where it is not there yet. -/
theorem exists_locales_eq {id : Locale} (n : id.Normal) :
    ∃ front last, id.fallbacks = front ++ [last] ∧ (∀ next, ¬ Drops last next) ∧
      (ofLocale id).locales =
        id.fallbacks.map Locale.text ++ if last.text = rootLocale then [] else [rootLocale] := by
  induction id using Drops.induction with
  | bare language => exact ⟨[], _, rfl, Locale.not_drops language, locales_bare language⟩
  | @step id next drop ih =>
    obtain ⟨front, last, below, done, locales⟩ := ih (drop.normal n)
    refine ⟨id :: front, last, by rw [drop.fallbacks_eq, below, List.cons_append], done, ?_⟩
    rw [locales_of_drops drop n, locales, drop.fallbacks_eq, List.map_cons, List.cons_append]

theorem ofText_text {id : Locale} (n : id.Normal) : ofText id.text = .ok (ofLocale id) := by
  rw [ofText, n.read_text, Except.map]

theorem ofText_root : ofText rootLocale = .ok root := by
  rw [← text_rootId, ofText_text normal_rootId]
  exact congrArg Except.ok (by decide)

theorem ofText_of_locales_eq_cons {id : Locale} (n : id.Normal) {after : List String} {e : String}
    (h : (ofLocale id).locales = e :: after) : ofText e = .ok ⟨e :: after⟩ := by
  have first : id.text = e := by rw [← primary_ofLocale, primary, h, List.headD_cons]
  rw [← h, ← first, ofText_text n]

/-- The chain of a locale in a chain is what is left of the chain from there. -/
theorem ofText_of_locales_eq {id : Locale} (n : id.Normal) {before after : List String} {e : String}
    (h : (ofLocale id).locales = before ++ e :: after) : ofText e = .ok ⟨e :: after⟩ := by
  -- Each locale in front is one step down, until a language alone is left.
  induction before generalizing id with
  | nil => exact ofText_of_locales_eq_cons n h
  | cons b before ih =>
    rcases Locale.drops_or_bare id with ⟨next, drop⟩ | bare
    · rw [locales_of_drops drop n] at h
      exact ih (drop.normal n) (List.cons.inj h).2
    · rw [bare, locales_bare] at h
      have rest := (List.cons.inj h).2
      split at rest
      · simp at rest
      · cases before with
        | nil =>
          cases rest
          exact ofText_root
        | cons b before => simp at rest

theorem ofText_eq_ok_iff {text : String} {c : Chain} :
    ofText text = .ok c ↔ ∃ id : Locale, id.Normal ∧ Respelled text id.text ∧ c = ofLocale id := by
  rw [ofText]
  constructor
  · intro h
    cases read : Locale.read text with
    | error e =>
      rw [read] at h
      cases h
    | ok id =>
      rw [read] at h
      cases h
      obtain ⟨normal, respelled⟩ := Locale.read_eq_ok_iff.1 read
      exact ⟨id, normal, respelled, rfl⟩
  · rintro ⟨id, normal, respelled, rfl⟩
    rw [Locale.read_eq_ok_iff.2 ⟨normal, respelled⟩, Except.map]

/-- The law of chains. A chain begins with the normal form of the text, goes down by single drops to
a language alone, and ends with the root locale; no locale is there twice. From any locale in it on
it is the chain of that locale. Respellings of the text have the same chain. -/
theorem ofText_law {text : String} {c : Chain} (h : ofText text = .ok c) :
    ∃ id : Locale, id.Normal ∧ Respelled text id.text ∧
      c.locales ≠ [] ∧ c.locales.Nodup ∧
      c.locales.head? = some id.text ∧ c.locales.getLast? = some rootLocale ∧
      (∃ front last, (front ++ [last]).head? = some id ∧ (front ++ [last]).IsChain Drops ∧
        (∀ next, ¬ Drops last next) ∧
        c.locales = (front ++ [last]).map Locale.text ++
          if last.text = rootLocale then [] else [rootLocale]) ∧
      (∀ before e after, c.locales = before ++ e :: after → ofText e = .ok ⟨e :: after⟩) ∧
      ofText c.primary = .ok c ∧
      ∀ text', Respelled text text' → ofText text' = .ok c := by
  obtain ⟨id, normal, respelled, rfl⟩ := ofText_eq_ok_iff.1 h
  obtain ⟨front, last, ids, done, locales⟩ := exists_locales_eq normal
  obtain ⟨rest, first⟩ := Locale.exists_fallbacks_eq_cons id
  have head : (ofLocale id).locales.head? = some id.text := by rw [locales, first]; rfl
  refine ⟨id, normal, respelled, ?_, nodup_eraseDups _, head, ?_, ⟨front, last, ?_, ?_, done, ?_⟩,
    fun before e after => ofText_of_locales_eq normal, ?_, fun text' same => ?_⟩
  · intro empty
    rw [empty] at head
    cases head
  · rw [locales, ids]
    split
    · next root => simp [root]
    · simp
  · rw [← ids, first]
    rfl
  · rw [← ids]
    exact Locale.isChain_fallbacks id
  · rw [locales, ids]
  · rw [primary_ofLocale, ofText_text normal]
  · exact ofText_eq_ok_iff.2 ⟨id, normal, .trans _ _ _ (.symm _ _ same) respelled, rfl⟩

theorem ofText_law_serbian :
    ofText "sr_latn-RS-ekavsk-1994" =
        .ok ⟨["sr-Latn-RS-1994-ekavsk", "sr-Latn-RS", "sr-Latn", "sr", "en"]⟩ ∧
      ofText "sr-Latn" = .ok ⟨["sr-Latn", "sr", "en"]⟩ ∧
      ofText "sr_latn-RS-1994-ekavsk " =
        .ok ⟨["sr-Latn-RS-1994-ekavsk", "sr-Latn-RS", "sr-Latn", "sr", "en"]⟩ := by
  have accepted : ofText "sr_latn-RS-ekavsk-1994" =
      .ok ⟨["sr-Latn-RS-1994-ekavsk", "sr-Latn-RS", "sr-Latn", "sr", "en"]⟩ := by
    decide +kernel
  obtain ⟨_, _, _, _, _, _, _, _, below, _, respelled⟩ := ofText_law accepted
  have swapped : Locale.Respells "sr_latn-RS-ekavsk-1994" "sr_latn-RS-1994-ekavsk" := by
    simpa using Locale.Respells.variants "sr_latn-RS".toList
      (.swap "1994".toList "ekavsk".toList []) (by decide)
  have spaced : Locale.Respells "sr_latn-RS-1994-ekavsk" "sr_latn-RS-1994-ekavsk " := by
    simpa using @Locale.Respells.blanks [] [' '] "sr_latn-RS-1994-ekavsk".toList
      (List.forall_mem_singleton.2 rfl)
  exact ⟨accepted, below ["sr-Latn-RS-1994-ekavsk", "sr-Latn-RS"] "sr-Latn" ["sr", "en"] rfl,
    respelled _ (.trans _ _ _ (.rel _ _ swapped) (.rel _ _ spaced))⟩

end Chain

end Figment
