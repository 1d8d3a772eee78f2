import Figment.Proofs.Locale.Subtag
/-!
Identifiers are read as the grammar says.

The subtags that stand for the script, the region and the variants are found by their shape alone.
The variants are put in order, so the order in which they are written does not matter, and none may
be there twice. An identifier that has been read is in normal form, and its own subtags are read as
the same identifier.
-/

namespace Figment.Locale

/-- The reading of a text that has been divided into subtags. -/
def ofSubtags? (subtags : List (List Char)) : Option Locale :=
  (language? (subtags.headD [])).bind fun language => withScript { language } subtags.tail

/-- Subtags, in the fields that they are for, spell an identifier. -/
structure Spells (written id : Locale) : Prop where
  language : language? written.language = some id.language
  script : Option.Rel (fun s t => script? s = some t) written.script id.script
  region : Option.Rel (fun s r => region? s = some r) written.region id.region
  variants : ∃ vs, List.Forall₂ (fun s v => variant? s = some v) written.variants vs ∧
    id.variants.Perm vs
  ascending : id.variants.Pairwise (· < ·)

/-- An identifier in normal form is spelled by its own subtags. -/
def Normal (id : Locale) : Prop :=
  id.Spells id

theorem addVariant?_sound {v : List Char} {vs us : List (List Char)} (asc : vs.Pairwise (· < ·))
    (h : addVariant? v vs = some us) : us.Perm (v :: vs) ∧ us.Pairwise (· < ·) := by
  induction vs generalizing us with
  | nil =>
    cases h
    exact ⟨.refl _, List.pairwise_singleton _ v⟩
  | cons w vs ih =>
    obtain ⟨least, asc'⟩ := List.pairwise_cons.1 asc
    unfold addVariant? at h
    split at h
    · cases h
    · next ne =>
      split at h
      · next lt =>
        cases h
        refine ⟨.refl _, List.pairwise_cons.2 ⟨fun u hu => ?_, asc⟩⟩
        rcases List.mem_cons.1 hu with rfl | later
        · exact lt
        · exact lt_trans lt (least u later)
      · next ge =>
        obtain ⟨us', added, rfl⟩ := Option.map_eq_some_iff.1 h
        obtain ⟨perm, sorted⟩ := ih asc' added
        refine ⟨(perm.cons w).trans (.swap v w vs), List.pairwise_cons.2 ⟨fun u hu => ?_, sorted⟩⟩
        rcases List.mem_cons.1 (perm.mem_iff.1 hu) with rfl | later
        · exact lt_of_le_of_ne (not_lt.1 ge) (Ne.symm ne)
        · exact least u later

theorem addVariant?_complete {v : List Char} {vs : List (List Char)} (new : v ∉ vs) :
    ∃ us, addVariant? v vs = some us := by
  induction vs with
  | nil => exact ⟨[v], rfl⟩
  | cons w vs ih =>
    obtain ⟨ne, new'⟩ := List.ne_and_not_mem_of_not_mem_cons new
    obtain ⟨us, added⟩ := ih new'
    unfold addVariant?
    rw [if_neg ne, added]
    split
    · exact ⟨_, rfl⟩
    · exact ⟨_, rfl⟩

/-- The variants are read one by one, and end up in ascending order. -/
theorem withVariants_eq_some_iff {id id' : Locale} {ss : List (List Char)}
    (asc : id.variants.Pairwise (· < ·)) :
    withVariants id ss = some id' ↔
      ∃ vs us, List.Forall₂ (fun s v => variant? s = some v) ss vs ∧
        us.Perm (id.variants ++ vs) ∧ us.Pairwise (· < ·) ∧ id' = { id with variants := us } := by
  induction ss generalizing id with
  | nil =>
    constructor
    · intro h
      cases h
      exact ⟨[], _, .nil, by rw [List.append_nil], asc, rfl⟩
    · rintro ⟨vs, us, read, perm, sorted, rfl⟩
      cases read
      rw [List.append_nil] at perm
      rw [perm.eq_of_pairwise' sorted asc]
      rfl
  | cons s ss ih =>
    constructor
    · intro h
      obtain ⟨v, read, h⟩ := Option.bind_eq_some_iff.1 h
      obtain ⟨us, added, h⟩ := Option.bind_eq_some_iff.1 h
      obtain ⟨perm, sorted⟩ := addVariant?_sound asc added
      obtain ⟨vs, us', reads, perm', sorted', rfl⟩ := (ih sorted).1 h
      refine ⟨v :: vs, us', .cons read reads, perm'.trans ?_, sorted', rfl⟩
      exact (perm.append_right vs).trans List.perm_middle.symm
    · rintro ⟨_, us, reads, perm, sorted, rfl⟩
      cases reads with
      | @cons _ v _ vs read reads =>
        -- The result is in strict order, so the variant that comes first is not there yet.
        have distinct : (v :: (id.variants ++ vs)).Nodup :=
          (perm.trans List.perm_middle).nodup_iff.1 (sorted.imp fun lt => ne_of_lt lt)
        have new : v ∉ id.variants := fun found =>
          (List.nodup_cons.1 distinct).1 (List.mem_append_left vs found)
        obtain ⟨us', added⟩ := addVariant?_complete new
        obtain ⟨perm', sorted'⟩ := addVariant?_sound asc added
        have rest : withVariants { id with variants := us' } ss =
            some { id with variants := us } :=
          (ih sorted').2 ⟨vs, us, reads,
            perm.trans (List.perm_middle.trans (perm'.symm.append_right vs)), sorted, rfl⟩
        exact Option.bind_eq_some_iff.2 ⟨v, read, Option.bind_eq_some_iff.2 ⟨us', added, rest⟩⟩

/-- The order in which variants are written does not matter. -/
theorem withVariants_perm {id : Locale} (asc : id.variants.Pairwise (· < ·))
    {ss ss' : List (List Char)} (h : ss.Perm ss') : withVariants id ss = withVariants id ss' := by
  have one {ss ss' : List (List Char)} (h : ss.Perm ss') {id' : Locale}
      (read : withVariants id ss = some id') : withVariants id ss' = some id' := by
    obtain ⟨vs, us, reads, perm, sorted, rfl⟩ := (withVariants_eq_some_iff asc).1 read
    obtain ⟨vs', reads', perm'⟩ := List.perm_comp_forall₂ h.symm reads
    exact (withVariants_eq_some_iff asc).2
      ⟨vs', us, reads', perm.trans (perm'.symm.append_left id.variants), sorted, rfl⟩
  ext id'
  exact ⟨one h, one h.symm⟩

section Optional

variable {reader : List Char → Option (List Char)} {set : Locale → Option (List Char) → Locale}
  {next : Locale → List (List Char) → Option Locale}

/-- Adds a subtag, if the first one is of its kind, and then what follows it. -/
def optionally (reader : List Char → Option (List Char))
    (set : Locale → Option (List Char) → Locale)
    (next : Locale → List (List Char) → Option Locale) (id : Locale) :
    List (List Char) → Option Locale
  | [] => next id []
  | s :: rest =>
    match reader s with
    | some t => next (set id (some t)) rest
    | none => next id (s :: rest)

/-- What is there is of the kind, and what follows a missing subtag is of another kind. -/
theorem optionally_eq_some_iff {id id' : Locale} {ss : List (List Char)} (same : set id none = id)
    (other : ∀ s rest, next id (s :: rest) = some id' → reader s = none) :
    optionally reader set next id ss = some id' ↔
      ∃ s t rest, ss = Option.toList s ++ rest ∧ Option.Rel (fun s t => reader s = some t) s t ∧
        next (set id t) rest = some id' := by
  constructor
  · intro h
    cases ss with
    | nil => exact ⟨none, none, [], rfl, .none, by rwa [same]⟩
    | cons s rest =>
      cases read : reader s with
      | some t =>
        rw [optionally, read] at h
        exact ⟨some s, some t, rest, rfl, .some read, h⟩
      | none =>
        rw [optionally, read] at h
        exact ⟨none, none, s :: rest, rfl, .none, by rwa [same]⟩
  · rintro ⟨s, t, rest, rfl, kind, h⟩
    cases kind with
    | some read =>
      rw [Option.toList_some, List.singleton_append, optionally, read]
      exact h
    | none =>
      rw [same] at h
      cases rest with
      | nil => exact h
      | cons s rest =>
        rw [Option.toList_none, List.nil_append, optionally, other s rest h]
        exact h

theorem optionally_map_toLower (blind : CaseBlind reader)
    (ih : ∀ id ss, next id (ss.map (List.map Char.toLower)) = next id ss) (id : Locale)
    (ss : List (List Char)) :
    optionally reader set next id (ss.map (List.map Char.toLower)) =
      optionally reader set next id ss := by
  cases ss with
  | nil => rfl
  | cons s ss =>
    rw [List.map_cons, optionally, optionally, blind.lower, ← List.map_cons]
    simp only [ih]

/-- Subtags of another kind at the end may change places if they may do so in what follows. -/
theorem optionally_append {vs vs' : List (List Char)}
    (keeps : ∀ id t, (set id t).variants = id.variants) (perm : vs.Perm vs')
    (other : ∀ v ∈ vs, reader v = none)
    (ih : ∀ id : Locale, id.variants = [] → ∀ ss, next id (ss ++ vs) = next id (ss ++ vs'))
    {id : Locale} (bare : id.variants = []) (ss : List (List Char)) :
    optionally reader set next id (ss ++ vs) = optionally reader set next id (ss ++ vs') := by
  have missing {vs : List (List Char)} (other : ∀ v ∈ vs, reader v = none) :
      optionally reader set next id vs = next id vs := by
    cases vs with
    | nil => rfl
    | cons v vs => rw [optionally, other v List.mem_cons_self]
  cases ss with
  | nil =>
    have other' : ∀ v ∈ vs', reader v = none := fun v hv => other v (perm.mem_iff.2 hv)
    rw [List.nil_append, List.nil_append, missing other, missing other']
    exact ih id bare []
  | cons s ss =>
    rw [List.cons_append, List.cons_append, optionally, optionally]
    cases reader s with
    | some t => exact ih _ ((keeps id (some t)).trans bare) ss
    | none => exact ih id bare (s :: ss)

end Optional

theorem withRegion_eq (id : Locale) (ss : List (List Char)) :
    withRegion id ss = optionally region? (fun id r => { id with region := r }) withVariants id ss := by
  cases ss <;> rfl

theorem withScript_eq (id : Locale) (ss : List (List Char)) :
    withScript id ss = optionally script? (fun id t => { id with script := t }) withRegion id ss := by
  cases ss <;> rfl

theorem other_of_withVariants {id id' : Locale} {s : List Char} {rest : List (List Char)}
    (h : withVariants id (s :: rest) = some id') : region? s = none ∧ script? s = none := by
  obtain ⟨v, read, _⟩ := Option.bind_eq_some_iff.1 h
  exact ⟨region?_of_variant read, script?_of_variant read⟩

theorem script?_of_withRegion {id id' : Locale} {s : List Char} {rest : List (List Char)}
    (h : withRegion id (s :: rest) = some id') : script? s = none := by
  cases read : region? s with
  | some r => exact script?_of_region read
  | none =>
    rw [withRegion, read] at h
    exact (other_of_withVariants h).2

/-- The reader finds an identifier exactly if the subtags spell it. -/
theorem ofSubtags?_eq_some_iff {subtags : List (List Char)} {id : Locale} :
    ofSubtags? subtags = some id ↔
      ∃ written : Locale, written.parts = subtags ∧ written.Spells id := by
  constructor
  · intro h
    obtain ⟨language, first, h⟩ := Option.bind_eq_some_iff.1 h
    rw [withScript_eq] at h
    obtain ⟨s, t, rest, front, script, h⟩ :=
      (optionally_eq_some_iff rfl fun _ _ => script?_of_withRegion).1 h
    rw [withRegion_eq] at h
    obtain ⟨s', r, rest', front', region, h⟩ :=
      (optionally_eq_some_iff rfl fun _ _ h => (other_of_withVariants h).1).1 h
    obtain ⟨vs, us, variants, perm, ascending, rfl⟩ := (withVariants_eq_some_iff .nil).1 h
    cases subtags with
    | nil => cases first
    | cons l subtags =>
      refine ⟨⟨l, s, s', rest'⟩, ?_, first, script, region, ⟨vs, variants, perm⟩, ascending⟩
      rw [parts, ← front', ← front]
      rfl
  · rintro ⟨written, rfl, spells⟩
    obtain ⟨vs, variants, perm⟩ := spells.variants
    apply Option.bind_eq_some_iff.2
    refine ⟨id.language, spells.language, ?_⟩
    rw [withScript_eq]
    apply (optionally_eq_some_iff rfl fun _ _ => script?_of_withRegion).2
    refine ⟨_, _, _, rfl, spells.script, ?_⟩
    rw [withRegion_eq]
    apply (optionally_eq_some_iff rfl fun _ _ h => (other_of_withVariants h).1).2
    refine ⟨_, _, _, rfl, spells.region, ?_⟩
    apply (withVariants_eq_some_iff .nil).2
    exact ⟨vs, id.variants, variants, perm, spells.ascending, rfl⟩

theorem Spells.normal {written id : Locale} (h : written.Spells id) : id.Normal := by
  obtain ⟨vs, variants, perm⟩ := h.variants
  have script := caseBlind_script.settled_all (rel_iff_forall₂_toList.1 h.script)
  have region := caseBlind_region.settled_all (rel_iff_forall₂_toList.1 h.region)
  have variant : ∀ v ∈ id.variants, variant? v = some v := fun v hv =>
    caseBlind_variant.settled_all variants v (perm.mem_iff.1 hv)
  exact
    { language := caseBlind_language.settled h.language
      script := rel_iff_forall₂_toList.2 (List.forall₂_same.2 script)
      region := rel_iff_forall₂_toList.2 (List.forall₂_same.2 region)
      variants := ⟨id.variants, List.forall₂_same.2 variant, .refl _⟩
      ascending := h.ascending }

/-- The subtags that spell an identifier are made of letters and digits. -/
theorem Spells.plain {written id : Locale} (h : written.Spells id) :
    ∀ part ∈ written.parts, ∀ c ∈ part, c.isAlphanum = true := by
  obtain ⟨vs, variants, _⟩ := h.variants
  refine List.forall_mem_cons.2 ⟨caseBlind_language.plain h.language, ?_⟩
  refine List.forall_mem_append.2 ⟨?_, List.forall_mem_append.2 ⟨?_, ?_⟩⟩
  · exact caseBlind_script.plain_all (rel_iff_forall₂_toList.1 h.script)
  · exact caseBlind_region.plain_all (rel_iff_forall₂_toList.1 h.region)
  · exact caseBlind_variant.plain_all variants

/-- They are the subtags of the identifier, apart from case and from the order of the variants. -/
theorem Spells.lower_parts {written id : Locale} (h : written.Spells id) :
    ∃ vs, id.variants.Perm vs ∧ (∀ v ∈ vs, variant? v = some v) ∧
      { id with variants := vs }.parts.map (List.map Char.toLower) =
        written.parts.map (List.map Char.toLower) := by
  obtain ⟨vs, variants, perm⟩ := h.variants
  refine ⟨vs, perm, caseBlind_variant.settled_all variants, ?_⟩
  simp only [parts, List.map_cons, List.map_append]
  rw [caseBlind_language.spells h.language,
    caseBlind_script.spells_all (rel_iff_forall₂_toList.1 h.script),
    caseBlind_region.spells_all (rel_iff_forall₂_toList.1 h.region),
    caseBlind_variant.spells_all variants]

theorem ofSubtags?_parts {id : Locale} (h : id.Normal) : ofSubtags? id.parts = some id :=
  ofSubtags?_eq_some_iff.2 ⟨id, rfl, h⟩

theorem withVariants_map_toLower (id : Locale) (ss : List (List Char)) :
    withVariants id (ss.map (List.map Char.toLower)) = withVariants id ss := by
  induction ss generalizing id with
  | nil => rfl
  | cons s ss ih =>
    rw [List.map_cons, withVariants, withVariants, caseBlind_variant.lower]
    simp only [ih]

theorem withRegion_map_toLower (id : Locale) (ss : List (List Char)) :
    withRegion id (ss.map (List.map Char.toLower)) = withRegion id ss := by
  rw [withRegion_eq, withRegion_eq, optionally_map_toLower caseBlind_region withVariants_map_toLower]

theorem withScript_map_toLower (id : Locale) (ss : List (List Char)) :
    withScript id (ss.map (List.map Char.toLower)) = withScript id ss := by
  rw [withScript_eq, withScript_eq, optionally_map_toLower caseBlind_script withRegion_map_toLower]

theorem ofSubtags?_map_toLower (ss : List (List Char)) :
    ofSubtags? (ss.map (List.map Char.toLower)) = ofSubtags? ss := by
  cases ss with
  | nil => rfl
  | cons s ss =>
    rw [ofSubtags?, ofSubtags?, List.map_cons, List.headD_cons, List.headD_cons, List.tail_cons,
      List.tail_cons, caseBlind_language.lower]
    simp only [withScript_map_toLower]

section Variants

variable {vs vs' : List (List Char)} (perm : vs.Perm vs')
  (all : ∀ v ∈ vs, ∃ u, variant? v = some u) {id : Locale} (bare : id.variants = [])
  (ss : List (List Char))

include perm all bare

theorem withRegion_append_perm : withRegion id (ss ++ vs) = withRegion id (ss ++ vs') := by
  have other : ∀ v ∈ vs, region? v = none := fun v hv => (all v hv).elim fun _ => region?_of_variant
  rw [withRegion_eq, withRegion_eq]
  refine optionally_append ?_ perm other ?_ bare ss
  · exact fun _ _ => rfl
  · exact fun id bare ss => withVariants_perm (bare ▸ .nil) (perm.append_left ss)

theorem withScript_append_perm : withScript id (ss ++ vs) = withScript id (ss ++ vs') := by
  have other : ∀ v ∈ vs, script? v = none := fun v hv => (all v hv).elim fun _ => script?_of_variant
  rw [withScript_eq, withScript_eq]
  refine optionally_append ?_ perm other ?_ bare ss
  · exact fun _ _ => rfl
  · exact fun id bare ss => withRegion_append_perm perm all bare ss

end Variants

/-- Variants at the end may come in any order. -/
theorem ofSubtags?_append_perm {ss vs vs' : List (List Char)} (ne : ss ≠ []) (perm : vs.Perm vs')
    (all : ∀ v ∈ vs, ∃ u, variant? v = some u) :
    ofSubtags? (ss ++ vs) = ofSubtags? (ss ++ vs') := by
  cases ss with
  | nil => exact absurd rfl ne
  | cons s ss =>
    rw [ofSubtags?, ofSubtags?, List.cons_append, List.cons_append, List.headD_cons, List.headD_cons,
      List.tail_cons, List.tail_cons]
    exact congrArg _ (funext fun language => withScript_append_perm perm all rfl ss)

end Figment.Locale
