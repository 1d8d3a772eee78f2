import Figment.Proofs.Locale.Grammar
import Figment.Proofs.Unicode.Blank
/-!
The spellings of an identifier.

A text can be respelled without a change to its identifier: hyphens and underscores may stand for
each other, letters may be small or capital, white space may stand around it, and the variants may
come in any order. Reading is exactly this: a text is read as the identifier in normal form of which
it is a respelling.
-/

namespace Figment.Locale

/-- An underscore counts as a hyphen. -/
def hyphen (c : Char) : Char :=
  if c = '_' then '-' else c

/-- A change to the spelling of an identifier. -/
inductive Respells : String → String → Prop
  | separators {s s' : List Char} (same : s.map hyphen = s'.map hyphen) :
    Respells (.ofList s) (.ofList s')
  | letters {s s' : List Char} (same : s.map Char.toLower = s'.map Char.toLower) :
    Respells (.ofList s) (.ofList s')
  | blanks {before after : List Char} (s : List Char)
    (blank : ∀ c ∈ before ++ after, Unicode.isBlank c = true) :
    Respells (.ofList s) (.ofList (before ++ (s ++ after)))
  | variants (s : List Char) {vs vs' : List (List Char)} (perm : vs.Perm vs')
    (all : ∀ v ∈ vs, (variant? v).isSome = true) :
    Respells (.ofList (s ++ vs.flatMap ('-' :: ·))) (.ofList (s ++ vs'.flatMap ('-' :: ·)))

/-- The texts that one gets from a text by any changes to its spelling. -/
def Respelled : String → String → Prop :=
  Relation.EqvGen Respells

theorem plain_of_isAlphanum {c : Char} (h : c.isAlphanum = true) :
    Unicode.isBlank c = false ∧ hyphen c = c := by
  refine ⟨Unicode.isBlank_of_isAlphanum h, if_neg ?_⟩
  rintro rfl
  cases h

/-- The subtags of a text. -/
def subtags (s : List Char) : List (List Char) :=
  Delimited.split '-' ((Unicode.trim s).map hyphen)

theorem read_eq_ok_iff_ofSubtags? {text : String} {id : Locale} :
    read text = .ok id ↔ ofSubtags? (subtags text.toList) = some id := by
  have divided : Delimited.split '-'
      ((Unicode.trim text.toList).map fun c => if c = '_' then '-' else c) =
        subtags text.toList := rfl
  unfold read ofSubtags?
  dsimp only
  rw [divided]
  cases language? ((subtags text.toList).headD []) with
  | none => simp
  | some language =>
    dsimp only [Option.bind_some]
    cases withScript { language } (subtags text.toList).tail with
    | none => simp
    | some id' => simp

theorem isBlank_toLower (c : Char) : Unicode.isBlank c.toLower = Unicode.isBlank c :=
  apply_toLower (fun _ alpha => Unicode.isBlank_of_isAlphanum (isAlphanum_of_isAlpha alpha)) c

theorem isBlank_hyphen (c : Char) : Unicode.isBlank (hyphen c) = Unicode.isBlank c := by
  by_cases h : c = '_'
  · rw [h]
    decide
  · rw [hyphen, if_neg h]

theorem hyphen_hyphen (c : Char) : hyphen (hyphen c) = hyphen c := by
  by_cases h : c = '_'
  · rw [h]
    decide
  · rw [hyphen, hyphen, if_neg h, if_neg h]

theorem hyphen_toLower (c : Char) : hyphen c.toLower = (hyphen c).toLower := by
  have low : c.toLower = '_' ↔ c = '_' := toLower_eq_iff rfl
  by_cases h : c = '_'
  · rw [h]
    decide
  · rw [hyphen, if_neg fun eq => h (low.1 eq), hyphen, if_neg h]

theorem subtags_eq_split_trim (s : List Char) :
    subtags s = Delimited.split '-' (Unicode.trim (s.map hyphen)) := by
  rw [subtags, Unicode.trim_map isBlank_hyphen]

theorem subtags_map_toLower (s : List Char) :
    subtags (s.map Char.toLower) = (subtags s).map (List.map Char.toLower) := by
  have comm : hyphen ∘ Char.toLower = Char.toLower ∘ hyphen := funext hyphen_toLower
  rw [subtags, subtags, Unicode.trim_map isBlank_toLower, List.map_map, comm, ← List.map_map,
    Delimited.split_map fun c => toLower_eq_iff rfl]

/-- Characters that are neither white space nor underscores. -/
theorem plain_of_mem_flatMap {vs : List (List Char)}
    (plain : ∀ v ∈ vs, ∀ c ∈ v, c.isAlphanum = true) {c : Char} (hc : c ∈ vs.flatMap ('-' :: ·)) :
    Unicode.isBlank c = false ∧ hyphen c = c := by
  obtain ⟨v, hv, inside⟩ := List.mem_flatMap.1 hc
  rcases List.mem_cons.1 inside with rfl | inside
  · decide
  · exact plain_of_isAlphanum (plain v hv c inside)

theorem subtags_append_variants (s : List Char) {vs : List (List Char)} (ne : vs ≠ [])
    (plain : ∀ v ∈ vs, ∀ c ∈ v, c.isAlphanum = true) :
    subtags (s ++ vs.flatMap ('-' :: ·)) =
      Delimited.split '-' ((s.dropWhile Unicode.isBlank).map hyphen) ++ vs := by
  have filled : vs.flatMap ('-' :: ·) ≠ [] := by
    obtain ⟨v, hv⟩ := List.exists_mem_of_ne_nil vs ne
    exact List.ne_nil_of_mem (List.mem_flatMap.2 ⟨v, hv, List.mem_cons_self⟩)
  have same : (vs.flatMap ('-' :: ·)).map hyphen = vs.flatMap ('-' :: ·) := by
    rw [List.map_congr_left fun c hc => (plain_of_mem_flatMap plain hc).2, List.map_id']
  have whole : ∀ v ∈ vs, '-' ∉ v := fun v hv found => by cases plain v hv '-' found
  rw [subtags, Unicode.trim_append filled
    (fun c hc => (plain_of_mem_flatMap plain (List.mem_of_mem_head? hc)).1)
    (fun c hc => (plain_of_mem_flatMap plain (List.mem_of_mem_getLast? hc)).1),
    List.map_append, same, Delimited.split_append_flatMap _ whole]

theorem subtags_text {id : Locale} (plain : ∀ part ∈ id.parts, ∀ c ∈ part, c.isAlphanum = true) :
    subtags id.text.toList = id.parts := by
  obtain ⟨first, others⟩ := List.forall_mem_cons.1 plain
  have all : ∀ c ∈ ['-'].intercalate id.parts, Unicode.isBlank c = false ∧ hyphen c = c := by
    intro c hc
    rw [parts, Delimited.intercalate_eq_append, List.mem_append] at hc
    rcases hc with inside | inside
    · exact plain_of_isAlphanum (first c inside)
    · exact plain_of_mem_flatMap others inside
  have whole : ∀ part ∈ id.parts, '-' ∉ part := fun part mem found => by
    cases plain part mem '-' found
  have ne : id.parts ≠ [] := List.cons_ne_nil _ _
  rw [text, String.toList_ofList, subtags, Unicode.trim_eq_self fun c hc => (all c hc).1,
    List.map_congr_left fun c hc => (all c hc).2, List.map_id',
    Delimited.split_intercalate ne whole]

/-- A change to the spelling does not change what is read. -/
theorem Respells.ofSubtags?_eq {text text' : String} (h : Respells text text') :
    ofSubtags? (subtags text.toList) = ofSubtags? (subtags text'.toList) := by
  cases h with
  | separators same =>
    rw [String.toList_ofList, String.toList_ofList, subtags_eq_split_trim, same,
      subtags_eq_split_trim]
  | letters same =>
    rw [String.toList_ofList, String.toList_ofList, ← ofSubtags?_map_toLower, ← subtags_map_toLower,
      same, subtags_map_toLower, ofSubtags?_map_toLower]
  | blanks s blank =>
    obtain ⟨hb, ha⟩ := List.forall_mem_append.1 blank
    rw [String.toList_ofList, String.toList_ofList, subtags, subtags, Unicode.trim_blanks hb ha]
  | @variants s vs vs' perm all =>
    have kinds : ∀ v ∈ vs, ∃ u, variant? v = some u := fun v hv =>
      Option.isSome_iff_exists.1 (all v hv)
    have plain : ∀ v ∈ vs, ∀ c ∈ v, c.isAlphanum = true := fun v hv =>
      (kinds v hv).elim fun _ => caseBlind_variant.plain
    -- Without variants the white space at the end would be that of the front.
    by_cases ne : vs = []
    · rw [ne] at perm ⊢
      rw [perm.nil_eq]
    · have ne' : vs' ≠ [] := fun eq => ne (eq ▸ perm).eq_nil
      rw [String.toList_ofList, String.toList_ofList, subtags_append_variants s ne plain,
        subtags_append_variants s ne' fun v hv => plain v (perm.mem_iff.2 hv)]
      exact ofSubtags?_append_perm (Delimited.split_ne_nil _ _) perm kinds

theorem Respelled.read_eq_ok_iff {text text' : String} (h : Respelled text text') {id : Locale} :
    read text = .ok id ↔ read text' = .ok id := by
  rw [read_eq_ok_iff_ofSubtags?, read_eq_ok_iff_ofSubtags?]
  induction h with
  | rel text text' step => rw [step.ofSubtags?_eq]
  | refl text => rfl
  | symm text text' _ ih => exact ih.symm
  | trans text text' text'' _ _ ih ih' => exact ih.trans ih'

theorem Normal.read_text {id : Locale} (h : id.Normal) : read id.text = .ok id := by
  rw [read_eq_ok_iff_ofSubtags?, subtags_text h.plain, ofSubtags?_parts h]

theorem text_eq (id : Locale) :
    id.text = .ofList ((id.language ++ (id.script.toList ++ id.region.toList).flatMap ('-' :: ·)) ++
      id.variants.flatMap ('-' :: ·)) := by
  rw [text, parts, Delimited.intercalate_eq_append, ← List.append_assoc, List.flatMap_append,
    List.append_assoc]

/-- The normal form is a respelling of what spells the identifier. -/
theorem Spells.respelled {written id : Locale} (h : written.Spells id) :
    Respelled written.text id.text := by
  obtain ⟨vs, perm, settled, lower⟩ := h.lower_parts
  have letters : Respells written.text { id with variants := vs }.text := by
    apply Respells.letters
    rw [Delimited.map_intercalate rfl, Delimited.map_intercalate rfl, lower]
  have order : Respells { id with variants := vs }.text id.text := by
    rw [text_eq, text_eq]
    exact .variants _ perm.symm fun v hv => by rw [settled v hv, Option.isSome_some]
  exact .trans _ _ _ (.rel _ _ letters) (.rel _ _ order)

theorem respelled_of_read {text : String} {id : Locale} (h : read text = .ok id) :
    Respelled text id.text := by
  obtain ⟨written, parts, spells⟩ := ofSubtags?_eq_some_iff.1 (read_eq_ok_iff_ofSubtags?.1 h)
  obtain ⟨before, after, hb, ha, whole⟩ := Unicode.exists_trim text.toList
  have trimmed : Respells (.ofList (Unicode.trim text.toList)) text := by
    have blanks := Respells.blanks (Unicode.trim text.toList) (List.forall_mem_append.2 ⟨hb, ha⟩)
    rwa [← whole, String.ofList_toList] at blanks
  have hyphens : Respells (.ofList (Unicode.trim text.toList)) written.text := by
    have twice : hyphen ∘ hyphen = hyphen := funext hyphen_hyphen
    apply Respells.separators
    rw [parts, subtags, Delimited.intercalate_split, List.map_map, twice]
  have untrimmed : Respelled text (.ofList (Unicode.trim text.toList)) := .symm _ _ (.rel _ _ trimmed)
  exact untrimmed.trans _ _ _ (.trans _ _ _ (.rel _ _ hyphens) spells.respelled)

/-- A text is read as the identifier in normal form of which it is a respelling. -/
theorem read_eq_ok_iff {text : String} {id : Locale} :
    read text = .ok id ↔ id.Normal ∧ Respelled text id.text := by
  constructor
  · intro h
    obtain ⟨written, _, spells⟩ := ofSubtags?_eq_some_iff.1 (read_eq_ok_iff_ofSubtags?.1 h)
    exact ⟨spells.normal, respelled_of_read h⟩
  · rintro ⟨normal, respelled⟩
    exact respelled.read_eq_ok_iff.2 normal.read_text

end Figment.Locale
