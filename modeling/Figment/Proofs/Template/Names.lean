import Figment.Proofs.Span
import Figment.Proofs.Template.Grammar
import Figment.Proofs.Unicode.Blank
import Figment.Template.Reader
/-!
Blanks, names and paths are read as the grammar says.

A text behind a form matters by its first character only: behind a name no other character of names may
stand, and behind a path no point either.
-/

namespace Figment.Template

theorem isNameChar_iff {c : Char} :
    isNameChar c = true ↔ Unicode.isAlphanumeric c = true ∨ c = '_' := by
  rw [isNameChar, Bool.or_eq_true, beq_iff_eq]

/-- No blank is a letter or a number, so a name ends where a blank follows it. -/
theorem isNameChar_of_isBlank {c : Char} (h : Unicode.isBlank c = true) : isNameChar c = false := by
  have none : ∀ n ∈ Unicode.blankRuns.flatMap Unicode.Run.codes,
      isNameChar (Char.ofNat n) = false := by
    decide +kernel
  exact @Unicode.forall_of_inTable _ (fun c => isNameChar c = false) none c h

theorem skipBlanks_of_head {s : List Char} (h : ∀ c ∈ s.head?, Unicode.isBlank c = false) :
    skipBlanks s = s :=
  dropWhile_eq_self h

theorem skipBlanks_append {w s : List Char} (h : Blanks w) : skipBlanks (w ++ s) = skipBlanks s :=
  List.dropWhile_append_of_pos h

theorem exists_blanks (s : List Char) : ∃ w, Blanks w ∧ s = w ++ skipBlanks s :=
  ⟨s.takeWhile Unicode.isBlank, fun _ => List.mem_takeWhile_imp,
    List.takeWhile_append_dropWhile.symm⟩

theorem readName_sound {s name rest : List Char} (h : readName s = .done name rest) :
    s = name ++ rest ∧ NameText name := by
  unfold readName at h
  dsimp only at h
  split at h
  · cases h
  · next ne =>
    cases h
    refine ⟨List.takeWhile_append_dropWhile.symm, ne, fun c hc => ?_⟩
    exact isNameChar_iff.1 (List.mem_takeWhile_imp hc)

theorem readName_complete {name rest : List Char} (h : NameText name)
    (stop : ∀ c ∈ rest.head?, isNameChar c = false) : readName (name ++ rest) = .done name rest := by
  have all : ∀ c ∈ name, isNameChar c = true := fun c hc => isNameChar_iff.2 (h.2 c hc)
  unfold readName
  dsimp only
  rw [takeWhile_append_stop all stop, dropWhile_append_stop all stop, if_neg h.1]

theorem NameText.length_pos {name : List Char} (h : NameText name) : 0 < name.length :=
  List.length_pos_of_ne_nil h.1

theorem NameText.skipBlanks_eq {name : List Char} (h : NameText name) (rest : List Char) :
    skipBlanks (name ++ rest) = name ++ rest := by
  cases name with
  | nil => exact absurd rfl h.1
  | cons c name =>
    apply skipBlanks_of_head
    rintro d ⟨⟩
    by_contra blank
    have other := isNameChar_of_isBlank (by simpa using blank)
    rw [isNameChar_iff.2 (h.2 c List.mem_cons_self)] at other
    cases other

/-- What may stand behind a path. -/
def EndsPath (s : List Char) : Prop :=
  ∀ c ∈ s.head?, isNameChar c = false ∧ c ≠ '.'

theorem MethodText.head_not_name {t rest : List Char} {names : List (List Char)}
    (h : MethodText t names) (stop : EndsPath rest) :
    ∀ c ∈ (t ++ rest).head?, isNameChar c = false := by
  cases h with
  | nil => exact fun c hc => (stop c hc).1
  | cons _ _ =>
    rintro c ⟨⟩
    decide +kernel

theorem readPathTail_sound (s : List Char) :
    ∃ t, s = t ++ (readPathTail s).2 ∧ MethodText t (readPathTail s).1 := by
  fun_induction readPathTail s with
  | case1 => exact ⟨[], rfl, .nil⟩
  | case2 after name rest hn _ names rest' tail ih =>
    obtain ⟨rfl, text⟩ := readName_sound hn
    obtain ⟨t, e, more⟩ := ih
    rw [tail] at e more
    exact ⟨'.' :: name ++ t, by rw [e]; simp, .cons text more⟩
  | case3 after name rest hn _ =>
    obtain ⟨rfl, text⟩ := readName_sound hn
    exact ⟨'.' :: name, rfl, by simpa using MethodText.cons text .nil⟩
  | case4 => exact ⟨[], rfl, .nil⟩

theorem readPathTail_of_endsPath {s : List Char} (h : EndsPath s) : readPathTail s = ([], s) := by
  rw [readPathTail.eq_def]
  split
  · next after => exact absurd rfl (h '.' rfl).2
  · rfl

theorem readPathTail_complete {t rest : List Char} {names : List (List Char)}
    (h : MethodText t names) (stop : EndsPath rest) : readPathTail (t ++ rest) = (names, rest) := by
  induction h with
  | nil => exact readPathTail_of_endsPath stop
  | @cons name s names text more ih =>
    have shorter : (s ++ rest).length ≤ (name ++ (s ++ rest)).length := by
      simp only [List.length_append]
      omega
    rw [List.cons_append, List.cons_append, List.append_assoc, readPathTail.eq_def]
    simp only [readName_complete text (more.head_not_name stop), if_pos shorter, ih]

theorem readPath_sound {s rest : List Char} {path : List Char × List (List Char)}
    (h : readPath s = .done path rest) :
    ∃ t, s = path.1 ++ t ++ rest ∧ NameText path.1 ∧ MethodText t path.2 := by
  rw [readPath, Reply.andThen_eq_done] at h
  obtain ⟨first, middle, hf, h⟩ := h
  cases h
  obtain ⟨rfl, text⟩ := readName_sound (Reply.mapTrouble_eq_done.1 hf)
  obtain ⟨t, e, more⟩ := readPathTail_sound middle
  exact ⟨t, by rw [List.append_assoc, ← e], text, more⟩

theorem readPath_complete {first t rest : List Char} {names : List (List Char)}
    (text : NameText first) (more : MethodText t names) (stop : EndsPath rest) :
    readPath (first ++ t ++ rest) = .done (first, names) rest := by
  rw [List.append_assoc, readPath,
    readName_complete text (more.head_not_name stop)]
  simp only [Reply.mapTrouble, Reply.andThen, readPathTail_complete more stop]

end Figment.Template
