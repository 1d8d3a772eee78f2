import Figment.Proofs.Pattern.Class
import Figment.Proofs.Pattern.Longest
import Figment.Proofs.Pattern.Quantifier
/-!
Patterns are read as the grammar says.

Soundness follows the recursion of the readers; completeness follows the derivation of a text, with
any text behind it that cannot go on with the form at hand. Together they settle which texts are
patterns, and what strings the accepted ones generate.
-/

namespace Figment.Pattern

theorem readGroupMark_sound {s rest : List Char} (h : readGroupMark s = .done () rest) :
    s = '?' :: ':' :: rest := by
  unfold readGroupMark at h
  split at h
  · cases h
    rfl
  · cases h
  · cases h

mutual

theorem readAtom_sound {s : List Char} {a : Atom} {rest : List Char}
    (h : readAtom s = .done a rest) : ∃ t, s = t ++ rest ∧ AtomText t a := by
  rw [readAtom.eq_def] at h
  split at h
  · next inside =>
    split at h
    · cases h
    · next start mark =>
      split at h
      · next le =>
        obtain ⟨p, middle, hp, close⟩ := Reply.andThen_eq_done.1 h
        obtain ⟨t, rfl, text⟩ := readAlternatives_sound hp
        split at close
        · cases close
          rcases Reply.eq_of_optional_eq_done mark with ⟨_, _, marked⟩ | ⟨_, _, rfl⟩
          · obtain rfl := readGroupMark_sound marked
            exact ⟨'(' :: '?' :: ':' :: t ++ [')'], by simp, .unnumbered text⟩
          · exact ⟨'(' :: t ++ [')'], by simp, .group text⟩
        · cases close
      · cases h
  · obtain ⟨k, hk, rfl⟩ := Reply.map_eq_done.1 h
    obtain ⟨t, e, text⟩ := readClass_sound hk
    exact ⟨t, e, .set text⟩
  · cases h
    exact ⟨['^'], rfl, .start⟩
  · cases h
    exact ⟨['$'], rfl, .finish⟩
  · cases h
    exact ⟨['.'], rfl, .any⟩
  · obtain ⟨c, rfl, text⟩ := readEscape_sound h
    exact ⟨['\\', c], rfl, .escape text⟩
  · next c after _ _ _ _ _ _ =>
    split at h
    · cases h
    · next plain =>
      cases h
      refine ⟨[c], rfl, .literal ?_⟩
      simp only [isSpecial, decide_eq_true_eq] at plain
      intro mem
      apply plain
      simp only [List.mem_cons] at mem ⊢
      tauto
  · cases h
termination_by (s.length, 0)
decreasing_by
  subst_vars
  exact Prod.Lex.left _ _ (Nat.lt_succ_of_le (by assumption))

theorem readPiece_sound {s : List Char} {p : Piece} {rest : List Char}
    (h : readPiece s = .done p rest) : ∃ t, s = t ++ rest ∧ PieceText t p := by
  rw [readPiece] at h
  obtain ⟨a, middle, ha, hm⟩ := Reply.andThen_eq_done.1 h
  obtain ⟨bounds, hq, rfl⟩ := Reply.map_eq_done.1 hm
  obtain ⟨t, e, text⟩ := readAtom_sound ha
  rcases readTimes_sound hq with ⟨u, rfl, marks⟩ | ⟨rfl, rfl⟩
  · exact ⟨t ++ u, by rw [e, List.append_assoc], .repeated text marks⟩
  · exact ⟨t, e, .once text⟩
termination_by (s.length, 1)

theorem readRun_sound {s : List Char} {ps : List Piece} {rest : List Char}
    (h : readRun s = .done ps rest) : ∃ t, s = t ++ rest ∧ RunText t ps := by
  rw [readRun] at h
  split at h
  · split at h
    · cases h
    · cases h
      exact ⟨[], rfl, .nil⟩
  · next p middle hp =>
    obtain ⟨t, e, text⟩ := readPiece_sound hp
    split at h
    · next shorter =>
      obtain ⟨ps, hps, rfl⟩ := Reply.map_eq_done.1 h
      obtain ⟨u, rfl, more⟩ := readRun_sound hps
      exact ⟨t ++ u, by rw [e, List.append_assoc], .cons text more⟩
    · cases h
      exact ⟨t, e, by simpa using RunText.cons text .nil⟩
termination_by (s.length, 2)

theorem readAlternatives_sound {s : List Char} {p : Pattern} {rest : List Char}
    (h : readAlternatives s = .done p rest) : ∃ t, s = t ++ rest ∧ PatternText t p := by
  rw [readAlternatives] at h
  split at h
  · cases h
  · next run middle hr =>
    obtain ⟨t, e, text⟩ := readRun_sound hr
    split at h
    · next after =>
      split at h
      · next shorter =>
        obtain ⟨o, ho, rfl⟩ := Reply.map_eq_done.1 h
        rcases Reply.eq_of_optional_eq_done ho with ⟨p, rfl, hp⟩ | ⟨_, rfl, rfl⟩
        · obtain ⟨u, rfl, more⟩ := readAlternatives_sound hp
          exact ⟨t ++ '|' :: u, by rw [e, List.append_assoc]; rfl, .more text more⟩
        · exact ⟨t, e, .one text⟩
      · cases h
        exact ⟨t, e, .one text⟩
    · cases h
      exact ⟨t, e, .one text⟩
termination_by (s.length, 3)

end

/-- No form begins with the mark of a quantifier, so a mark always belongs to the piece before. -/
theorem AtomText.head_not_mark {s : List Char} {a : Atom} (h : AtomText s a) :
    ∃ c t, s = c :: t ∧ c ∉ quantifierMarks := by
  cases h with
  | group _ => exact ⟨'(', _, rfl, by decide⟩
  | unnumbered _ => exact ⟨'(', _, rfl, by decide⟩
  | set h =>
    obtain ⟨u, rfl, _⟩ := readClass_complete h []
    exact ⟨'[', u, rfl, by decide⟩
  | start => exact ⟨'^', [], rfl, by decide⟩
  | finish => exact ⟨'$', [], rfl, by decide⟩
  | any => exact ⟨'.', [], rfl, by decide⟩
  | escape _ => exact ⟨'\\', _, rfl, by decide⟩
  | @literal c plain =>
    refine ⟨c, [], rfl, fun mark => plain ?_⟩
    revert mark
    simp only [quantifierMarks, List.mem_cons]
    tauto

theorem PieceText.head_not_mark {s : List Char} {p : Piece} (h : PieceText s p) :
    ∃ c t, s = c :: t ∧ c ∉ quantifierMarks := by
  cases h with
  | once h => exact h.head_not_mark
  | repeated h _ =>
    obtain ⟨c, t, rfl, plain⟩ := h.head_not_mark
    exact ⟨c, _, rfl, plain⟩

theorem RunText.head_not_mark {s rest : List Char} {ps : List Piece} (h : RunText s ps)
    (stop : ∀ c ∈ rest.head?, c ∉ quantifierMarks) :
    ∀ c ∈ (s ++ rest).head?, c ∉ quantifierMarks := by
  cases h with
  | nil => exact stop
  | cons h _ =>
    obtain ⟨c, t, rfl, plain⟩ := h.head_not_mark
    rintro d ⟨⟩
    exact plain

theorem PatternText.head_not_mark {s rest : List Char} {p : Pattern} (h : PatternText s p)
    (stop : ∀ c ∈ rest.head?, c ∉ quantifierMarks) :
    ∀ c ∈ (s ++ rest).head?, c ∉ quantifierMarks := by
  cases h with
  | one h => exact h.head_not_mark stop
  | more h _ =>
    rw [List.append_assoc]
    refine h.head_not_mark ?_
    rintro c ⟨⟩
    decide

/-- What may stand behind a run: the end, a bar, or the end of a group. -/
def EndsRun (s : List Char) : Prop :=
  ∀ c ∈ s.head?, c = '|' ∨ c = ')'

theorem EndsRun.not_mark {s : List Char} (h : EndsRun s) :
    ∀ c ∈ s.head?, c ∉ quantifierMarks := by
  intro c hc
  rcases h c hc with rfl | rfl <;> decide

theorem readRun_of_endsRun {s : List Char} (h : EndsRun s) : readRun s = .done [] s := by
  have stuck : readPiece s = .stuck { rest := s } := by
    rw [readPiece]
    cases s with
    | nil =>
      rw [readAtom.eq_def]
      rfl
    | cons c s =>
      rcases h c rfl with rfl | rfl <;>
      · rw [readAtom.eq_def]
        rfl
  rw [readRun, stuck]
  rfl

mutual

theorem AtomText.read {s a} : AtomText s a → ∀ rest, readAtom (s ++ rest) = .done a rest
  | @AtomText.group t p h, rest => by
    have mark : readGroupMark (t ++ ')' :: rest) = .stuck { rest := t ++ ')' :: rest } := by
      have plain : ∀ c ∈ (t ++ ')' :: rest).head?, c ∉ quantifierMarks :=
        h.head_not_mark (by rintro c ⟨⟩; decide)
      unfold readGroupMark
      split
      · next e => exact absurd (by decide) (plain '?' (by rw [e]; rfl))
      · next e => exact absurd (by decide) (plain '?' (by rw [e]; rfl))
      · rfl
    rw [List.append_assoc, List.cons_append, readAtom.eq_def]
    simp only [List.singleton_append, mark, Reply.optional, Bool.false_eq_true, if_false,
      Nat.le_refl, if_true]
    rw [h.read (')' :: rest) (by rintro c ⟨⟩; rfl)]
    rfl
  | @AtomText.unnumbered t p h, rest => by
    have le : (t ++ ')' :: rest).length ≤ ('?' :: ':' :: (t ++ ')' :: rest)).length :=
      Nat.le_trans (Nat.le_succ _) (Nat.le_succ _)
    rw [List.append_assoc, List.cons_append, List.cons_append, List.cons_append, readAtom.eq_def]
    simp only [List.singleton_append, readGroupMark, Reply.optional, if_pos le]
    rw [h.read (')' :: rest) (by rintro c ⟨⟩; rfl)]
    rfl
  | .set h, rest => by
    obtain ⟨u, rfl, class_⟩ := readClass_complete h rest
    rw [List.cons_append, readAtom.eq_def]
    simp only [class_, Reply.map]
  | .start, rest => by rw [readAtom.eq_def]; rfl
  | .finish, rest => by rw [readAtom.eq_def]; rfl
  | .any, rest => by rw [readAtom.eq_def]; rfl
  | .escape h, rest => by
    rw [readAtom.eq_def]
    exact readEscape_complete h rest
  | @AtomText.literal c plain, rest => by
    simp only [List.mem_cons, not_or] at plain
    rw [readAtom.eq_def]
    simp [isSpecial, plain]

theorem PieceText.read {s p} : PieceText s p → ∀ rest,
    (∀ c ∈ rest.head?, c ∉ quantifierMarks) → readPiece (s ++ rest) = .done p rest
  | .once h, rest, stop => by
    rw [readPiece, h.read rest]
    simp only [Reply.andThen, readTimes_of_not_mem stop, Reply.map]
  | .repeated h q, rest, stop => by
    rw [List.append_assoc, readPiece, h.read]
    simp only [Reply.andThen, readTimes_complete q stop, Reply.map]

theorem RunText.read {s ps} : RunText s ps → ∀ rest, EndsRun rest →
    readRun (s ++ rest) = .done ps rest
  | .nil, rest, stop => readRun_of_endsRun stop
  | @RunText.cons s t p ps h more, rest, stop => by
    have shorter : (t ++ rest).length < (s ++ (t ++ rest)).length := by
      obtain ⟨c, u, rfl, _⟩ := h.head_not_mark
      simp only [List.length_append, List.length_cons]
      omega
    rw [List.append_assoc, readRun, h.read (t ++ rest) (more.head_not_mark stop.not_mark)]
    simp only [if_pos shorter, more.read rest stop, Reply.map]

theorem PatternText.read {s p} : PatternText s p → ∀ rest,
    (∀ c ∈ rest.head?, c = ')') → readAlternatives (s ++ rest) = .done p rest
  | .one h, rest, stop => by
    rw [readAlternatives, h.read rest (fun c hc => .inr (stop c hc))]
    dsimp only
    split
    · exact absurd (stop '|' rfl) (by decide)
    · rfl
  | @PatternText.more s t ps p h more, rest, stop => by
    have shorter : (t ++ rest).length < (s ++ '|' :: (t ++ rest)).length := by
      simp only [List.length_append, List.length_cons]
      omega
    rw [List.append_assoc, List.cons_append, readAlternatives,
      h.read ('|' :: (t ++ rest)) (by rintro c ⟨⟩; exact .inl rfl)]
    simp only [if_pos shorter, more.read rest stop, Reply.optional, Reply.map, Option.getD_some]

end

theorem readAlternatives_all_iff {s : List Char} {p : Pattern} :
    readAlternatives s = .done p [] ↔ PatternText s p := by
  constructor
  · intro h
    obtain ⟨t, rfl, text⟩ := readAlternatives_sound h
    rwa [List.append_nil]
  · intro h
    have done := h.read [] nofun
    rwa [List.append_nil] at done

theorem read_eq_ok_iff {text : String} {p : Pattern} :
    read text = .ok p ↔ PatternText text.toList p ∧ Pattern.longest p ≤ maxExpansion := by
  rw [← readAlternatives_all_iff, read]
  constructor
  · intro h
    split at h
    · cases h
    · next whole =>
      split at h
      · cases h
      · next le =>
        cases h
        exact ⟨whole, Nat.le_of_not_lt le⟩
    · cases h
  · rintro ⟨whole, le⟩
    rw [whole]
    exact if_neg (Nat.not_lt_of_le le)

theorem wellFormed_of_read {text : String} {p : Pattern} (h : read text = .ok p) : p.WellFormed :=
  (read_eq_ok_iff.1 h).1.wellFormed

theorem regexify_of_read {text : String} {p : Pattern} (h : read text = .ok p) (source : Source) :
    regexify text source = (.ok (generate p source).1, (generate p source).2) := by
  rw [regexify, h]
  rfl

/-- A text is read as a pattern if it is one, and the pattern generates no long string. -/
theorem read_iff_patternText {text : String} {p : Pattern} :
    read text = .ok p ↔
      PatternText text.toList p ∧ ∀ source, (Pattern.generate p source).1.length ≤ 100000 := by
  rw [read_eq_ok_iff]
  refine and_congr_right fun derived => ?_
  rw [longest_le_iff derived.wellFormed (by decide : maxExpansion < lengthCap)]
  constructor
  · intro all source
    exact all _ (always_generate_language derived.wellFormed source)
  · intro all s hs
    obtain ⟨source, rfl⟩ := (generates_iff_mem_language derived.wellFormed).2 hs
    exact all source

/-- The strings that come out of a text are those of the language that it is read as. -/
theorem regexify_exact {text : String} {p : Pattern} (h : read text = .ok p) :
    (∀ source, ∃ s ∈ p.language, (regexify text source).1 = .ok s) ∧
      ∀ s ∈ p.language, ∃ script, (regexify text (Source.scripted script)).1 = .ok s := by
  have run (source : Source) : (regexify text source).1 = .ok (p.generate source).1 := by
    unfold regexify
    rw [h]
    rfl
  constructor
  · intro source
    exact ⟨_, always_generate_language (wellFormed_of_read h) source, run source⟩
  · intro s hs
    obtain ⟨script, e⟩ := (can_generate_language hs).scripted
    exact ⟨script, by rw [run, e]⟩

theorem regexify_exact_alternation :
    read "b|c?" = .ok [[.mk (.literal 'b') 1 1], [.mk (.literal 'c') 0 1]] ∧
      ∃ script, (regexify "b|c?" (Source.scripted script)).1 = .ok ['c'] := by
  have accepted : read "b|c?" = .ok [[.mk (.literal 'b') 1 1], [.mk (.literal 'c') 0 1]] := by
    refine read_eq_ok_iff.2 ⟨?_, by decide⟩
    exact .more (.cons (.once (.literal (by decide))) .nil)
      (.one (.cons (.repeated (.literal (by decide)) (.greedy .optional)) .nil))
  have once : ['c'] ∈ (Piece.mk (.literal 'c') 0 1).language :=
    ⟨1, by decide, by decide, by rw [pow_one]; rfl⟩
  refine ⟨accepted, (regexify_exact accepted).2 ['c'] (Or.inr (Or.inl ?_))⟩
  exact Language.append_mem_mul once (Language.nil_mem_one)

end Figment.Pattern
