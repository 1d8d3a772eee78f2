import Figment.Proofs.Pattern.Reading
import Figment.Proofs.Stopping
/-!
Where the readers of patterns stop.

Every reader stops in front of a rest of its own text. An atom that has begun is not given up, so a run
ends at the end of its text or in front of a character that begins no atom: a bar, a closing parenthesis
or the mark of a quantifier. All alternatives are read, so the bar is never left over.
-/

namespace Figment.Pattern

theorem readNumber_suffix (s : List Char) : (readNumber s).rest <:+ s := by
  unfold readNumber
  dsimp only
  split
  · exact List.suffix_rfl
  · split
    · exact List.dropWhile_suffix _
    · exact List.suffix_rfl

theorem readBounds_suffix (s : List Char) : (readBounds s).rest <:+ s := by
  rw [readBounds]
  apply Reply.andThen_suffix (readNumber_suffix s)
  intro least middle below
  split
  · next after =>
    rw [Reply.rest_map]
    exact (Reply.optional_suffix (readNumber_suffix after)).trans ((List.suffix_cons _ _).trans below)
  · exact below

theorem readRepetition_suffix (s : List Char) : (readRepetition s).rest <:+ s := by
  rw [readRepetition]
  refine Reply.mapTrouble_suffix (fun _ => rfl) (Reply.andThen_suffix (readBounds_suffix s) ?_)
  intro bounds middle below
  split
  · split
    · exact (List.suffix_cons _ _).trans below
    · exact List.suffix_rfl
  · exact below

theorem skipLazy_suffix (s : List Char) : readQuantifier.skipLazy s <:+ s := by
  unfold readQuantifier.skipLazy
  split
  · exact List.suffix_cons _ _
  · exact List.suffix_rfl

theorem readQuantifier_suffix (s : List Char) : (readQuantifier s).rest <:+ s := by
  have marked (c : Char) (after : List Char) : readQuantifier.skipLazy after <:+ c :: after :=
    (skipLazy_suffix after).trans (List.suffix_cons c after)
  unfold readQuantifier
  split
  · exact marked _ _
  · exact marked _ _
  · exact marked _ _
  · next after =>
    refine Reply.andThen_suffix ((readRepetition_suffix after).trans (List.suffix_cons _ _)) ?_
    intro bounds middle below
    exact (skipLazy_suffix middle).trans below
  · exact List.suffix_rfl

theorem readTimes_suffix (s : List Char) : (readTimes s).rest <:+ s := by
  rw [readTimes, Reply.rest_map]
  exact Reply.optional_suffix (readQuantifier_suffix s)

theorem readClassChar_suffix (s : List Char) : (readClassChar s).rest <:+ s := by
  unfold readClassChar
  split
  · exact suffix_cons_cons _ _ _
  · split
    · exact List.suffix_rfl
    · exact List.suffix_cons _ _
  · exact List.suffix_rfl

theorem readClassRange_suffix (s : List Char) : (readClassRange s).rest <:+ s := by
  rw [readClassRange]
  apply Reply.andThen_suffix (readClassChar_suffix s)
  intro first middle below
  split
  · next after =>
    have behind := (List.suffix_cons _ after).trans below
    split
    · exact below
    · refine Reply.mapTrouble_suffix (fun _ => rfl)
        (Reply.andThen_suffix ((readClassChar_suffix after).trans behind) ?_)
      intro last rest lower
      split
      · exact lower
      · exact behind
  · exact below

theorem readClassItem_suffix (s : List Char) : (readClassItem s).rest <:+ s := by
  unfold readClassItem
  split
  · split
    · exact suffix_cons_cons _ _ _
    · exact readClassRange_suffix _
  · exact readClassRange_suffix _

theorem readClassItems_suffix (s : List Char) : (readClassItems s).rest <:+ s := by
  fun_induction readClassItems s with
  | case1 s t stuck _ =>
    have below := readClassItem_suffix s
    rwa [stuck] at below
  | case2 s t _ _ => exact List.suffix_rfl
  | case3 s item rest first _ ih =>
    have below := readClassItem_suffix s
    rw [first] at below
    rw [Reply.rest_map]
    exact ih.trans below
  | case4 s item rest first _ =>
    have below := readClassItem_suffix s
    rwa [first] at below

theorem readClass_suffix (s : List Char) : (readClass s).rest <:+ s := by
  have start : (if s.head? = some '^' then s.tail else s) <:+ s := by
    split
    · exact List.tail_suffix s
    · exact List.suffix_rfl
  have items : (readClass.body s).rest <:+ s := by
    unfold readClass.body
    dsimp only
    refine Reply.andThen_suffix (Reply.mapTrouble_suffix (fun _ => rfl) (Reply.andThen_suffix ?_ ?_)) ?_
    · exact (readClassItem_suffix _).trans (by simpa using start)
    · exact fun _ _ _ => (readClassItems_suffix _).trans (by simpa using start)
    · intro items middle below
      split
      · exact (List.suffix_cons _ _).trans below
      · exact below
  rw [readClass]
  refine Reply.mapTrouble_suffix (fun _ => rfl) (Reply.andThen_suffix items ?_)
  intro k middle below
  split
  · exact List.suffix_rfl
  · exact below

theorem readEscape_suffix (s : List Char) : (readEscape s).rest <:+ s := by
  unfold readEscape
  split
  · exact List.suffix_rfl
  · split
    · exact List.suffix_rfl
    · split
      · exact List.suffix_cons _ _
      · split
        · exact List.suffix_cons _ _
        · exact List.suffix_cons _ _

theorem readGroupMark_suffix (s : List Char) : (readGroupMark s).rest <:+ s := by
  unfold readGroupMark
  split
  · exact suffix_cons_cons _ _ _
  · exact List.suffix_cons _ _
  · exact List.suffix_rfl

mutual

theorem readAtom_suffix (s : List Char) : (readAtom s).rest <:+ s := by
  rw [readAtom.eq_def]
  split
  · next inside =>
    have below := Reply.optional_suffix (readGroupMark_suffix inside)
    split
    · next t stuck =>
      rw [stuck] at below
      exact below.trans (List.suffix_cons _ _)
    · next start mark =>
      rw [mark] at below
      have behind := below.trans (List.suffix_cons '(' inside)
      split
      · next le =>
        apply Reply.andThen_suffix ((readAlternatives_suffix start).trans behind)
        intro p middle lower
        split
        · exact (List.suffix_cons _ _).trans lower
        · exact lower
      · exact List.suffix_rfl
  · rw [Reply.rest_map]
    exact (readClass_suffix _).trans (List.suffix_cons _ _)
  · exact List.suffix_cons _ _
  · exact List.suffix_cons _ _
  · exact List.suffix_cons _ _
  · exact (readEscape_suffix _).trans (List.suffix_cons _ _)
  · split
    · exact List.suffix_rfl
    · exact List.suffix_cons _ _
  · exact List.suffix_rfl
termination_by (s.length, 0)
decreasing_by
  subst_vars
  exact Prod.Lex.left _ _ (Nat.lt_succ_of_le (by assumption))

theorem readPiece_suffix (s : List Char) : (readPiece s).rest <:+ s := by
  rw [readPiece]
  apply Reply.andThen_suffix (readAtom_suffix s)
  intro atom middle below
  rw [Reply.rest_map]
  exact (readTimes_suffix middle).trans below
termination_by (s.length, 1)

theorem readRun_suffix (s : List Char) : (readRun s).rest <:+ s := by
  have below := readPiece_suffix s
  rw [readRun]
  split
  · next t stuck =>
    rw [stuck] at below
    split
    · exact below
    · exact List.suffix_rfl
  · next piece middle first =>
    rw [first] at below
    split
    · next shorter =>
      rw [Reply.rest_map]
      exact (readRun_suffix middle).trans below
    · exact below
termination_by (s.length, 2)

theorem readAlternatives_suffix (s : List Char) : (readAlternatives s).rest <:+ s := by
  have below := readRun_suffix s
  rw [readAlternatives]
  split
  · next t stuck =>
    rw [stuck] at below
    exact below
  · next run middle first =>
    rw [first] at below
    split
    · next after =>
      split
      · next shorter =>
        have behind := (readAlternatives_suffix after).trans (List.suffix_cons '|' after)
        rw [Reply.rest_map]
        exact (Reply.optional_suffix behind).trans below
      · exact below
    · exact below
termination_by (s.length, 3)

end

theorem readTimes_committed {s : List Char} {t : Trouble} (h : readTimes s = .stuck t) :
    t.Committed := by
  obtain ⟨h, fatal⟩ := Reply.optional_eq_stuck.1 (Reply.map_eq_stuck.1 h)
  unfold readQuantifier at h
  split at h
  · cases h
  · cases h
  · cases h
  · rcases Reply.andThen_eq_stuck.1 h with stuck | ⟨_, _, _, lazy⟩
    · rw [readRepetition] at stuck
      obtain ⟨u, _, rfl⟩ := Reply.mapTrouble_eq_stuck.1 stuck
      exact (u.committed_within "repetition").expecting _
    · cases lazy
  · cases h
    cases fatal

theorem readClass_committed {s : List Char} {t : Trouble} (h : readClass s = .stuck t) :
    t.Committed := by
  rw [readClass] at h
  obtain ⟨u, _, rfl⟩ := Reply.mapTrouble_eq_stuck.1 h
  exact u.committed_within "character class"

theorem readEscape_committed {s : List Char} {t : Trouble} (h : readEscape s = .stuck t) :
    t.Committed := by
  unfold readEscape at h
  split at h
  · cases h
    exact ⟨rfl, rfl⟩
  · split at h
    · cases h
      exact ⟨rfl, rfl⟩
    · split at h
      · cases h
      · split at h
        · cases h
        · cases h

theorem readGroupMark_committed {s : List Char} {t : Trouble} (h : readGroupMark s = .stuck t)
    (fatal : t.fatal = true) : t.Committed := by
  unfold readGroupMark at h
  split at h
  · cases h
  · cases h
    exact ⟨rfl, rfl⟩
  · cases h
    cases fatal

/-- What a text cannot begin with if an atom is to be read from it. -/
def NoAtom (s : List Char) : Prop :=
  ∀ c ∈ s.head?, c ∈ ['|', ')', '*', '+', '?', '\x7b']

/-- Trouble in an atom or a piece: the atom has begun, or there is none. -/
def Fails (s : List Char) (t : Trouble) : Prop :=
  t.Committed ∨ t.fatal = false ∧ NoAtom s

mutual

theorem readAtom_fails {s : List Char} {t : Trouble} (h : readAtom s = .stuck t) : Fails s t := by
  rw [readAtom.eq_def] at h
  split at h
  · next inside =>
    split at h
    · next u stuck =>
      cases h
      obtain ⟨marked, fatal⟩ := Reply.optional_eq_stuck.1 stuck
      exact .inl (readGroupMark_committed marked fatal)
    · next start mark =>
      split at h
      · next le =>
        rcases Reply.andThen_eq_stuck.1 h with stuck | ⟨p, middle, _, close⟩
        · exact .inl (readAlternatives_committed stuck)
        · split at close
          · cases close
          · cases close
            exact .inl ⟨rfl, rfl⟩
      · next long =>
        -- the mark of a group is a part of the text
        have below := Reply.optional_suffix (readGroupMark_suffix inside)
        rw [mark] at below
        exact absurd below.length_le long
  · exact .inl (readClass_committed (Reply.map_eq_stuck.1 h))
  · cases h
  · cases h
  · cases h
  · exact .inl (readEscape_committed h)
  · next c after paren bracket caret dollar point backslash =>
    split at h
    · next special =>
      cases h
      refine .inr ⟨rfl, ?_⟩
      rintro d ⟨⟩
      simp only [isSpecial, decide_eq_true_eq, List.mem_cons] at special
      simp only [List.mem_cons]
      tauto
    · cases h
  · cases h
    exact .inr ⟨rfl, nofun⟩
termination_by (s.length, 0)
decreasing_by
  subst_vars
  exact Prod.Lex.left _ _ (Nat.lt_succ_of_le (by assumption))

theorem readPiece_fails {s : List Char} {t : Trouble} (h : readPiece s = .stuck t) : Fails s t := by
  rw [readPiece] at h
  rcases Reply.andThen_eq_stuck.1 h with stuck | ⟨atom, middle, _, marks⟩
  · exact readAtom_fails stuck
  · exact .inl (readTimes_committed (Reply.map_eq_stuck.1 marks))
termination_by (s.length, 1)

/-- Trouble that is not final ends a run. -/
theorem readRun_committed {s : List Char} {t : Trouble} (h : readRun s = .stuck t) : t.Committed := by
  rw [readRun] at h
  split at h
  · next u stuck =>
    split at h
    · next fatal =>
      cases h
      rcases readPiece_fails stuck with committed | ⟨passing, _⟩
      · exact committed
      · rw [fatal] at passing
        cases passing
    · cases h
  · next piece middle first =>
    split at h
    · next shorter => exact readRun_committed (Reply.map_eq_stuck.1 h)
    · cases h
termination_by (s.length, 2)

theorem readAlternatives_committed {s : List Char} {t : Trouble} (h : readAlternatives s = .stuck t) :
    t.Committed := by
  rw [readAlternatives] at h
  split at h
  · next u stuck =>
    cases h
    exact readRun_committed stuck
  · next run middle first =>
    split at h
    · next after =>
      split at h
      · next shorter =>
        have later := Reply.optional_eq_stuck.1 (Reply.map_eq_stuck.1 h)
        exact readAlternatives_committed later.1
      · cases h
    · cases h
termination_by (s.length, 3)

end

theorem noAtom_of_readRun {s : List Char} {ps : List Piece} {rest : List Char}
    (h : readRun s = .done ps rest) : NoAtom rest := by
  rw [readRun] at h
  split at h
  · next t stuck =>
    split at h
    · cases h
    · next passing =>
      cases h
      rcases readPiece_fails stuck with committed | ⟨_, none⟩
      · exact absurd committed.fatal passing
      · exact none
  · next piece middle first =>
    split at h
    · next shorter =>
      obtain ⟨_, more, _⟩ := Reply.map_eq_done.1 h
      exact noAtom_of_readRun more
    · next long =>
      -- a piece takes at least one character
      obtain ⟨t, e, text⟩ := readPiece_sound first
      obtain ⟨c, u, rfl, _⟩ := text.head_not_mark
      refine absurd ?_ long
      rw [e, List.length_append, List.length_cons]
      omega
termination_by s.length

/-- Nothing but these characters is left over behind a pattern. -/
theorem leftover_of_readAlternatives {s : List Char} {p : Pattern} {c : Char} {rest : List Char}
    (h : readAlternatives s = .done p (c :: rest)) : c ∈ [')', '*', '+', '?', '\x7b'] := by
  rw [readAlternatives] at h
  split at h
  · cases h
  · next run middle first =>
    split at h
    · next after =>
      split at h
      · next shorter =>
        obtain ⟨_, more, _⟩ := Reply.map_eq_done.1 h
        rcases Reply.eq_of_optional_eq_done more with ⟨_, _, more⟩ | ⟨⟨t, stuck, passing⟩, _⟩
        · exact leftover_of_readAlternatives more
        · -- alternatives that have begun are not given up, so the bar is not left
          rw [(readAlternatives_committed stuck).fatal] at passing
          cases passing
      · next long =>
        have below := readRun_suffix s
        rw [first] at below
        exact absurd below.length_le long
    · next other =>
      cases h
      rcases List.mem_cons.1 (noAtom_of_readRun first c rfl) with bar | mark
      · exact (other rest (congrArg (· :: rest) bar)).elim
      · exact mark
termination_by s.length

/-- A pattern is refused where its reader is in trouble, as a whole if its strings are too long, or at
the first character that is left over. -/
theorem read_eq_error {text : String} {e : SyntaxError} (h : read text = .error e) :
    (∃ t, readAlternatives text.toList = .stuck t ∧ t.Committed ∧ e = t.toError text.toList) ∨
      (∃ p, readAlternatives text.toList = .done p [] ∧ maxExpansion < Pattern.longest p ∧
        e = .malformed (.of text.toList text.toList)
          s!"invalid repetition, pattern can generate more than {maxExpansion} characters") ∨
      ∃ p c rest, readAlternatives text.toList = .done p (c :: rest) ∧
        c ∈ [')', '*', '+', '?', '\x7b'] ∧
        e = .malformed (.of text.toList (c :: rest)) (leftoverMessage c) := by
  rw [read] at h
  split at h
  · next t stuck =>
    cases h
    exact .inl ⟨t, stuck, readAlternatives_committed stuck, rfl⟩
  · next p whole =>
    split at h
    · next long =>
      cases h
      exact .inr (.inl ⟨p, whole, long, rfl⟩)
    · cases h
  · next p c rest left =>
    cases h
    exact .inr (.inr ⟨p, c, rest, left, leftover_of_readAlternatives left, rfl⟩)

/-- What is said about a parenthesis or a mark left over is not said about other characters. -/
theorem leftoverMessage_ne {c : Char} (h : c ∈ [')', '*', '+', '?', '\x7b']) (d : Char) :
    leftoverMessage c ≠ s!"unexpected character: '{d}'" := by
  simp only [List.mem_cons, List.not_mem_nil, or_false] at h
  apply ne_unexpected
  rcases h with rfl | rfl | rfl | rfl | rfl <;> decide

end Figment.Pattern
