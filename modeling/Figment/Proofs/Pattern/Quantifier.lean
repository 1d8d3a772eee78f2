import Figment.Pattern.Reader
import Figment.Proofs.Pattern.Grammar
import Figment.Proofs.Span
import Mathlib.Data.List.Induction
import Mathlib.Data.Nat.Digits.Lemmas
/-!
Quantifiers are read as the grammar says.

A quantifier is read in full from the front of a text, provided that nothing behind it could be
taken for its lazy mark; a text that begins with none of the four marks has none.
-/

namespace Figment.Pattern

theorem isDigit_iff {c : Char} : c.isDigit = true ↔ '0' ≤ c ∧ c ≤ '9' := by
  rw [Char.isDigit, Bool.and_eq_true, decide_eq_true_eq, decide_eq_true_eq]
  rfl

theorem digitsValue_eq_ofDigits (ds : List Char) :
    Decimal.digitsValue ds = Nat.ofDigits 10 (ds.reverse.map fun c => c.toNat - '0'.toNat) := by
  induction ds using List.reverseRecOn with
  | nil => rfl
  | append_singleton ds d ih =>
    rw [List.reverse_concat, List.map_cons, Nat.ofDigits_cons, ← ih]
    unfold Decimal.digitsValue
    rw [List.foldl_append, Nat.add_comm]
    rfl

theorem readNumber_sound {s rest : List Char} {n : UInt32} (h : readNumber s = .done n rest) :
    ∃ t, s = t ++ rest ∧ NumberText t n := by
  unfold readNumber at h
  dsimp only at h
  split at h
  · cases h
  · next ne =>
    split at h
    · next small =>
      cases h
      refine ⟨_, (List.takeWhile_append_dropWhile).symm, ne, ?_, ?_⟩
      · intro c hc
        exact isDigit_iff.1 (List.mem_takeWhile_imp hc)
      · rw [← digitsValue_eq_ofDigits, UInt32.toNat_ofNat', Nat.mod_eq_of_lt small]
    · cases h

theorem readNumber_complete {t rest : List Char} {n : UInt32} (h : NumberText t n)
    (stop : ∀ c ∈ rest.head?, c.isDigit = false) : readNumber (t ++ rest) = .done n rest := by
  obtain ⟨ne, digits, value⟩ := h
  have all : ∀ c ∈ t, c.isDigit = true := fun c hc => isDigit_iff.2 (digits c hc)
  have small : Decimal.digitsValue t < Nat.pow 2 32 := by
    rw [digitsValue_eq_ofDigits, value]
    exact n.toNat_lt
  unfold readNumber
  dsimp only
  rw [takeWhile_append_stop all stop, dropWhile_append_stop all stop, if_neg ne, if_pos small,
    digitsValue_eq_ofDigits, value, UInt32.ofNat_toNat]

/-- Without a digit at the front there is no number, and something else may be read. -/
theorem readNumber_of_no_digit {s : List Char} (stop : ∀ c ∈ s.head?, c.isDigit = false) :
    readNumber s = .stuck { rest := s } := by
  unfold readNumber
  dsimp only
  rw [takeWhile_eq_nil stop, if_pos rfl]

theorem toNat_add_openRepeats {m : UInt32} (h : m ≤ 0xFFFFFFFF - openRepeats) :
    (m + openRepeats).toNat = m.toNat + 8 := by
  have le := UInt32.le_iff_toNat_le.1 h
  have whole : (0xFFFFFFFF - openRepeats).toNat = 4294967287 := rfl
  have eight : openRepeats.toNat = 8 := rfl
  rw [UInt32.toNat_add, eight]
  omega

theorem readBounds_sound {s rest : List Char} {b : UInt32 × UInt32}
    (h : readBounds s = .done b ('\x7d' :: rest)) (most : b.2 ≤ maxRepetition) (le : b.1 ≤ b.2) :
    ∃ t, s = t ++ '\x7d' :: rest ∧ BoundsText ('\x7b' :: t ++ ['\x7d']) b.1 b.2 := by
  rw [readBounds, Reply.andThen_eq_done] at h
  obtain ⟨m, middle, hm, h⟩ := h
  obtain ⟨t, rfl, number⟩ := readNumber_sound hm
  split at h
  · next after =>
    obtain ⟨o, ho, rfl⟩ := Reply.map_eq_done.1 h
    rcases Reply.eq_of_optional_eq_done ho with ⟨n, rfl, hn⟩ | ⟨_, rfl, rfl⟩
    · obtain ⟨u, rfl, second⟩ := readNumber_sound hn
      refine ⟨t ++ ',' :: u, by simp, ?_⟩
      simpa using BoundsText.between number second le most
    · refine ⟨t ++ [','], by simp, ?_⟩
      dsimp only at most ⊢
      split at most
      · next small =>
        rw [if_pos small]
        simpa using BoundsText.atLeast number (toNat_add_openRepeats small) most
      · exact absurd most (by decide)
  · cases h
    exact ⟨t, rfl, .exactly number most⟩

theorem readRepetition_sound {s rest : List Char} {b : UInt32 × UInt32}
    (h : readRepetition s = .done b rest) :
    ∃ t, s = t ++ rest ∧ BoundsText ('\x7b' :: t) b.1 b.2 := by
  rw [readRepetition, Reply.mapTrouble_eq_done, Reply.andThen_eq_done] at h
  obtain ⟨bounds, middle, hb, h⟩ := h
  split at h
  · next after =>
    split at h
    · next ordered =>
      cases h
      obtain ⟨t, rfl, text⟩ := readBounds_sound hb ordered.2 ordered.1
      exact ⟨t ++ ['\x7d'], by simp, text⟩
    · cases h
  · cases h

theorem readRepetition_of_readBounds {s rest : List Char} {m n : UInt32}
    (h : readBounds s = .done (m, n) ('\x7d' :: rest)) (le : m ≤ n) (most : n ≤ maxRepetition) :
    readRepetition s = .done (m, n) rest := by
  rw [readRepetition, h]
  change (if m ≤ n ∧ n ≤ maxRepetition then Reply.done (m, n) rest
    else .stuck { rest := s }).mapTrouble _ = _
  rw [if_pos ⟨le, most⟩]
  rfl

/-- The bounds are read, and a question mark behind them is skipped. -/
theorem readQuantifier_of_bounds {s : List Char} {m n : UInt32} (h : BoundsText s m n)
    (rest : List Char) :
    readQuantifier (s ++ rest) = .done (m, n) (readQuantifier.skipLazy rest) := by
  have repetition {t : List Char} {m n : UInt32} (bounds : readBounds t = .done (m, n) ('\x7d' :: rest))
      (le : m ≤ n) (most : n ≤ maxRepetition) :
      readQuantifier ('\x7b' :: t) = .done (m, n) (readQuantifier.skipLazy rest) := by
    rw [readQuantifier, readRepetition_of_readBounds bounds le most]
    rfl
  cases h with
  | optional => rfl
  | star => rfl
  | plus => rfl
  | @exactly t m number most =>
    rw [List.append_assoc, List.cons_append]
    apply repetition _ (UInt32.le_refl m) most
    rw [readBounds, readNumber_complete number (by simp)]
    rfl
  | @between t u m n first second le most =>
    rw [List.append_assoc, List.append_assoc, List.cons_append]
    apply repetition _ le most
    rw [readBounds, List.cons_append, readNumber_complete first (by simp)]
    change ((readNumber (u ++ '\x7d' :: rest)).optional _).map _ = _
    rw [readNumber_complete second (by simp)]
    rfl
  | @atLeast t m n number eq most =>
    have total := UInt32.le_iff_toNat_le.1 most
    have small : m ≤ 0xFFFFFFFF - openRepeats := by
      rw [UInt32.le_iff_toNat_le]
      change _ ≤ 4294967287
      change n.toNat ≤ 1000 at total
      omega
    have sum : m + openRepeats = n := by
      apply UInt32.toNat_inj.1
      rw [toNat_add_openRepeats small, eq]
    rw [List.append_assoc, List.cons_append]
    change readQuantifier ('\x7b' :: (t ++ ',' :: '\x7d' :: rest)) = _
    apply repetition _ (BoundsText.atLeast number eq most).le most
    have none_follows : readNumber ('\x7d' :: rest) = .stuck { rest := '\x7d' :: rest } :=
      readNumber_of_no_digit (by simp)
    rw [readBounds, readNumber_complete number (by simp)]
    simp only [Reply.andThen, none_follows, Reply.optional, Reply.map, Bool.false_eq_true,
      if_false, if_pos small, sum]

/-- The characters that a quantifier begins with. -/
def quantifierMarks : List Char :=
  ['?', '*', '+', '\x7b']

theorem readQuantifier_complete {s rest : List Char} {m n : UInt32} (h : QuantifierText s m n)
    (stop : ∀ c ∈ rest.head?, c ∉ quantifierMarks) :
    readQuantifier (s ++ rest) = .done (m, n) rest := by
  cases h with
  | greedy h =>
    rw [readQuantifier_of_bounds h]
    unfold readQuantifier.skipLazy
    split
    · exact absurd (by decide) (stop '?' rfl)
    · rfl
  | lazy h =>
    rw [List.append_assoc, readQuantifier_of_bounds h]
    rfl

theorem readTimes_complete {s rest : List Char} {m n : UInt32} (h : QuantifierText s m n)
    (stop : ∀ c ∈ rest.head?, c ∉ quantifierMarks) :
    readTimes (s ++ rest) = .done (m, n) rest := by
  rw [readTimes, readQuantifier_complete h stop]
  rfl

theorem readQuantifier_of_not_mem {s : List Char} (stop : ∀ c ∈ s.head?, c ∉ quantifierMarks) :
    readQuantifier s = .stuck { rest := s } := by
  unfold readQuantifier
  split
  · exact absurd (by decide) (stop '?' rfl)
  · exact absurd (by decide) (stop '*' rfl)
  · exact absurd (by decide) (stop '+' rfl)
  · exact absurd (by decide) (stop '\x7b' rfl)
  · rfl

/-- Without one of the marks behind it, a piece stands exactly once. -/
theorem readTimes_of_not_mem {s : List Char} (stop : ∀ c ∈ s.head?, c ∉ quantifierMarks) :
    readTimes s = .done (1, 1) s := by
  rw [readTimes, readQuantifier_of_not_mem stop]
  rfl

theorem lazy_or_greedy {t rest : List Char} {m n : UInt32} (h : BoundsText t m n) :
    ∃ u, t ++ rest = u ++ readQuantifier.skipLazy rest ∧ QuantifierText u m n := by
  unfold readQuantifier.skipLazy
  split
  · exact ⟨t ++ ['?'], by simp, .lazy h⟩
  · exact ⟨t, rfl, .greedy h⟩

theorem readQuantifier_sound {s rest : List Char} {b : UInt32 × UInt32}
    (h : readQuantifier s = .done b rest) : ∃ t, s = t ++ rest ∧ QuantifierText t b.1 b.2 := by
  unfold readQuantifier at h
  split at h
  · cases h
    exact lazy_or_greedy .optional
  · cases h
    exact lazy_or_greedy .star
  · cases h
    exact lazy_or_greedy .plus
  · obtain ⟨bounds, middle, hb, h⟩ := Reply.andThen_eq_done.1 h
    cases h
    obtain ⟨t, rfl, text⟩ := readRepetition_sound hb
    exact lazy_or_greedy text
  · cases h

theorem readTimes_sound {s rest : List Char} {b : UInt32 × UInt32} (h : readTimes s = .done b rest) :
    (∃ t, s = t ++ rest ∧ QuantifierText t b.1 b.2) ∨ b = (1, 1) ∧ rest = s := by
  obtain ⟨o, ho, rfl⟩ := Reply.map_eq_done.1 h
  rcases Reply.eq_of_optional_eq_done ho with ⟨b, rfl, hb⟩ | ⟨_, rfl, rfl⟩
  · exact .inl (readQuantifier_sound hb)
  · exact .inr ⟨rfl, rfl⟩

end Figment.Pattern
