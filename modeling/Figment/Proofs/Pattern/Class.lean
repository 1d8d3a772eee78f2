import Figment.Pattern.Reader
import Figment.Proofs.Pattern.Grammar
/-!
Classes and escapes are read as the grammar says.

The items of a class are read until one of them cannot be, and then the closing bracket has to
follow. So the statements about items speak of texts that such a bracket ends; it also decides
whether a hyphen makes a range.
-/

namespace Figment.Pattern

theorem ofLetter?_eq_some_iff {c : Char} {k : Shorthand} :
    Shorthand.ofLetter? c = some k ↔ c = k.letter := by
  constructor
  · intro h
    unfold Shorthand.ofLetter? at h
    split at h <;> cases h <;> rfl
  · rintro rfl
    cases k <;> rfl

theorem ofLetter?_eq_none_iff {c : Char} :
    Shorthand.ofLetter? c = none ↔ ∀ k : Shorthand, c ≠ k.letter := by
  rw [Option.eq_none_iff_forall_ne_some]
  exact forall_congr' fun k => not_congr ofLetter?_eq_some_iff

theorem escaped_iff {c d : Char} : Escaped c d ↔ d = unescape c := by
  constructor
  · intro h
    cases h with
    | lineFeed => rfl
    | tab => rfl
    | carriageReturn => rfl
    | itself other =>
      unfold unescape
      split <;> first | rfl | exact absurd (by decide) other
  · rintro rfl
    unfold unescape
    split
    · exact .lineFeed
    · exact .tab
    · exact .carriageReturn
    · next n t r => exact .itself (by simpa using ⟨n, t, r⟩)

theorem readClassChar_sound {s rest : List Char} {c : Char} (h : readClassChar s = .done c rest) :
    ∃ t, s = t ++ rest ∧ ClassCharText t c := by
  unfold readClassChar at h
  split at h
  · next d after =>
    cases h
    exact ⟨['\\', d], rfl, .escaped (escaped_iff.2 rfl)⟩
  · next d after _ =>
    split at h
    · cases h
    · next ordinary =>
      cases h
      exact ⟨[c], rfl, .plain (fun e => ordinary (.inl e)) (fun e => ordinary (.inr e))⟩
  · cases h

theorem readClassChar_complete {t : List Char} {c : Char} (h : ClassCharText t c)
    (rest : List Char) : readClassChar (t ++ rest) = .done c rest := by
  cases h with
  | plain bracket backslash => simp [readClassChar, bracket, backslash]
  | escaped e =>
    rw [escaped_iff.1 e]
    rfl

theorem ClassCharText.length_pos {t : List Char} {c : Char} (h : ClassCharText t c) :
    0 < t.length := by
  cases h <;> exact Nat.zero_lt_succ _

theorem ClassCharText.head_ne {t : List Char} {c : Char} (h : ClassCharText t c)
    (rest : List Char) : (t ++ rest).head? ≠ some ']' := by
  cases h with
  | plain bracket _ => simpa using bracket
  | escaped _ => simp

/-- Reading one item: what it takes from the text, and what it sees behind it. -/
inductive ItemStep : List Char → ClassItem → List Char → Prop
  | shorthand (k : Shorthand) (rest : List Char) :
      ItemStep ('\\' :: k.letter :: rest) (.shorthand k) rest
  | range {s t first last rest} : ClassCharText s first → NoShorthand s → ClassCharText t last →
      first ≤ last → ItemStep (s ++ '-' :: t ++ rest) (.range first last) rest
  | single {s c rest} : ClassCharText s c → NoShorthand s →
      (∀ after, rest = '-' :: after → after.head? = some ']') →
      ItemStep (s ++ rest) (.range c c) rest

theorem readClassRange_sound {s rest : List Char} {item : ClassItem}
    (h : readClassRange s = .done item rest) (none : ∀ k : Shorthand, ∀ u, s ≠ '\\' :: k.letter :: u) :
    ItemStep s item rest := by
  rw [readClassRange, Reply.andThen_eq_done] at h
  obtain ⟨first, middle, hc, h⟩ := h
  obtain ⟨t, rfl, text⟩ := readClassChar_sound hc
  have plain : NoShorthand t := fun k e => none k middle (by rw [e]; rfl)
  split at h
  · next after =>
    split at h
    · next close =>
      cases h
      apply ItemStep.single text plain
      intro after' e
      cases e
      exact close
    · rw [Reply.mapTrouble_eq_done, Reply.andThen_eq_done] at h
      obtain ⟨last, middle, hl, h⟩ := h
      obtain ⟨u, rfl, text'⟩ := readClassChar_sound hl
      split at h
      · next le =>
        cases h
        simpa using (ItemStep.range text plain text' le : ItemStep _ _ rest)
      · cases h
  · next other =>
    cases h
    apply ItemStep.single text plain
    intro after e
    exact absurd e (other after)

theorem readClassItem_sound {s rest : List Char} {item : ClassItem}
    (h : readClassItem s = .done item rest) : ItemStep s item rest := by
  unfold readClassItem at h
  split at h
  · next c after =>
    split at h
    · next k hk =>
      cases h
      rw [ofLetter?_eq_some_iff.1 hk]
      exact .shorthand k rest
    · next hk =>
      apply readClassRange_sound h
      rintro k u e
      cases e
      exact ofLetter?_eq_none_iff.1 hk k rfl
  · next other =>
    apply readClassRange_sound h
    rintro k u rfl
    exact other k.letter u rfl

theorem readClassItem_complete {s rest : List Char} {item : ClassItem} (h : ItemStep s item rest) :
    readClassItem s = .done item rest := by
  have toRange {t : List Char} {c : Char} (text : ClassCharText t c) (plain : NoShorthand t)
      (more : List Char) : readClassItem (t ++ more) = readClassRange (t ++ more) := by
    cases text with
    | plain _ backslash => simp [readClassItem, backslash]
    | @escaped d _ _ =>
      have none : Shorthand.ofLetter? d = none :=
        ofLetter?_eq_none_iff.2 fun k e => plain k (by rw [e])
      simp only [readClassItem, List.cons_append, none]
  cases h with
  | shorthand k =>
    have known : Shorthand.ofLetter? k.letter = some k := ofLetter?_eq_some_iff.2 rfl
    simp only [readClassItem, known]
  | range text plain text' le =>
    rw [List.append_assoc, toRange text plain, readClassRange, readClassChar_complete text]
    simp only [Reply.andThen, List.cons_append]
    rw [if_neg (text'.head_ne _), readClassChar_complete text']
    simp only [if_pos le, Reply.mapTrouble]
  | single text plain close =>
    rw [toRange text plain, readClassRange, readClassChar_complete text]
    simp only [Reply.andThen]
    split
    · rw [if_pos (close _ rfl)]
    · rfl

theorem ItemStep.length_lt {s rest : List Char} {item : ClassItem} (h : ItemStep s item rest) :
    rest.length < s.length := by
  cases h with
  | shorthand k => exact Nat.lt_succ_of_lt (Nat.lt_succ_self _)
  | range text _ _ _ =>
    have := text.length_pos
    simp only [List.length_append, List.length_cons]
    omega
  | single text _ _ =>
    have := text.length_pos
    rw [List.length_append]
    omega

theorem readClassItems_of_bracket {s : List Char} (close : s.head? = some ']') :
    readClassItems s = .done [] s := by
  obtain ⟨after, rfl⟩ := List.head?_eq_some_iff.1 close
  rw [readClassItems]
  rfl

theorem readClassItems_of_step {s rest : List Char} {item : ClassItem} (h : ItemStep s item rest) :
    readClassItems s = (readClassItems rest).map (item :: ·) := by
  rw [readClassItems, readClassItem_complete h]
  dsimp only
  rw [if_pos h.length_lt]

/-- A hyphen in front of the closing bracket is the last item. -/
theorem readClassItems_hyphen {after : List Char} (close : after.head? = some ']') :
    readClassItems ('-' :: after) = .done [.range '-' '-'] after := by
  have hyphen : ItemStep (['-'] ++ after) (.range '-' '-') after := by
    refine .single (.plain (by decide) (by decide)) (fun k e => ?_) fun more e => ?_
    · exact absurd (List.cons.inj e).1 (by decide)
    · rw [e] at close
      cases close
  change readClassItems (['-'] ++ after) = _
  rw [readClassItems_of_step hyphen, readClassItems_of_bracket close]
  rfl

theorem readClassItems_sound {s rest : List Char} {items : List ClassItem}
    (h : readClassItems s = .done items rest) : ∃ t, s = t ++ rest ∧ ItemsText t items := by
  fun_induction readClassItems s generalizing items with
  | case1 => cases h
  | case2 =>
    cases h
    exact ⟨[], rfl, .nil⟩
  | case3 s item middle hi _ ih =>
    obtain ⟨items, hm, rfl⟩ := Reply.map_eq_done.1 h
    obtain ⟨u, rfl, text⟩ := ih hm
    cases readClassItem_sound hi with
    | shorthand k => exact ⟨'\\' :: k.letter :: u, rfl, .shorthand text⟩
    | @range t t' first last _ start plain finish le =>
      exact ⟨t ++ '-' :: t' ++ u, by simp, .range start plain finish le text⟩
    | @single t c _ char plain bracket =>
      refine ⟨t ++ u, by simp, .single char plain (fun hyphen => ?_) text⟩
      obtain ⟨u, rfl⟩ := List.head?_eq_some_iff.1 hyphen
      have ends := readClassItems_hyphen (bracket (u ++ rest) rfl)
      rw [List.cons_append, ends] at hm
      have same : u ++ rest = rest := (Reply.done.inj hm).2
      rw [List.append_left_eq_self.1 same]
  | case4 s item middle hi long => exact absurd (readClassItem_sound hi).length_lt long

theorem readClassItems_complete {t rest : List Char} {items : List ClassItem}
    (h : ItemsText t items) (close : rest.head? = some ']') :
    readClassItems (t ++ rest) = .done items rest := by
  induction h with
  | nil => exact readClassItems_of_bracket close
  | @shorthand k s items _ ih =>
    rw [List.cons_append, List.cons_append, readClassItems_of_step (.shorthand k _), ih]
    rfl
  | range start plain finish le _ ih =>
    rw [List.append_assoc, readClassItems_of_step (.range start plain finish le), ih]
    rfl
  | @single s u c items char plain hyphen _ ih =>
    have ends : ∀ after, u ++ rest = '-' :: after → after.head? = some ']' := by
      intro after e
      cases u with
      | nil =>
        rw [List.nil_append] at e
        rw [e] at close
        cases close
      | cons d u =>
        obtain rfl : d = '-' := (List.cons.inj e).1
        have alone : u = [] := (List.cons.inj (hyphen rfl)).2
        rw [← (List.cons.inj e).2, alone]
        exact close
    rw [List.append_assoc, readClassItems_of_step (.single char plain ends), ih]
    rfl

/-- One item has to be there before all of them are read. -/
theorem readClassItems_nonempty {s rest : List Char} {items : List ClassItem} :
    ((readClassItem s).andThen fun _ _ => readClassItems s) = .done items rest ↔
      readClassItems s = .done items rest ∧ items ≠ [] := by
  rw [Reply.andThen_eq_done]
  constructor
  · rintro ⟨item, middle, first, all⟩
    refine ⟨all, ?_⟩
    rw [readClassItems_of_step (readClassItem_sound first), Reply.map_eq_done] at all
    obtain ⟨more, _, rfl⟩ := all
    exact List.cons_ne_nil _ _
  · rintro ⟨all, ne⟩
    cases first : readClassItem s with
    | done item middle => exact ⟨item, middle, rfl, all⟩
    | stuck t =>
      rw [readClassItems, first] at all
      dsimp only at all
      split at all
      · cases all
      · cases all
        exact absurd rfl ne

theorem readClassBody_eq_done {s rest : List Char} {k : CharClass} :
    readClass.body s = .done k rest ↔
      ∃ items, readClassItems (if s.head? = some '^' then s.tail else s) = .done items (']' :: rest) ∧
        items ≠ [] ∧ k = ⟨s.head? = some '^', items⟩ := by
  unfold readClass.body
  simp only
  rw [Reply.andThen_eq_done]
  constructor
  · rintro ⟨items, middle, hi, h⟩
    rw [Reply.mapTrouble_eq_done, readClassItems_nonempty] at hi
    split at h
    · cases h
      exact ⟨items, hi.1, hi.2, rfl⟩
    · cases h
  · rintro ⟨items, all, ne, rfl⟩
    exact ⟨items, _, Reply.mapTrouble_eq_done.2 (readClassItems_nonempty.2 ⟨all, ne⟩), rfl⟩

/-- A caret in front is no item. -/
theorem readClassBody_iff {s rest : List Char} {k : CharClass} :
    readClass.body s = .done k rest ↔
      ∃ start items, readClassItems start = .done items (']' :: rest) ∧ items ≠ [] ∧
        (s = '^' :: start ∧ k = ⟨true, items⟩ ∨
          s.head? ≠ some '^' ∧ s = start ∧ k = ⟨false, items⟩) := by
  rw [readClassBody_eq_done]
  by_cases caret : s.head? = some '^'
  · obtain ⟨start, rfl⟩ := List.head?_eq_some_iff.1 caret
    simp
  · simp only [caret, if_false, decide_false]
    constructor
    · rintro ⟨items, all, ne, rfl⟩
      exact ⟨s, items, all, ne, .inr ⟨caret, rfl, rfl⟩⟩
    · rintro ⟨start, items, all, ne, ⟨rfl, _⟩ | ⟨_, rfl, rfl⟩⟩
      · exact absurd rfl caret
      · exact ⟨items, all, ne, rfl⟩

theorem readClass_sound {s rest : List Char} {k : CharClass} (h : readClass s = .done k rest) :
    ∃ t, '[' :: s = t ++ rest ∧ ClassText t k := by
  rw [readClass, Reply.mapTrouble_eq_done, Reply.andThen_eq_done] at h
  obtain ⟨k', middle, hb, h⟩ := h
  split at h
  · cases h
  · next some =>
    cases h
    have denotes : ∃ c, k.Denotes c := by
      by_contra none
      exact some (candidates_eq_nil_iff.2 none)
    obtain ⟨start, items, all, ne, shape⟩ := readClassBody_iff.1 hb
    obtain ⟨t, rfl, text⟩ := readClassItems_sound all
    rcases shape with ⟨rfl, rfl⟩ | ⟨plain, rfl, rfl⟩
    · exact ⟨'[' :: '^' :: t ++ [']'], by simp, .negated text ne denotes⟩
    · refine ⟨'[' :: t ++ [']'], by simp, .positive (fun caret => plain ?_) text ne denotes⟩
      rw [List.head?_append, caret]
      rfl

theorem readClass_complete {t : List Char} {k : CharClass} (h : ClassText t k) (rest : List Char) :
    ∃ u, t = '[' :: u ∧ readClass (u ++ rest) = .done k rest := by
  have finish {s : List Char} (hb : readClass.body s = .done k rest) (denotes : ∃ c, k.Denotes c) :
      readClass s = .done k rest := by
    have some : k.candidates ≠ [] := fun none => candidates_eq_nil_iff.1 none denotes
    rw [readClass, hb]
    simp only [Reply.andThen, if_neg some, Reply.mapTrouble]
  cases h with
  | @positive s items plain text ne denotes =>
    refine ⟨s ++ [']'], rfl, finish (readClassBody_iff.2 ?_) denotes⟩
    refine ⟨s ++ [']'] ++ rest, items, ?_, ne, .inr ⟨?_, rfl, rfl⟩⟩
    · rw [List.append_assoc]
      exact readClassItems_complete text rfl
    · rw [List.append_assoc, List.head?_append]
      cases s with
      | nil => simp
      | cons c s => exact plain
  | @negated s items text ne denotes =>
    refine ⟨'^' :: s ++ [']'], rfl, finish (readClassBody_iff.2 ?_) denotes⟩
    refine ⟨s ++ [']'] ++ rest, items, ?_, ne, .inl ⟨rfl, rfl⟩⟩
    rw [List.append_assoc]
    exact readClassItems_complete text rfl

theorem readEscape_sound {s rest : List Char} {a : Atom} (h : readEscape s = .done a rest) :
    ∃ c, s = c :: rest ∧ EscapeText c a := by
  unfold readEscape at h
  split at h
  · cases h
  · next c after =>
    split at h
    · cases h
    · next reference =>
      rw [not_or] at reference
      split at h
      · next k hk =>
        cases h
        rw [ofLetter?_eq_some_iff.1 hk]
        exact ⟨k.letter, rfl, .shorthand k⟩
      · next hk =>
        split at h
        · next boundary =>
          cases h
          exact ⟨c, rfl, .boundary boundary⟩
        · next ordinary =>
          cases h
          rw [not_or] at ordinary
          exact ⟨c, rfl, .character reference.1 reference.2 ordinary.1 ordinary.2
            (ofLetter?_eq_none_iff.1 hk) (escaped_iff.2 rfl)⟩

theorem readEscape_complete {c : Char} {a : Atom} (h : EscapeText c a) (rest : List Char) :
    readEscape (c :: rest) = .done a rest := by
  cases h with
  | shorthand k => cases k <;> rfl
  | boundary hc => rcases hc with rfl | rfl <;> rfl
  | character digit k b upper other escaped =>
    have none := ofLetter?_eq_none_iff.2 other
    simp only [readEscape, digit, k, or_self, if_false, none, b, upper, escaped_iff.1 escaped]

end Figment.Pattern
