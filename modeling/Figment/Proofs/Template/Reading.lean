import Figment.Proofs.Template.Names
/-!
Directives are read as the grammar says.

Directives and arguments call for each other, so soundness follows the recursion of their readers
and completeness the derivation of a text. Behind arguments the closing brace has to be the next
character that is not blank.
-/

namespace Figment.Template

theorem readQuoted_go_sound {before s text rest : List Char}
    (h : readQuoted.go before s = .done text rest) :
    ∃ t more, s = t ++ rest ∧ text = before.reverse ++ more ∧ QuotedText t more := by
  fun_induction readQuoted.go before s with
  | case1 before after ih =>
    obtain ⟨t, more, rfl, rfl, quoted⟩ := ih h
    exact ⟨'\\' :: '\'' :: t, '\'' :: more, rfl, by simp, .quote quoted⟩
  | case2 before after =>
    cases h
    exact ⟨['\''], [], rfl, by simp, .close⟩
  | case3 before c after pair quote ih =>
    obtain ⟨t, more, rfl, rfl, quoted⟩ := ih h
    refine ⟨c :: t, c :: more, rfl, by simp, .plain quote ?_ quoted⟩
    rintro ⟨rfl, head⟩
    obtain ⟨t, rfl⟩ := List.head?_eq_some_iff.1 head
    exact pair (t ++ rest) rfl rfl
  | case4 => cases h

theorem readQuoted_go_complete {t text rest : List Char} (h : QuotedText t text)
    (before : List Char) :
    readQuoted.go before (t ++ rest) = .done (before.reverse ++ text) rest := by
  induction h generalizing before with
  | close => simp [readQuoted.go]
  | quote _ ih => simp [readQuoted.go, ih]
  | @plain c s text quote pair more ih =>
    rw [List.cons_append, readQuoted.go.eq_def]
    split
    · next after e =>
      obtain ⟨rfl, tail⟩ := List.cons.inj e
      refine absurd ⟨rfl, ?_⟩ pair
      cases more <;> exact congrArg List.head? tail
    · next e => exact absurd (List.cons.inj e).1 quote
    · next d after _ _ e =>
      obtain ⟨rfl, rfl⟩ := List.cons.inj e
      rw [ih]
      simp
    · next e => cases e

theorem readQuoted_iff {s text rest : List Char} :
    readQuoted s = .done text rest ↔ ∃ t, s = t ++ rest ∧ QuotedText t text := by
  constructor
  · intro h
    obtain ⟨t, more, e, rfl, quoted⟩ := readQuoted_go_sound h
    exact ⟨t, e, quoted⟩
  · rintro ⟨t, rfl, quoted⟩
    exact readQuoted_go_complete quoted []

theorem directiveText_directiveOf {w first m a v : List Char} {names : List (List Char)}
    {args : List Argument} (hw : Blanks w) (name : NameText first) (more : MethodText m names)
    (arguments : ArgumentsText a args) (hv : Blanks v) :
    DirectiveText ('#' :: '\x7b' :: w ++ first ++ m ++ a ++ v ++ ['\x7d'])
      (directiveOf first names args) := by
  cases more with
  | nil =>
    rw [List.append_nil]
    exact .builtin hw name arguments hv
  | cons text tail =>
    exact .provider hw name (.cons text tail) (List.cons_ne_nil _ _) arguments hv

mutual

theorem readDirective_sound {s : List Char} {d : Directive} {rest : List Char}
    (h : readDirective s = .done d rest) :
    ∃ t, s = t ++ rest ∧ DirectiveText ('#' :: '\x7b' :: t) d := by
  rw [readDirective, Reply.mapTrouble_eq_done, Reply.andThen_eq_done] at h
  obtain ⟨path, middle, hp, h⟩ := h
  split at h
  · next shorter =>
    obtain ⟨args, behind, ha, brace⟩ := Reply.andThen_eq_done.1 h
    obtain ⟨m, start, name, methods⟩ := readPath_sound hp
    obtain ⟨a, rfl, arguments⟩ := readArguments_sound ha
    obtain ⟨w, hw, front⟩ := exists_blanks s
    obtain ⟨v, hv, back⟩ := exists_blanks behind
    split at brace
    · next after close =>
      cases brace
      refine ⟨w ++ path.1 ++ m ++ a ++ v ++ ['\x7d'], ?_,
        directiveText_directiveOf hw name methods arguments hv⟩
      rw [front, start, back, close]
      simp
    · cases brace
  · cases h
termination_by 2 * s.length

theorem readArguments_sound {s : List Char} {args : List Argument} {rest : List Char}
    (h : readArguments s = .done args rest) : ∃ t, s = t ++ rest ∧ ArgumentsText t args := by
  rw [readArguments] at h
  split at h
  · split at h
    · cases h
    · cases h
      exact ⟨[], rfl, .none⟩
  · next arg middle first =>
    obtain ⟨w, hw, front⟩ := exists_blanks s
    have le := length_skipBlanks_le s
    obtain ⟨t, e, text⟩ := readArgument_sound first
    split at h
    · next shorter =>
      obtain ⟨args, hm, rfl⟩ := Reply.map_eq_done.1 h
      obtain ⟨u, rfl, more⟩ := readMoreArguments_sound hm
      refine ⟨w ++ t ++ u, ?_, .some hw text more⟩
      rw [front, e]
      simp
    · cases h
      refine ⟨w ++ t, ?_, by simpa using ArgumentsText.some hw text .nil⟩
      rw [front, e]
      simp
termination_by 2 * s.length + 1

theorem readMoreArguments_sound {s : List Char} {args : List Argument} {rest : List Char}
    (h : readMoreArguments s = .done args rest) : ∃ t, s = t ++ rest ∧ MoreText t args := by
  rw [readMoreArguments] at h
  split at h
  · next after comma =>
    split at h
    · split at h
      · cases h
      · cases h
        exact ⟨[], rfl, .nil⟩
    · next arg middle first =>
      obtain ⟨w, hw, front⟩ := exists_blanks s
      obtain ⟨v, hv, behind⟩ := exists_blanks after
      have shorter : (skipBlanks after).length < s.length := by
        have le := length_skipBlanks_le s
        rw [comma] at le
        exact Nat.lt_of_le_of_lt (length_skipBlanks_le after) le
      obtain ⟨t, e, text⟩ := readArgument_sound first
      split at h
      · next shorter =>
        obtain ⟨args, hm, rfl⟩ := Reply.map_eq_done.1 h
        obtain ⟨u, rfl, more⟩ := readMoreArguments_sound hm
        refine ⟨w ++ ',' :: v ++ t ++ u, ?_, .cons hw hv text more⟩
        rw [front, comma, behind, e]
        simp
      · cases h
        refine ⟨w ++ ',' :: v ++ t, ?_, by simpa using MoreText.cons hw hv text .nil⟩
        rw [front, comma, behind, e]
        simp
  · cases h
    exact ⟨[], rfl, .nil⟩
termination_by 2 * s.length + 1

theorem readArgument_sound {s : List Char} {arg : Argument} {rest : List Char}
    (h : readArgument s = .done arg rest) : ∃ t, s = t ++ rest ∧ ArgumentText t arg := by
  rw [readArgument.eq_def] at h
  split at h
  · obtain ⟨text, ht, rfl⟩ := Reply.map_eq_done.1 h
    obtain ⟨t, rfl, quoted⟩ := readQuoted_iff.1 ht
    exact ⟨'\'' :: t, rfl, .quoted quoted⟩
  · obtain ⟨d, hd, rfl⟩ := Reply.map_eq_done.1 h
    obtain ⟨t, rfl, directive⟩ := readDirective_sound hd
    exact ⟨'#' :: '\x7b' :: t, rfl, .nested directive⟩
  · cases h
termination_by 2 * s.length

end

theorem Blanks.endsPath {w rest : List Char} (h : Blanks w) (stop : EndsPath rest) :
    EndsPath (w ++ rest) := by
  cases w with
  | nil => exact stop
  | cons c w =>
    have blank : Unicode.isBlank c = true := h c List.mem_cons_self
    rintro d ⟨⟩
    refine ⟨isNameChar_of_isBlank blank, ?_⟩
    rintro rfl
    exact absurd blank (by decide)

theorem ArgumentText.head {s : List Char} {arg : Argument} (h : ArgumentText s arg) :
    ∃ c u, s = c :: u ∧ (c = '\'' ∨ c = '#') := by
  cases h with
  | quoted _ => exact ⟨'\'', _, rfl, .inl rfl⟩
  | nested h => cases h <;> exact ⟨'#', _, rfl, .inr rfl⟩

theorem ArgumentText.skipBlanks_eq {s : List Char} {arg : Argument} (h : ArgumentText s arg)
    (rest : List Char) : skipBlanks (s ++ rest) = s ++ rest := by
  obtain ⟨c, u, rfl, rfl | rfl⟩ := h.head
  · exact skipBlanks_of_head (by rintro c ⟨⟩; decide)
  · exact skipBlanks_of_head (by rintro c ⟨⟩; decide)

theorem ArgumentText.length_lt {s : List Char} {arg : Argument} (h : ArgumentText s arg)
    (rest : List Char) : rest.length < (s ++ rest).length := by
  obtain ⟨c, u, rfl, _⟩ := h.head
  simp only [List.length_append, List.length_cons]
  omega

theorem ArgumentsText.endsPath {a rest : List Char} {args : List Argument}
    (h : ArgumentsText a args) (stop : EndsPath rest) : EndsPath (a ++ rest) := by
  cases h with
  | none => exact stop
  | some hw text _ =>
    rw [List.append_assoc, List.append_assoc]
    apply hw.endsPath
    obtain ⟨c, u, rfl, rfl | rfl⟩ := text.head
    · rintro c ⟨⟩
      decide +kernel
    · rintro c ⟨⟩
      decide +kernel

/-- What has to stand behind arguments. -/
def Closes (s : List Char) : Prop :=
  (skipBlanks s).head? = some '\x7d'

theorem readArguments_of_closes {s : List Char} (h : Closes s) : readArguments s = .done [] s := by
  obtain ⟨after, e⟩ := List.head?_eq_some_iff.1 h
  rw [readArguments, e, readArgument.eq_def]
  rfl

theorem readMoreArguments_of_closes {s : List Char} (h : Closes s) :
    readMoreArguments s = .done [] s := by
  obtain ⟨after, e⟩ := List.head?_eq_some_iff.1 h
  rw [readMoreArguments]
  split
  · next comma =>
    rw [e] at comma
    cases comma
  · rfl

theorem readDirective_of_readArguments {w first m a v : List Char} {names : List (List Char)}
    {args : List Argument} (hw : Blanks w) (name : NameText first) (more : MethodText m names)
    (arguments : ArgumentsText a args) (hv : Blanks v)
    (read : ∀ rest, Closes rest → readArguments (a ++ rest) = .done args rest) (rest : List Char) :
    readDirective (w ++ first ++ m ++ a ++ v ++ ['\x7d'] ++ rest) =
      .done (directiveOf first names args) rest := by
  have brace : skipBlanks (v ++ '\x7d' :: rest) = '\x7d' :: rest := by
    rw [skipBlanks_append hv, skipBlanks_of_head (by rintro c ⟨⟩; decide)]
  have ends : EndsPath (a ++ (v ++ '\x7d' :: rest)) :=
    arguments.endsPath (hv.endsPath (by rintro c ⟨⟩; decide +kernel))
  have start : skipBlanks (w ++ (first ++ m ++ (a ++ (v ++ '\x7d' :: rest)))) =
      first ++ m ++ (a ++ (v ++ '\x7d' :: rest)) := by
    rw [skipBlanks_append hw, List.append_assoc, name.skipBlanks_eq]
  have shorter : (a ++ (v ++ '\x7d' :: rest)).length <
      (w ++ (first ++ m ++ (a ++ (v ++ '\x7d' :: rest)))).length := by
    have positive := name.length_pos
    simp only [List.length_append]
    omega
  have whole : w ++ first ++ m ++ a ++ v ++ ['\x7d'] ++ rest =
      w ++ (first ++ m ++ (a ++ (v ++ '\x7d' :: rest))) := by simp
  rw [whole, readDirective, start, readPath_complete name more ends]
  simp only [Reply.andThen, if_pos shorter, read _ (by rw [Closes, brace]; rfl), brace,
    Reply.mapTrouble]

mutual

theorem DirectiveText.read {s d} : DirectiveText s d → ∀ rest,
    ∃ u, s = '#' :: '\x7b' :: u ∧ readDirective (u ++ rest) = .done d rest
  | .builtin hw name arguments hv, rest => by
    refine ⟨_, rfl, ?_⟩
    have read := readDirective_of_readArguments hw name .nil arguments hv
      arguments.read rest
    rwa [List.append_nil] at read
  | @DirectiveText.provider w first m a v names args hw name more ne arguments hv, rest => by
    refine ⟨_, rfl, ?_⟩
    have named : directiveOf first names args =
        .provider (.ofList first) (".".intercalate (names.map .ofList)) args := by
      cases names with
      | nil => exact absurd rfl ne
      | cons _ _ => rfl
    rw [← named]
    exact readDirective_of_readArguments hw name more arguments hv arguments.read rest

theorem ArgumentsText.read {a args} : ArgumentsText a args → ∀ rest, Closes rest →
    readArguments (a ++ rest) = .done args rest
  | .none, rest, close => readArguments_of_closes close
  | @ArgumentsText.some w s u arg args hw text more, rest, close => by
    have shorter : (u ++ rest).length < (w ++ (s ++ (u ++ rest))).length :=
      Nat.lt_of_lt_of_le (text.length_lt (u ++ rest)) (List.sublist_append_right w _).length_le
    rw [List.append_assoc, List.append_assoc, readArguments, skipBlanks_append hw,
      text.skipBlanks_eq, text.read]
    simp only [if_pos shorter, more.read rest close, Reply.map]

theorem MoreText.read {s args} : MoreText s args → ∀ rest, Closes rest →
    readMoreArguments (s ++ rest) = .done args rest
  | .nil, rest, close => readMoreArguments_of_closes close
  | @MoreText.cons w v s u arg args hw hv text more, rest, close => by
    have comma : skipBlanks (w ++ ',' :: v ++ s ++ u ++ rest) = ',' :: (v ++ (s ++ (u ++ rest))) := by
      simp only [List.append_assoc, List.cons_append]
      rw [skipBlanks_append hw, skipBlanks_of_head (by rintro c ⟨⟩; decide)]
    have shorter : (u ++ rest).length < (w ++ ',' :: v ++ s ++ u ++ rest).length := by
      have behind := text.length_lt (u ++ rest)
      simp only [List.length_append, List.length_cons] at behind ⊢
      omega
    have first : readArgument (skipBlanks (v ++ (s ++ (u ++ rest)))) = .done arg (u ++ rest) := by
      rw [skipBlanks_append hv, text.skipBlanks_eq, text.read]
    rw [readMoreArguments]
    split
    · next after e =>
      rw [comma] at e
      obtain rfl := (List.cons.inj e).2
      simp only [first, if_pos shorter, more.read rest close, Reply.map]
    · next other => exact absurd comma (other _)

theorem ArgumentText.read {s arg} : ArgumentText s arg → ∀ rest,
    readArgument (s ++ rest) = .done arg rest
  | .quoted quoted, rest => by
    rw [List.cons_append, readArgument.eq_def]
    simp only [readQuoted_iff.2 ⟨_, rfl, quoted⟩, Reply.map]
  | .nested directive, rest => by
    obtain ⟨u, rfl, read⟩ := directive.read rest
    rw [List.cons_append, List.cons_append, readArgument.eq_def]
    simp only [read, Reply.map]

end

end Figment.Template
