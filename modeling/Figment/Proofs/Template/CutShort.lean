import Figment.Proofs.Template.Marks
/-!
Texts that end too soon.

A reader that gives up at the end of its text has met nothing wrong. It stands in front of a name, of
a closing brace or of a closing quote, and so the form it has begun is complete once these characters
are added. The suffix is found from the innermost form outwards: every open directive adds its brace
behind what its arguments need.
-/

namespace Figment.Template

/-- A quotation without an end can be given one. Behind a backslash at the end of the text it takes
two quotes, since the first of them belongs to the backslash. -/
theorem exists_quotedText_of_stuck {before s : List Char} {t : Trouble}
    (h : readQuoted.go before s = .stuck t) : ∃ x text, QuotedText (s ++ x) text := by
  fun_induction readQuoted.go before s with
  | case1 before rest ih =>
    obtain ⟨x, text, quoted⟩ := ih h
    exact ⟨x, '\'' :: text, .quote quoted⟩
  | case2 before rest => cases h
  | case3 before c rest pair quote ih =>
    by_cases last : c = '\\' ∧ rest = []
    · obtain ⟨rfl, rfl⟩ := last
      exact ⟨['\'', '\''], ['\''], .quote .close⟩
    · obtain ⟨x, text, quoted⟩ := ih h
      refine ⟨x, c :: text, .plain quote ?_ quoted⟩
      rintro ⟨rfl, head⟩
      cases rest with
      | nil => exact last ⟨rfl, rfl⟩
      | cons d rest =>
        obtain rfl : d = '\'' := Option.some.inj head
        exact pair rest rfl rfl
  | case4 before => exact ⟨['\''], [], .close⟩

theorem rest_of_readName_stuck {s : List Char} {t : Trouble} (h : readName s = .stuck t) :
    t.rest = s := by
  unfold readName at h
  dsimp only at h
  split at h
  · cases h
    rfl
  · cases h

theorem rest_of_readPath_stuck {s : List Char} {t : Trouble} (h : readPath s = .stuck t) :
    t.rest = s := by
  rw [readPath] at h
  rcases Reply.andThen_eq_stuck.1 h with first | ⟨_, _, _, tail⟩
  · obtain ⟨u, nameless, rfl⟩ := Reply.mapTrouble_eq_stuck.1 first
    change u.rest = s
    exact rest_of_readName_stuck nameless
  · cases tail

theorem blanks_of_skipBlanks {s : List Char} (h : skipBlanks s = []) : Blanks s := by
  obtain ⟨w, hw, front⟩ := exists_blanks s
  rw [h, List.append_nil] at front
  rwa [front]

mutual

theorem readDirective_stuck {s : List Char} {t : Trouble} (h : readDirective s = .stuck t)
    (ends : t.rest = []) : ∃ x d, DirectiveText ('#' :: '\x7b' :: (s ++ x)) d := by
  have none : Blanks [] := nofun
  rw [readDirective] at h
  obtain ⟨u, stuck, rfl⟩ := Reply.mapTrouble_eq_stuck.1 h
  change u.rest = [] at ends
  obtain ⟨w, hw, front⟩ := exists_blanks s
  rcases Reply.andThen_eq_stuck.1 stuck with nameless | ⟨path, middle, hp, stuck⟩
  · -- any name will do
    have blank : Blanks s := blanks_of_skipBlanks ((rest_of_readPath_stuck nameless).symm.trans ends)
    have name : NameText ['_'] := ⟨List.cons_ne_nil _ _, fun _ hc => .inr (List.mem_singleton.1 hc)⟩
    have text := DirectiveText.builtin blank name .none none
    exact ⟨['_', '\x7d'], _, by simpa using text⟩
  · obtain ⟨m, start, name, methods⟩ := readPath_sound hp
    split at stuck
    · next shorter =>
      rcases Reply.andThen_eq_stuck.1 stuck with unfinished | ⟨args, behind, ha, stuck⟩
      · obtain ⟨x, args, arguments⟩ := readArguments_stuck unfinished ends
        have text := directiveText_directiveOf hw name methods arguments none
        refine ⟨x ++ ['\x7d'], directiveOf path.1 path.2 args, ?_⟩
        rw [front, start]
        simpa using text
      · split at stuck
        · cases stuck
        · cases stuck
          obtain ⟨a, rfl, arguments⟩ := readArguments_sound ha
          have text := directiveText_directiveOf hw name methods arguments (blanks_of_skipBlanks ends)
          refine ⟨['\x7d'], directiveOf path.1 path.2 args, ?_⟩
          rw [front, start]
          simpa using text
    · next long =>
      -- a path takes at least one character
      have positive := name.length_pos
      refine absurd ?_ long
      rw [front, start]
      simp only [List.length_append]
      omega
termination_by 2 * s.length

theorem readArguments_stuck {s : List Char} {t : Trouble} (h : readArguments s = .stuck t)
    (ends : t.rest = []) : ∃ x args, ArgumentsText (s ++ x) args := by
  obtain ⟨w, hw, front⟩ := exists_blanks s
  have le := length_skipBlanks_le s
  rw [readArguments] at h
  split at h
  · next u first =>
    split at h
    · next fatal =>
      cases h
      obtain ⟨x, arg, text⟩ := readArgument_stuck first fatal ends
      refine ⟨x, [arg], ?_⟩
      rw [front]
      simpa using ArgumentsText.some hw text .nil
    · cases h
  · next arg middle first =>
    obtain ⟨u, e, text⟩ := readArgument_sound first
    split at h
    · next shorter =>
      obtain ⟨x, args, more⟩ := readMoreArguments_stuck (Reply.map_eq_stuck.1 h) ends
      refine ⟨x, arg :: args, ?_⟩
      rw [front, e]
      simpa using ArgumentsText.some hw text more
    · cases h
termination_by 2 * s.length + 1

theorem readMoreArguments_stuck {s : List Char} {t : Trouble} (h : readMoreArguments s = .stuck t)
    (ends : t.rest = []) : ∃ x args, MoreText (s ++ x) args := by
  rw [readMoreArguments] at h
  split at h
  · next after comma =>
    obtain ⟨w, hw, front⟩ := exists_blanks s
    obtain ⟨v, hv, behind⟩ := exists_blanks after
    have shorter : (skipBlanks after).length < s.length := by
      have le := length_skipBlanks_le s
      rw [comma] at le
      exact Nat.lt_of_le_of_lt (length_skipBlanks_le after) le
    split at h
    · next u first =>
      split at h
      · next fatal =>
        cases h
        obtain ⟨x, arg, text⟩ := readArgument_stuck first fatal ends
        refine ⟨x, [arg], ?_⟩
        rw [front, comma, behind]
        simpa using MoreText.cons hw hv text .nil
      · cases h
    · next arg middle first =>
      obtain ⟨u, e, text⟩ := readArgument_sound first
      split at h
      · next shorter =>
        obtain ⟨x, args, more⟩ := readMoreArguments_stuck (Reply.map_eq_stuck.1 h) ends
        refine ⟨x, arg :: args, ?_⟩
        rw [front, comma, behind, e]
        simpa using MoreText.cons hw hv text more
      · cases h
  · cases h
termination_by 2 * s.length + 1

/-- Trouble that is not fatal says that there is no argument, and nothing can complete it. -/
theorem readArgument_stuck {s : List Char} {t : Trouble} (h : readArgument s = .stuck t)
    (fatal : t.fatal = true) (ends : t.rest = []) : ∃ x arg, ArgumentText (s ++ x) arg := by
  rw [readArgument.eq_def] at h
  split at h
  · obtain ⟨x, text, quoted⟩ := exists_quotedText_of_stuck (Reply.map_eq_stuck.1 h)
    exact ⟨x, _, .quoted quoted⟩
  · obtain ⟨x, d, directive⟩ := readDirective_stuck (Reply.map_eq_stuck.1 h) ends
    exact ⟨x, _, .nested directive⟩
  · cases h
    cases fatal
termination_by 2 * s.length

end

theorem LiteralText.append {rest text : List Char} (h : LiteralText rest text) (ne : rest ≠ [])
    (x : List Char) : LiteralText (rest ++ x) text := by
  rw [literalText_iff] at h ⊢
  rwa [List.head?_append_of_ne_nil _ ne]

/-- The literal text in front of the directive that is cut short stays as it is. -/
theorem exists_templateText_of_stuck {s : List Char} {t : Trouble} (h : readSegments s = .stuck t)
    (ends : t.rest = []) : ∃ x u, TemplateText (s ++ x) u := by
  fun_induction readSegments s with
  | case1 => cases h
  | case2 inside u first _ =>
    cases h
    obtain ⟨x, d, directive⟩ := readDirective_stuck first ends
    refine ⟨x, [.directive d], templateText_directive_cons.2 ⟨_, [], ?_, directive, ?_⟩⟩
    · simp
    · exact templateText_nil.2 rfl
  | case3 => cases h
  | case4 inside d rest first _ ih =>
    obtain ⟨x, u, later⟩ := ih (Reply.map_eq_stuck.1 h)
    obtain ⟨v, rfl, directive⟩ := readDirective_sound first
    refine ⟨x, .directive d :: u, templateText_directive_cons.2 ⟨_, _, ?_, directive, later⟩⟩
    simp
  | case5 inside d rest first _ => cases h
  | case6 c after mark text rest span _ ih =>
    have stuck := Reply.map_eq_stuck.1 h
    obtain ⟨x, u, later⟩ := ih stuck
    obtain ⟨rfl, literal, stop⟩ := spanLiteral_sound span
    rcases stop with rfl | ⟨inside, rfl⟩
    · rw [readSegments] at stuck
      cases stuck
    · have whole : LiteralText ('#' :: '\x7b' :: inside) (c :: text) := by
        refine .cons ?_ literal
        rintro ⟨rfl, head⟩
        obtain ⟨after, e⟩ := List.head?_eq_some_iff.1 head
        exact mark after rfl e
      have next := later.endsLiteral_iff.1 (.inr ⟨inside ++ x, rfl⟩)
      refine ⟨x, .literal (.ofList (c :: text)) :: u,
        templateText_literal_cons.2 ⟨by simp, next, _, ?_, ?_, later⟩⟩
      · simp
      · rw [String.toList_ofList]
        exact whole.append (List.cons_ne_nil _ _) x
  | case7 c after mark text rest span long => cases h

/-- A text that is refused as cut short is refused at its end, and some text behind it makes a
template of it. -/
theorem completable_of_cutShort {text : String} {place : Position}
    (h : read text = .error (.cutShort place)) :
    place = .after text.toList ∧ ∃ suffix t, read (text ++ suffix) = .ok t := by
  rw [read] at h
  split at h
  · next t stuck =>
    split at h
    · next ends =>
      cases h
      constructor
      · rw [Position.of, List.length_nil, Nat.sub_zero, List.take_length]
      · obtain ⟨x, u, derived⟩ := exists_templateText_of_stuck stuck ends
        refine ⟨.ofList x, u, read_of_templateText ?_⟩
        rwa [String.toList_append, String.toList_ofList]
    · cases h
  · cases h
  · cases h

/-- On a second line, an argument of an argument ends in a backslash. -/
theorem completable_of_cutShort_backslash :
    read "a\n#\x7bb '1', #\x7bc 'x\\" = .error (.cutShort ⟨2, 17⟩) ∧
      ∃ suffix t, read ("a\n#\x7bb '1', #\x7bc 'x\\" ++ suffix) = .ok t := by
  have refused : (match read "a\n#\x7bb '1', #\x7bc 'x\\" with
      | .error e => some e
      | .ok _ => none) = some (.cutShort ⟨2, 17⟩) := by
    decide +kernel
  have short : read "a\n#\x7bb '1', #\x7bc 'x\\" = .error (.cutShort ⟨2, 17⟩) := by
    split at refused
    · next e eq =>
      rw [eq, Option.some.inj refused]
    · cases refused
  exact ⟨short, (completable_of_cutShort short).2⟩

end Figment.Template
