import Figment.Proofs.Template.Segments
/-!
Where the readers of templates stop.

Every reader stops in front of a rest of its own text. A template is read to the end of its text, unless
a directive in it is refused; and then the trouble names the directive or the argument.
-/

namespace Figment.Template

theorem skipBlanks_suffix (s : List Char) : skipBlanks s <:+ s :=
  List.dropWhile_suffix _

theorem readName_suffix (s : List Char) : (readName s).rest <:+ s := by
  unfold readName
  dsimp only
  split
  · exact List.suffix_rfl
  · exact List.dropWhile_suffix _

theorem readPath_suffix (s : List Char) : (readPath s).rest <:+ s := by
  rw [readPath]
  apply Reply.andThen_suffix
  · exact Reply.mapTrouble_suffix (fun _ => rfl) (readName_suffix s)
  · intro first middle below
    obtain ⟨t, e, _⟩ := readPathTail_sound middle
    exact List.IsSuffix.trans ⟨t, e.symm⟩ below

theorem readQuoted_go_suffix (before s : List Char) : (readQuoted.go before s).rest <:+ s := by
  fun_induction readQuoted.go before s with
  | case1 before rest ih => exact ih.trans (suffix_cons_cons _ _ _)
  | case2 before rest => exact List.suffix_cons _ _
  | case3 before c rest _ _ ih => exact ih.trans (List.suffix_cons _ _)
  | case4 before => exact List.suffix_rfl

mutual

theorem readDirective_suffix (s : List Char) : (readDirective s).rest <:+ s := by
  rw [readDirective]
  refine Reply.mapTrouble_suffix (fun _ => rfl) (Reply.andThen_suffix ?_ ?_)
  · exact (readPath_suffix _).trans (skipBlanks_suffix s)
  · intro path middle below
    split
    · next shorter =>
      apply Reply.andThen_suffix
      · exact (readArguments_suffix middle).trans below
      · intro args behind lower
        have front := (skipBlanks_suffix behind).trans lower
        split
        · next after brace =>
          rw [brace] at front
          exact (List.suffix_cons _ _).trans front
        · exact front
    · exact below
termination_by 2 * s.length

theorem readArguments_suffix (s : List Char) : (readArguments s).rest <:+ s := by
  have below := (readArgument_suffix (skipBlanks s)).trans (skipBlanks_suffix s)
  rw [readArguments]
  split
  · next t first =>
    rw [first] at below
    split
    · exact below
    · exact List.suffix_rfl
  · next arg middle first =>
    rw [first] at below
    split
    · next shorter =>
      rw [Reply.rest_map]
      exact (readMoreArguments_suffix middle).trans below
    · exact below
termination_by 2 * s.length + 1
decreasing_by
  · have := length_skipBlanks_le s
    omega
  · omega

theorem readMoreArguments_suffix (s : List Char) : (readMoreArguments s).rest <:+ s := by
  rw [readMoreArguments]
  split
  · next after comma =>
    have behind : after <:+ s := by
      have front := skipBlanks_suffix s
      rw [comma] at front
      exact (List.suffix_cons _ _).trans front
    have shorter : (skipBlanks after).length < s.length := by
      have le := length_skipBlanks_le s
      rw [comma] at le
      exact Nat.lt_of_le_of_lt (length_skipBlanks_le after) le
    have below := (readArgument_suffix (skipBlanks after)).trans
      ((skipBlanks_suffix after).trans behind)
    split
    · next t first =>
      rw [first] at below
      split
      · exact below
      · exact List.suffix_rfl
    · next arg middle first =>
      rw [first] at below
      split
      · rw [Reply.rest_map]
        exact (readMoreArguments_suffix middle).trans below
      · exact below
  · exact List.suffix_rfl
termination_by 2 * s.length + 1

theorem readArgument_suffix (s : List Char) : (readArgument s).rest <:+ s := by
  rw [readArgument.eq_def]
  split
  · rw [Reply.rest_map]
    exact (readQuoted_go_suffix [] _).trans (List.suffix_cons _ _)
  · next inside =>
    rw [Reply.rest_map]
    exact (readDirective_suffix inside).trans (suffix_cons_cons _ _ _)
  · exact List.suffix_rfl
termination_by 2 * s.length

end

theorem suffix_of_spanLiteral {s text rest : List Char} (h : spanLiteral s = (text, rest)) :
    rest <:+ s := by
  have whole := spanLiteral_append s
  rw [h] at whole
  exact ⟨text, whole⟩

theorem readSegments_suffix (s : List Char) : (readSegments s).rest <:+ s := by
  fun_induction readSegments s with
  | case1 => exact List.suffix_rfl
  | case2 inside t stuck _ =>
    have below := readDirective_suffix inside
    rw [stuck] at below
    exact below.trans (suffix_cons_cons _ _ _)
  | case3 => exact List.suffix_rfl
  | case4 inside d rest first _ ih =>
    have below := readDirective_suffix inside
    rw [first] at below
    rw [Reply.rest_map]
    exact (ih.trans below).trans (suffix_cons_cons _ _ _)
  | case5 inside d rest first _ =>
    have below := readDirective_suffix inside
    rw [first] at below
    exact below.trans (suffix_cons_cons _ _ _)
  | case6 c after _ text rest span _ ih =>
    rw [Reply.rest_map]
    exact (ih.trans (suffix_of_spanLiteral span)).trans (List.suffix_cons _ _)
  | case7 c after _ text rest span _ =>
    exact (suffix_of_spanLiteral span).trans (List.suffix_cons _ _)

theorem readSegments_committed {s : List Char} {t : Trouble} (h : readSegments s = .stuck t) :
    t.Committed := by
  fun_induction readSegments s with
  | case1 => cases h
  | case2 inside u stuck _ =>
    cases h
    exact readDirective_committed stuck
  | case3 => cases h
  | case4 inside d rest _ _ ih => exact ih (Reply.map_eq_stuck.1 h)
  | case5 => cases h
  | case6 c after _ text rest _ _ ih => exact ih (Reply.map_eq_stuck.1 h)
  | case7 => cases h

/-- Reading is in trouble, or it has come to the end of the text. -/
theorem readSegments_stuck_or_done (s : List Char) :
    (∃ t, readSegments s = .stuck t) ∨ ∃ segments, readSegments s = .done segments [] := by
  cases reply : readSegments s with
  | stuck t => exact .inl ⟨t, rfl⟩
  | done segments rest =>
    obtain ⟨rfl, _⟩ := readSegments_sound reply
    exact .inr ⟨segments, rfl⟩

/-- A refused text is cut short, or malformed where its reader is in trouble. -/
theorem read_eq_error {text : String} {e : SyntaxError} (h : read text = .error e) :
    ∃ t, readSegments text.toList = .stuck t ∧ t.Committed ∧
      e = if t.rest = [] then .cutShort (.of text.toList []) else t.toError text.toList := by
  rw [read] at h
  rcases readSegments_stuck_or_done text.toList with ⟨t, stuck⟩ | ⟨segments, done⟩
  · rw [stuck] at h
    exact ⟨t, stuck, readSegments_committed stuck, (Except.error.inj h).symm⟩
  · rw [done] at h
    cases h

end Figment.Template
