import Figment.Proofs.Stopping
import Figment.Proofs.Template.Reading
/-!
Templates are read as the grammar says.

Segments are read until one cannot be. That is only where the text ends: literal characters go on up to
the next opening mark, and a directive that has begun cannot be given up.
-/

namespace Figment.Template

/-- No directive begins inside of the text, whatever is behind it. -/
inductive LiteralText (rest : List Char) : List Char → Prop
  | nil : LiteralText rest []
  | cons {c s} : ¬ (c = '#' ∧ (s ++ rest).head? = some '\x7b') → LiteralText rest s →
      LiteralText rest (c :: s)

/-- Where literal text ends. -/
def EndsLiteral (s : List Char) : Prop :=
  s = [] ∨ ∃ inside, s = '#' :: '\x7b' :: inside

theorem spanLiteral_go_sound (before s : List Char) :
    ∃ text, (spanLiteral.go before s).1 = before.reverse ++ text ∧
      s = text ++ (spanLiteral.go before s).2 ∧
      LiteralText (spanLiteral.go before s).2 text ∧ EndsLiteral (spanLiteral.go before s).2 := by
  fun_induction spanLiteral.go before s with
  | case1 before => exact ⟨[], by simp, rfl, .nil, .inl rfl⟩
  | case2 before inside => exact ⟨[], by simp, rfl, .nil, .inr ⟨inside, rfl⟩⟩
  | case3 before c after mark ih =>
    obtain ⟨text, first, whole, literal, ends⟩ := ih
    refine ⟨c :: text, by simp [first], by rw [List.cons_append, ← whole], .cons ?_ literal, ends⟩
    rintro ⟨rfl, head⟩
    rw [← whole] at head
    obtain ⟨after, rfl⟩ := List.head?_eq_some_iff.1 head
    exact mark after rfl rfl

theorem spanLiteral_sound {s text rest : List Char} (h : spanLiteral s = (text, rest)) :
    s = text ++ rest ∧ LiteralText rest text ∧ EndsLiteral rest := by
  obtain ⟨text', first, whole, literal, ends⟩ := spanLiteral_go_sound [] s
  rw [show spanLiteral.go [] s = (text, rest) from h] at first whole literal ends
  obtain rfl : text = text' := first
  exact ⟨whole, literal, ends⟩

theorem spanLiteral_go_complete {text rest : List Char} (h : LiteralText rest text)
    (ends : EndsLiteral rest) (before : List Char) :
    spanLiteral.go before (text ++ rest) = (before.reverse ++ text, rest) := by
  induction h generalizing before with
  | nil =>
    rcases ends with rfl | ⟨inside, rfl⟩
    · simp [spanLiteral.go]
    · simp [spanLiteral.go]
  | @cons c s mark _ ih =>
    rw [List.cons_append, spanLiteral.go.eq_def]
    split
    · next e => cases e
    · next inside e =>
      obtain ⟨rfl, tail⟩ := List.cons.inj e
      exact absurd ⟨rfl, congrArg List.head? tail⟩ mark
    · next d after _ e =>
      obtain ⟨rfl, rfl⟩ := List.cons.inj e
      rw [ih]
      simp

theorem spanLiteral_complete {text rest : List Char} (h : LiteralText rest text)
    (ends : EndsLiteral rest) : spanLiteral (text ++ rest) = (text, rest) :=
  spanLiteral_go_complete h ends []

/-- A run of characters is derived one by one. -/
theorem itemsText_literal_iff {s text : List Char} {items : List (Char ⊕ Directive)} :
    ItemsText s (text.map .inl ++ items) ↔
      ∃ rest, s = text ++ rest ∧ LiteralText rest text ∧ ItemsText rest items := by
  induction text generalizing s with
  | nil =>
    constructor
    · intro h
      exact ⟨s, rfl, .nil, h⟩
    · rintro ⟨rest, rfl, _, h⟩
      exact h
  | cons c text ih =>
    constructor
    · intro h
      cases h with
      | @literal _ s _ mark more =>
        obtain ⟨rest, rfl, literal, behind⟩ := ih.1 more
        exact ⟨rest, rfl, .cons mark literal, behind⟩
    · rintro ⟨rest, rfl, literal, behind⟩
      cases literal with
      | cons mark literal => exact .literal mark (ih.2 ⟨rest, rfl, literal, behind⟩)

theorem merged_nil : Merged [] :=
  ⟨nofun, .nil⟩

theorem merged_directive_cons {d : Directive} {t : Template} :
    Merged (.directive d :: t) ↔ Merged t := by
  constructor
  · intro h
    exact ⟨fun text ht => h.nonempty text (List.mem_cons_of_mem _ ht), (List.isChain_cons.1 h.apart).2⟩
  · intro h
    refine ⟨fun text ht => ?_, List.isChain_cons.2 ⟨fun _ _ both => ?_, h.apart⟩⟩
    · cases ht with
      | tail _ later => exact h.nonempty text later
    · exact absurd both.1 (by simp [Segment.isLiteral])

theorem merged_literal_cons {text : String} {t : Template} :
    Merged (.literal text :: t) ↔
      text ≠ "" ∧ (∀ g ∈ t.head?, g.isLiteral = false) ∧ Merged t := by
  constructor
  · intro h
    obtain ⟨next, apart⟩ := List.isChain_cons.1 h.apart
    refine ⟨h.nonempty text List.mem_cons_self, fun g hg => ?_, ?_⟩
    · simpa [Segment.isLiteral] using next g hg
    · exact ⟨fun other ht => h.nonempty other (List.mem_cons_of_mem _ ht), apart⟩
  · rintro ⟨ne, next, h⟩
    refine ⟨fun other ht => ?_, List.isChain_cons.2 ⟨fun g hg both => ?_, h.apart⟩⟩
    · cases ht with
      | head => exact ne
      | tail _ later => exact h.nonempty other later
    · rw [next g hg] at both
      cases both.2

theorem templateText_directive_cons {s : List Char} {d : Directive} {t : Template} :
    TemplateText s (.directive d :: t) ↔
      ∃ u v, s = u ++ v ∧ DirectiveText u d ∧ TemplateText v t := by
  constructor
  · rintro ⟨derived, merged⟩
    cases derived with
    | @directive u v _ _ here later =>
      exact ⟨u, v, rfl, here, later, merged_directive_cons.1 merged⟩
  · rintro ⟨u, v, rfl, here, later⟩
    exact ⟨.directive here later.items, merged_directive_cons.2 later.merged⟩

theorem exists_cons_of_ne_empty {text : String} (h : text ≠ "") :
    ∃ c cs, text = .ofList (c :: cs) := by
  cases e : text.toList with
  | nil => exact absurd (String.toList_eq_nil_iff.1 e) h
  | cons c cs => exact ⟨c, cs, by rw [← e, String.ofList_toList]⟩

theorem templateText_literal_cons {s : List Char} {text : String} {t : Template} :
    TemplateText s (.literal text :: t) ↔
      text ≠ "" ∧ (∀ g ∈ t.head?, g.isLiteral = false) ∧
        ∃ rest, s = text.toList ++ rest ∧ LiteralText rest text.toList ∧ TemplateText rest t := by
  constructor
  · rintro ⟨derived, merged⟩
    obtain ⟨ne, next, merged⟩ := merged_literal_cons.1 merged
    obtain ⟨rest, e, literal, later⟩ := itemsText_literal_iff.1 derived
    exact ⟨ne, next, rest, e, literal, later, merged⟩
  · rintro ⟨ne, next, rest, e, literal, later⟩
    exact ⟨itemsText_literal_iff.2 ⟨rest, e, literal, later.items⟩,
      merged_literal_cons.2 ⟨ne, next, later.merged⟩⟩

theorem templateText_nil {s : List Char} : TemplateText s [] ↔ s = [] := by
  constructor
  · rintro ⟨derived, _⟩
    cases derived with
    | nil => rfl
  · rintro rfl
    exact ⟨.nil, merged_nil⟩

/-- Literal text ends where the template does not go on with any. -/
theorem TemplateText.endsLiteral_iff {s : List Char} {t : Template} (h : TemplateText s t) :
    EndsLiteral s ↔ ∀ g ∈ t.head?, g.isLiteral = false := by
  cases t with
  | nil =>
    rw [templateText_nil.1 h]
    exact ⟨fun _ => nofun, fun _ => .inl rfl⟩
  | cons g t =>
    cases g with
    | directive d =>
      obtain ⟨u, v, rfl, here, _⟩ := templateText_directive_cons.1 h
      obtain ⟨u, rfl, _⟩ := here.read []
      refine ⟨fun _ => ?_, fun _ => .inr ⟨u ++ v, rfl⟩⟩
      rintro g ⟨⟩
      rfl
    | literal text =>
      obtain ⟨ne, _, rest, rfl, literal, _⟩ := templateText_literal_cons.1 h
      obtain ⟨c, cs, rfl⟩ := exists_cons_of_ne_empty ne
      rw [String.toList_ofList] at literal ⊢
      refine ⟨fun ends => ?_, fun none => absurd (none _ rfl) (by simp [Segment.isLiteral])⟩
      cases literal with
      | cons mark _ =>
        rcases ends with e | ⟨inside, e⟩
        · cases e
        · obtain ⟨rfl, tail⟩ := List.cons.inj e
          exact absurd ⟨rfl, congrArg List.head? tail⟩ mark

/-- A directive that has begun is not given up. -/
theorem readDirective_committed {s : List Char} {t : Trouble} (h : readDirective s = .stuck t) :
    t.Committed := by
  rw [readDirective] at h
  obtain ⟨u, _, rfl⟩ := Reply.mapTrouble_eq_stuck.1 h
  exact (u.committed_within "directive").expecting _

theorem readSegments_sound {s : List Char} {t : Template} {rest : List Char}
    (h : readSegments s = .done t rest) : rest = [] ∧ TemplateText s t := by
  fun_induction readSegments s generalizing t with
  | case1 =>
    cases h
    exact ⟨rfl, templateText_nil.2 rfl⟩
  | case2 => cases h
  | case3 inside t stuck passing => exact absurd (readDirective_committed stuck).fatal passing
  | case4 inside d middle hd _ ih =>
    obtain ⟨t, ht, rfl⟩ := Reply.map_eq_done.1 h
    obtain ⟨rfl, later⟩ := ih ht
    obtain ⟨u, rfl, here⟩ := readDirective_sound hd
    exact ⟨rfl, templateText_directive_cons.2 ⟨_, middle, rfl, here, later⟩⟩
  | case5 inside d middle hd long =>
    obtain ⟨u, rfl, _⟩ := readDirective_sound hd
    exact absurd (List.sublist_append_right u middle).length_le long
  | case6 c after mark text middle hs _ ih =>
    obtain ⟨t, ht, rfl⟩ := Reply.map_eq_done.1 h
    obtain ⟨rfl, later⟩ := ih ht
    obtain ⟨rfl, literal, ends⟩ := spanLiteral_sound hs
    refine ⟨rfl, templateText_literal_cons.2 ⟨by simp, later.endsLiteral_iff.1 ends, middle, ?_⟩⟩
    rw [String.toList_ofList]
    refine ⟨rfl, .cons ?_ literal, later⟩
    rintro ⟨rfl, head⟩
    obtain ⟨after, e⟩ := List.head?_eq_some_iff.1 head
    exact mark after rfl e
  | case7 c after mark text middle hs long =>
    obtain ⟨rfl, _, _⟩ := spanLiteral_sound hs
    exact absurd (List.sublist_append_right text middle).length_le long

theorem readSegments_complete {s : List Char} {t : Template} (h : TemplateText s t) :
    readSegments s = .done t [] := by
  induction t generalizing s with
  | nil =>
    rw [templateText_nil.1 h, readSegments]
  | cons g t ih =>
    cases g with
    | directive d =>
      obtain ⟨u, v, rfl, here, later⟩ := templateText_directive_cons.1 h
      obtain ⟨u, rfl, read⟩ := here.read v
      have le : v.length ≤ (u ++ v).length := (List.sublist_append_right u v).length_le
      rw [List.cons_append, List.cons_append, readSegments]
      simp only [read, if_pos le, ih later, Reply.map]
    | literal text =>
      obtain ⟨ne, next, rest, rfl, literal, later⟩ := templateText_literal_cons.1 h
      obtain ⟨c, cs, rfl⟩ := exists_cons_of_ne_empty ne
      rw [String.toList_ofList] at literal ⊢
      cases literal with
      | cons mark literal =>
        have span := spanLiteral_complete literal (later.endsLiteral_iff.2 next)
        have le : rest.length ≤ (cs ++ rest).length := (List.sublist_append_right cs rest).length_le
        rw [List.cons_append, readSegments.eq_def]
        split
        · next e => cases e
        · next inside e =>
          obtain ⟨rfl, tail⟩ := List.cons.inj e
          exact absurd ⟨rfl, congrArg List.head? tail⟩ mark
        · next d after _ e =>
          obtain ⟨rfl, rfl⟩ := List.cons.inj e
          simp only [span, if_pos le, ih later, Reply.map]

theorem templateText_of_read {text : String} {t : Template} (h : read text = .ok t) :
    TemplateText text.toList t := by
  rw [read] at h
  split at h
  · cases h
  · next whole =>
    cases h
    exact (readSegments_sound whole).2
  · cases h

theorem read_of_templateText {text : String} {t : Template} (h : TemplateText text.toList t) :
    read text = .ok t := by
  rw [read, readSegments_complete h]

/-- A text is read as a template if it derives it, in one way only. -/
theorem read_iff_templateText {text : String} {t : Template} :
    read text = .ok t ↔ TemplateText text.toList t := by
  constructor
  · exact templateText_of_read
  · exact read_of_templateText

end Figment.Template
