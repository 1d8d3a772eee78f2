import Figment.Proofs.Template.Segments
/-!
Directives written out, and read back.

A text is written between quotes with a backslash in front of every quote in it. Marks, commas and
line feeds stand for themselves, and so does a backslash, even in front of a quote: only the
backslash next to the quote goes with it. A backslash at the end of the text would take the closing
quote, so it is the one text that cannot be written this way.
-/

namespace Figment.Template

/-- A text with a backslash in front of every quote. -/
def escaped (text : List Char) : List Char :=
  text.flatMap fun c => if c = '\'' then ['\\', '\''] else [c]

def quoted (text : String) : String :=
  "'" ++ .ofList (escaped text.toList) ++ "'"

/-- A directive with quoted arguments; `gap` is the white space behind its name. -/
def written (gap name : String) (args : List String) : String :=
  "#\x7b" ++ name ++ gap ++ ", ".intercalate (args.map quoted) ++ "\x7d"

example : written " " "templatify" ["it's", "x"] = "#\x7btemplatify 'it\\'s', 'x'\x7d" := by
  decide +kernel

/-- A text that can be written between quotes. -/
def Quotable (text : String) : Prop :=
  text.toList.getLast? ≠ some '\\'

instance (text : String) : Decidable (Quotable text) :=
  inferInstanceAs (Decidable (_ ≠ _))

instance (name : List Char) : Decidable (NameText name) :=
  decidable_of_iff (name ≠ [] ∧ name.all isNameChar = true) <| by
    simp only [NameText, List.all_eq_true, isNameChar_iff]

theorem escaped_cons_quote (text : List Char) :
    escaped ('\'' :: text) = '\\' :: '\'' :: escaped text := rfl

theorem escaped_cons_of_ne {c : Char} (text : List Char) (h : c ≠ '\'') :
    escaped (c :: text) = c :: escaped text := by
  simp [escaped, h]

/-- No quote stands at the front of what follows an escaped character. -/
theorem head_escaped {text : List Char} (h : text ≠ []) (rest : List Char) :
    (escaped text ++ rest).head? ≠ some '\'' := by
  cases text with
  | nil => exact absurd rfl h
  | cons c text =>
    by_cases quote : c = '\''
    · subst quote
      rw [escaped_cons_quote]
      simp
    · rw [escaped_cons_of_ne text quote]
      simpa using quote

theorem quotedText_escaped {text : List Char} (h : text.getLast? ≠ some '\\') :
    QuotedText (escaped text ++ ['\'']) text := by
  induction text with
  | nil => exact .close
  | cons c text ih =>
    have later : text.getLast? ≠ some '\\' := by
      intro last
      apply h
      rw [List.getLast?_cons, last]
      rfl
    by_cases quote : c = '\''
    · subst quote
      exact .quote (ih later)
    · rw [escaped_cons_of_ne text quote]
      refine .plain quote ?_ (ih later)
      rintro ⟨rfl, head⟩
      by_cases last : text = []
      · subst last
        exact h rfl
      · exact head_escaped last ['\''] head

theorem toList_quoted (text : String) :
    (quoted text).toList = '\'' :: (escaped text.toList ++ ['\'']) := by
  simp [quoted]

theorem argumentText_quoted {text : String} (h : Quotable text) :
    ArgumentText (quoted text).toList (.literal text) := by
  have argument := ArgumentText.quoted (quotedText_escaped h)
  rwa [String.ofList_toList, ← toList_quoted] at argument

theorem blanks_nil : Blanks [] :=
  fun _ h => absurd h List.not_mem_nil

theorem blanks_space : Blanks [' '] := by
  intro c h
  rw [List.mem_singleton.1 h]
  decide

/-- The arguments behind the first one, each with its comma. -/
theorem moreText_quoted {args : List String} (h : ∀ a ∈ args, Quotable a) :
    MoreText (args.flatMap fun a => ',' :: ' ' :: (quoted a).toList) (args.map .literal) := by
  induction args with
  | nil => exact .nil
  | cons a args ih =>
    have first := argumentText_quoted (h a List.mem_cons_self)
    have later := ih fun b hb => h b (List.mem_cons_of_mem a hb)
    simpa using MoreText.cons blanks_nil blanks_space first later

theorem toList_intercalate_quoted (a : String) (args : List String) :
    (", ".intercalate ((a :: args).map quoted)).toList =
      (quoted a).toList ++ args.flatMap fun b => ',' :: ' ' :: (quoted b).toList := by
  induction args generalizing a with
  | nil => simp
  | cons b args ih =>
    have rest := ih b
    simp only [List.map_cons] at rest ⊢
    rw [String.intercalate_cons_cons, String.toList_append, String.toList_append, rest]
    simp

theorem directiveText_written {gap name : String} {args : List String}
    (blank : Blanks gap.toList) (named : NameText name.toList) (h : ∀ a ∈ args, Quotable a) :
    DirectiveText (written gap name args).toList (.builtin name (args.map .literal)) := by
  cases args with
  | nil =>
    have directive := DirectiveText.builtin blanks_nil named .none blank
    simpa [written] using directive
  | cons a args =>
    have first := argumentText_quoted (h a List.mem_cons_self)
    have later := moreText_quoted fun b hb => h b (List.mem_cons_of_mem a hb)
    have arguments := ArgumentsText.some blank first later
    have directive := DirectiveText.builtin blanks_nil named arguments blanks_nil
    rw [written]
    simp only [String.toList_append, toList_intercalate_quoted]
    simpa using directive

/-- A text that is one directive is read as that directive. -/
theorem read_of_directiveText {text : String} {d : Directive} (h : DirectiveText text.toList d) :
    read text = .ok [.directive d] := by
  apply read_of_templateText
  exact templateText_directive_cons.2 ⟨_, [], (List.append_nil _).symm, h, templateText_nil.2 rfl⟩

end Figment.Template
