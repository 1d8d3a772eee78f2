import Figment.Proofs.Template.Segments
/-!
Where the mark of a directive can come from.

A literal segment of a template that was read holds no mark, and a template without directives is
read from a text without a mark only. When texts without a mark are joined, a mark arises only where
a number sign at the end of one text meets an opening brace at the start of the next.
-/

namespace Figment.Template

theorem hasMark_cons {c : Char} {s : List Char} (h : hasMark s = true) :
    hasMark (c :: s) = true := by
  rw [hasMark.eq_def]
  split
  · next e => cases e
  · rfl
  · next e =>
    rw [← (List.cons.inj e).2]
    exact h

theorem hasMark_cons_iff {c : Char} {s : List Char} :
    hasMark (c :: s) = true ↔ c = '#' ∧ s.head? = some '\x7b' ∨ hasMark s = true := by
  constructor
  · intro h
    rw [hasMark.eq_def] at h
    split at h
    · next e => cases e
    · next e =>
      obtain ⟨rfl, rfl⟩ := List.cons.inj e
      exact .inl ⟨rfl, rfl⟩
    · next e =>
      obtain ⟨rfl, rfl⟩ := List.cons.inj e
      exact .inr h
  · rintro (⟨rfl, brace⟩ | later)
    · obtain ⟨rest, rfl⟩ := List.head?_eq_some_iff.1 brace
      rfl
    · exact hasMark_cons later

theorem hasMark_iff_infix {s : List Char} : hasMark s = true ↔ ['#', '\x7b'] <:+: s := by
  induction s with
  | nil => simp [hasMark]
  | cons c s ih =>
    have front : ['#', '\x7b'] <+: c :: s ↔ c = '#' ∧ s.head? = some '\x7b' := by
      cases s with
      | nil => simp
      | cons d s => simp [List.cons_prefix_cons, eq_comm]
    rw [hasMark_cons_iff, List.infix_cons_iff, front, ih]

/-- A mark in two texts joined is in one of them, or one half of it is in each. -/
theorem hasMark_append_iff (s u : List Char) :
    hasMark (s ++ u) = true ↔
      hasMark s = true ∨ hasMark u = true ∨ s.getLast? = some '#' ∧ u.head? = some '\x7b' := by
  induction s with
  | nil => simp [hasMark]
  | cons c s ih =>
    rw [List.cons_append, hasMark_cons_iff, hasMark_cons_iff, ih]
    cases s with
    | nil => simp [hasMark, or_comm]
    | cons d s =>
      rw [List.getLast?_cons_cons, List.cons_append, List.head?_cons, List.head?_cons]
      exact or_assoc.symm

theorem literalText_cons_iff {rest s : List Char} {c : Char} :
    LiteralText rest (c :: s) ↔
      ¬ (c = '#' ∧ (s ++ rest).head? = some '\x7b') ∧ LiteralText rest s := by
  constructor
  · rintro (_ | ⟨mark, literal⟩)
    exact ⟨mark, literal⟩
  · rintro ⟨mark, literal⟩
    exact .cons mark literal

/-- Literal text holds no mark and makes none with what is behind it. -/
theorem literalText_iff {rest s : List Char} :
    LiteralText rest s ↔
      hasMark s = false ∧ ¬ (s.getLast? = some '#' ∧ rest.head? = some '\x7b') := by
  induction s with
  | nil => exact ⟨fun _ => ⟨rfl, fun seam => nomatch seam.1⟩, fun _ => .nil⟩
  | cons c s ih =>
    rw [literalText_cons_iff, ih, ← Bool.not_eq_true, ← Bool.not_eq_true, hasMark_cons_iff, not_or]
    cases s with
    | nil => simp [hasMark]
    | cons d s =>
      rw [List.getLast?_cons_cons, List.cons_append, List.head?_cons, List.head?_cons, and_assoc]

theorem LiteralText.hasMark_eq_false {rest s : List Char} (h : LiteralText rest s) :
    hasMark s = false :=
  (literalText_iff.1 h).1

theorem TemplateText.literal_hasMark {s : List Char} {t : Template} {text : String}
    (h : TemplateText s t) (mem : .literal text ∈ t) : Template.hasMark text.toList = false := by
  induction t generalizing s with
  | nil => cases mem
  | cons segment t ih =>
    cases segment with
    | directive d =>
      obtain ⟨u, v, rfl, _, later⟩ := templateText_directive_cons.1 h
      cases mem with
      | tail _ mem => exact ih later mem
    | literal first =>
      obtain ⟨_, _, rest, rfl, literal, later⟩ := templateText_literal_cons.1 h
      cases mem with
      | head => exact literal.hasMark_eq_false
      | tail _ mem => exact ih later mem

/-- The template of a text without directives. -/
def plain (text : String) : Template :=
  if text = "" then [] else [.literal text]

theorem templateText_plain {text : String} (h : hasMark text.toList = false) :
    TemplateText text.toList (plain text) := by
  unfold plain
  split
  · next empty =>
    rw [empty]
    exact templateText_nil.2 rfl
  · next ne =>
    have literal : LiteralText [] text.toList := literalText_iff.2 ⟨h, fun seam => nomatch seam.2⟩
    refine templateText_literal_cons.2 ⟨ne, nofun, [], ?_, literal, templateText_nil.2 rfl⟩
    rw [List.append_nil]

theorem read_of_unmarked {text : String} (h : hasMark text.toList = false) :
    read text = .ok (plain text) :=
  read_of_templateText (templateText_plain h)

theorem isLiteral_plain (text : String) : (plain text).isLiteral = true := by
  unfold plain
  split
  · rfl
  · rfl

/-- Only a text without a mark is read as a template without directives. -/
theorem TemplateText.hasMark_eq_false {s : List Char} {t : Template} (h : TemplateText s t)
    (literal : t.isLiteral = true) : Template.hasMark s = false := by
  cases t with
  | nil =>
    rw [templateText_nil.1 h]
    rfl
  | cons first t =>
    rw [isLiteral, List.all_cons, Bool.and_eq_true] at literal
    cases first with
    | directive d => cases literal.1
    | literal text =>
      obtain ⟨_, next, rest, rfl, here, later⟩ := templateText_literal_cons.1 h
      cases t with
      | nil =>
        rw [templateText_nil.1 later, List.append_nil]
        exact here.hasMark_eq_false
      | cons second t =>
        have both := literal.2
        rw [List.all_cons, next second rfl] at both
        cases both

/-- The texts on one side end in the first half of a mark, and those on the other side begin with
its second half. -/
def Joint (front back : List String) : Prop :=
  (String.join front).toList.getLast? = some '#' ∧ (String.join back).toList.head? = some '\x7b'

theorem hasMark_join_of_joint {front back : List String} (h : Joint front back) :
    hasMark (String.join (front ++ back)).toList = true := by
  rw [String.join_append, String.toList_append]
  exact (hasMark_append_iff _ _).2 (.inr (.inr h))

/-- Joining texts without a mark makes one only at a joint. -/
theorem hasMark_join_iff {pieces : List String}
    (free : ∀ piece ∈ pieces, hasMark piece.toList = false) :
    hasMark (String.join pieces).toList = true ↔
      ∃ front back, pieces = front ++ back ∧ Joint front back := by
  constructor
  · intro found
    induction pieces with
    | nil => cases found
    | cons piece pieces ih =>
      rw [String.join_cons, String.toList_append] at found
      rcases (hasMark_append_iff _ _).1 found with here | later | ⟨sign, brace⟩
      · rw [free piece List.mem_cons_self] at here
        cases here
      · obtain ⟨front, back, rfl, sign, brace⟩ :=
          ih (fun other mem => free other (List.mem_cons_of_mem piece mem)) later
        refine ⟨piece :: front, back, rfl, ?_, brace⟩
        rw [String.join_cons, String.toList_append, List.getLast?_append, sign]
        rfl
      · refine ⟨[piece], pieces, rfl, ?_, brace⟩
        rw [String.join_cons, String.join_nil, String.append_empty]
        exact sign
  · rintro ⟨front, back, rfl, joint⟩
    exact hasMark_join_of_joint joint

end Figment.Template
