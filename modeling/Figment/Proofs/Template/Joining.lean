import Figment.Proofs.Template.Marks
/-!
Templates of texts that stand one behind the other.

Reading goes on across the seam of two texts as if each stood alone, except that the literal text on
both sides of the seam becomes one segment. Only where the seam makes a mark is it different: there
the first text is literal up to its end, and no longer is in front of the second.
-/

namespace Figment.Template

/-- A template with literal text in front of it. -/
def prepend (text : String) : Template → Template
  | .literal first :: t => .literal (text ++ first) :: t
  | t => .literal text :: t

/-- Two templates one behind the other, the literal text at the seam in one segment. -/
def joined : Template → Template → Template
  | [], u => u
  | .literal text :: t, u => prepend text (joined t u)
  | .directive d :: t, u => .directive d :: joined t u

/-- Literal text in front of literal text. -/
theorem LiteralText.prepend {rest s u : List Char} (h : LiteralText (u ++ rest) s)
    (behind : LiteralText rest u) : LiteralText rest (s ++ u) := by
  induction h with
  | nil => exact behind
  | @cons c s mark _ ih =>
    rw [List.cons_append]
    refine .cons ?_ ih
    rwa [List.append_assoc]

theorem TemplateText.prepend {text : String} {s : List Char} {t : Template} (ne : text ≠ "")
    (literal : LiteralText s text.toList) (h : TemplateText s t) :
    TemplateText (text.toList ++ s) (prepend text t) := by
  cases t with
  | nil => exact templateText_literal_cons.2 ⟨ne, nofun, s, rfl, literal, h⟩
  | cons first t =>
    cases first with
    | directive d =>
      refine templateText_literal_cons.2 ⟨ne, ?_, s, rfl, literal, h⟩
      rintro g ⟨⟩
      rfl
    | literal more =>
      obtain ⟨_, next, rest, rfl, behind, later⟩ := templateText_literal_cons.1 h
      refine templateText_literal_cons.2 ⟨by simp [ne], next, rest, ?_, ?_, later⟩
      · rw [String.toList_append, List.append_assoc]
      · rw [String.toList_append]
        exact literal.prepend behind

/-- Two texts that derive templates derive the joined template together, unless the seam makes a
mark. -/
theorem TemplateText.joined {s v : List Char} {t u : Template} (h : TemplateText s t)
    (h' : TemplateText v u) (seam : ¬ (s.getLast? = some '#' ∧ v.head? = some '\x7b')) :
    TemplateText (s ++ v) (joined t u) := by
  induction t generalizing s with
  | nil =>
    rw [templateText_nil.1 h]
    exact h'
  | cons first t ih =>
    -- the seam is behind what follows the first segment, unless nothing follows it
    have inner {w rest : List Char} (e : s = w ++ rest) :
        ¬ (rest.getLast? = some '#' ∧ v.head? = some '\x7b') := by
      rintro ⟨sign, brace⟩
      apply seam
      rw [e, List.getLast?_append, sign]
      exact ⟨rfl, brace⟩
    cases first with
    | directive d =>
      obtain ⟨w, rest, rfl, here, later⟩ := templateText_directive_cons.1 h
      rw [List.append_assoc]
      exact templateText_directive_cons.2 ⟨w, rest ++ v, rfl, here, ih later (inner rfl)⟩
    | literal text =>
      obtain ⟨ne, _, rest, rfl, literal, later⟩ := templateText_literal_cons.1 h
      rw [List.append_assoc]
      refine TemplateText.prepend ne ?_ (ih later (inner rfl))
      obtain ⟨unmarked, apart⟩ := literalText_iff.1 literal
      refine literalText_iff.2 ⟨unmarked, ?_⟩
      rintro ⟨sign, brace⟩
      cases rest with
      | nil =>
        rw [List.append_nil] at seam
        exact seam ⟨sign, brace⟩
      | cons c rest => exact apart ⟨sign, brace⟩

theorem read_append {a b : String} {t u : Template} (ha : read a = .ok t) (hb : read b = .ok u)
    (seam : ¬ (a.toList.getLast? = some '#' ∧ b.toList.head? = some '\x7b')) :
    read (a ++ b) = .ok (joined t u) := by
  apply read_of_templateText
  rw [String.toList_append]
  exact (templateText_of_read ha).joined (templateText_of_read hb) seam

end Figment.Template
