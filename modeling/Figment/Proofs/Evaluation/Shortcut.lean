import Figment.Proofs.Evaluation.Levels
import Figment.Proofs.Template.Marks
/-!
The shortcut for texts without a mark.

A text without a mark is its own output and is not read. Nothing else would come out if it were: read
as a template, it is one literal segment, or none if it is empty. So a text that can be read is always
evaluated as its template is, and what is said of templates holds of such texts.
-/

namespace Figment

namespace Eval

open Template

variable (directive : Directive → Eval String)

theorem template_nil : template directive [] = pure "" := rfl

theorem template_cons (first : Segment) (t : Template) :
    template directive (first :: t) = (do
      let s ← segment directive first
      let more ← template directive t
      return s ++ more) := by
  simp [template_eq, List.mapM_cons, String.join_cons]

theorem template_plain (s : String) : template directive (plain s) = pure s := by
  unfold plain
  split
  · next empty =>
    rw [empty]
    rfl
  · simp [template_cons, template_nil, segment]

/-- The shortcut for texts without a mark does not show. -/
theorem text_of_read {s : String} {t : Template} (h : Template.read s = .ok t) :
    text directive s = template directive t := by
  unfold text
  split
  · rw [h]
  · next unmarked =>
    have same := read_of_unmarked (Bool.eq_false_iff.2 unmarked)
    rw [h] at same
    cases same
    exact (template_plain directive s).symm

end Eval

namespace Generator

open Eval Template

/-- A text without a mark is its own output, and nothing changes. -/
theorem evalText_of_unmarked (g : Generator) {s : String}
    (h : Template.hasMark s.toList = false) (p : Progress) : g.evalText s p = (.ok s, p) := by
  change Eval.text _ s p = _
  rw [Eval.text, if_neg (Bool.eq_false_iff.1 h)]
  rfl

/-- A text has no mark exactly if it is read as a template without directives. That template is the
literal text, and the text and its template both are evaluated to it. -/
theorem unmarked_iff_literal (text : String) :
    (hasMark text.toList = false ↔ ∃ t, Template.read text = .ok t ∧ t.isLiteral = true) ∧
      ∀ t, Template.read text = .ok t → t.isLiteral = true →
        t = (if text = "" then [] else [.literal text]) ∧
          ∀ (g : Generator) (p : Progress),
            g.evalText text p = (.ok text, p) ∧ g.evalTemplate t p = (.ok text, p) := by
  have unmarked {t : Template} (read : Template.read text = .ok t) (literal : t.isLiteral = true) :
      hasMark text.toList = false := (templateText_of_read read).hasMark_eq_false literal
  refine ⟨⟨fun none => ⟨plain text, read_of_unmarked none, isLiteral_plain text⟩, ?_⟩, ?_⟩
  · rintro ⟨t, read, literal⟩
    exact unmarked read literal
  · intro t read literal
    have same := read_of_unmarked (unmarked read literal)
    rw [read] at same
    cases same
    refine ⟨rfl, fun g p => ⟨g.evalText_of_unmarked (unmarked read literal) p, ?_⟩⟩
    exact congrFun (template_plain _ text) p

/-- Number signs and braces that make no mark. -/
theorem unmarked_iff_literal_signs :
    Template.read "##\x7d#" = .ok [.literal "##\x7d#"] ∧
      Generator.evalTemplate ⟨.root, 1, .empty, .empty, .empty⟩ [.literal "##\x7d#"]
          ⟨.new 1, .scripted [7], 0⟩ =
        (.ok "##\x7d#", ⟨.new 1, .scripted [7], 0⟩) := by
  obtain ⟨t, read, literal⟩ := (unmarked_iff_literal "##\x7d#").1.1 (by decide)
  obtain ⟨rfl, outputs⟩ := (unmarked_iff_literal "##\x7d#").2 t read literal
  exact ⟨read, (outputs _ _).2⟩

end Generator

end Figment
