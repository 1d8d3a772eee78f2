import Figment.Proofs.Evaluation.Frame
import Figment.Proofs.Evaluation.Pieces
import Figment.Proofs.Evaluation.Record
import Figment.Proofs.Template.Joining
import Figment.Proofs.Template.Writing
/-!
Texts evaluated one behind the other.

A text that can be read is evaluated as its template is, and so two texts joined are evaluated as the
segments of the first and then those of the second. The first one leaves the trail as it was, so that
the second finds what it would find on a new trail.
-/

namespace Figment

namespace Eval

open Template

section Segments

variable (directive : Directive → Eval String)

theorem template_prepend (s : String) (t : Template) :
    template directive (prepend s t) = (do
      let more ← template directive t
      return s ++ more) := by
  cases t with
  | nil => simp only [prepend, template_cons, template_nil, segment, pure_bind]
  | cons first t =>
    cases first with
    | literal more =>
      simp only [prepend, template_cons, segment, pure_bind, bind_assoc, String.append_assoc]
    | directive d => simp only [prepend, template_cons, segment, pure_bind]

/-- The literal text at the seam comes out the same in one segment and in two. -/
theorem template_joined (t u : Template) :
    template directive (joined t u) = (do
      let s ← template directive t
      let more ← template directive u
      return s ++ more) := by
  induction t with
  | nil => simp only [joined, template_nil, pure_bind, String.empty_append, bind_pure]
  | cons first t ih =>
    cases first with
    | literal s =>
      simp only [joined, template_prepend, template_cons, segment, ih, pure_bind, bind_assoc,
        String.append_assoc]
    | directive d =>
      simp only [joined, template_cons, segment, ih, pure_bind, bind_assoc, String.append_assoc]

theorem text_append {a b : String} {t u : Template} (ha : Template.read a = .ok t)
    (hb : Template.read b = .ok u)
    (seam : ¬ (a.toList.getLast? = some '#' ∧ b.toList.head? = some '\x7b')) :
    text directive (a ++ b) = (do
      let s ← text directive a
      let more ← text directive b
      return s ++ more) := by
  rw [text_of_read directive (read_append ha hb seam), text_of_read directive ha,
    text_of_read directive hb]
  exact template_joined directive t u

end Segments

end Eval

namespace Generator

open Eval Template

variable {g : Generator}

theorem evalText_append {a b : String} {t u : Template} (ha : Template.read a = .ok t)
    (hb : Template.read b = .ok u)
    (seam : ¬ (a.toList.getLast? = some '#' ∧ b.toList.head? = some '\x7b')) (p : Progress) :
    g.evalText (a ++ b) p =
      (do let s ← g.evalText a; let more ← g.evalText b; return s ++ more) p := by
  have both := congrFun (text_append (directive g (p.trail.limit - p.trail.depth)) ha hb seam) p
  refine both.trans ?_
  rcases first : text (directive g (p.trail.limit - p.trail.depth)) a p with ⟨e | s, q⟩
  · rw [bind_of_error first, bind_of_error (d := g.evalText a) first]
  · rw [bind_of_ok first, bind_of_ok (d := g.evalText a) first]
    -- What the first text has opened is closed, so that the second has as many levels.
    have kept : q.trail = p.trail := keeps_text (keeps_directive g _) a p s q first
    have same : text (directive g (p.trail.limit - p.trail.depth)) b q = g.evalText b q := by
      rw [← kept]
      rfl
    exact bind_congr_of_eq same

/-- A text has its outcome from every progress with a new trail, whatever has been recorded in it. -/
theorem expression_of_evalText {text : String} {p q : Progress} {r : Except Failure String}
    (new : p.trail = g.newTrail) (h : g.evalText text p = (r, q)) :
    g.expression text p.source = (r, q.source) := by
  have start : p = Progress.noting p.deepest ⟨g.newTrail, p.source, 0⟩ := by
    rw [← new, Progress.noting, Nat.zero_max]
  have noted : g.evalText text (Progress.noting p.deepest ⟨g.newTrail, p.source, 0⟩) =
      ((g.evalText text ⟨g.newTrail, p.source, 0⟩).1,
        (g.evalText text ⟨g.newTrail, p.source, 0⟩).2.noting p.deepest) :=
    evaluate_noting g (.text text) (Nat.zero_le _) p.deepest
  rw [start, noted] at h
  cases h
  rfl

/-- Two texts joined, each of which can be read, have the outcome of the first and then, from the
source as it is left, that of the second. Only a mark at the seam makes something else of them. -/
theorem expression_append (g : Generator) (a b : String) (t u : Template)
    (ha : Template.read a = .ok t) (hb : Template.read b = .ok u)
    (seam : ¬ (a.toList.getLast? = some '#' ∧ b.toList.head? = some '\x7b')) :
    g.expression (a ++ b) = (do
      let s ← g.expression a
      let more ← g.expression b
      return s ++ more) := by
  funext source
  rw [expression, fresh_apply, evalText_append ha hb seam]
  rcases first : g.evalText a ⟨g.newTrail, source, 0⟩ with ⟨e | s, q⟩
  · have alone : g.expression a source = (.error e, q.source) := expression_of_evalText rfl first
    rw [bind_of_error first, bind_of_error alone]
  · have alone : g.expression a source = (.ok s, q.source) := expression_of_evalText rfl first
    have kept : q.trail = g.newTrail := keeps_output g _ (.text a) _ s q first
    rw [bind_of_ok first, bind_of_ok alone]
    rcases second : g.evalText b q with ⟨e | more, r⟩
    · rw [bind_of_error second, bind_of_error (expression_of_evalText kept second)]
    · rw [bind_of_ok second, bind_of_ok (expression_of_evalText kept second)]
      rfl

/-- A number sign in front of a directive. -/
theorem expression_append_sign :
    withoutData.expression "x##\x7bnumerify '#'\x7d" (.scripted [7]) = (do
      let s ← withoutData.expression "x#"
      let more ← withoutData.expression "#\x7bnumerify '#'\x7d"
      return s ++ more) (.scripted [7]) := by
  have plain : Template.read "x#" = .ok [.literal "x#"] := read_of_unmarked (by decide)
  have directive : Template.read "#\x7bnumerify '#'\x7d" =
      .ok [.directive (.builtin "numerify" [.literal "#"])] := by
    have text : written " " "numerify" ["#"] = "#\x7bnumerify '#'\x7d" := by decide +kernel
    rw [← text]
    exact read_of_directiveText
      (directiveText_written blanks_space (by decide +kernel) (by decide +kernel))
  have joined : "x##\x7bnumerify '#'\x7d" = "x#" ++ "#\x7bnumerify '#'\x7d" := rfl
  rw [joined]
  exact congrFun (expression_append withoutData _ _ _ _ plain directive (by decide)) (.scripted [7])

end Generator

end Figment
