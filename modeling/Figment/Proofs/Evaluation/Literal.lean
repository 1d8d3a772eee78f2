import Figment.Proofs.Evaluation.Frame
/-!
Directives whose arguments are texts.

Nothing has to be evaluated in front of the call of such a directive. It is the output of its call,
evaluated once more, and it is open until that is done.
-/

namespace Figment.Eval

variable {g : Generator} {p : Progress}

theorem evaluate_of_level {levels : Nat} (h : Level levels p) (subject : Subject) :
    subject.evaluate g p = subject.output g (directive g levels) p := by
  have left : p.trail.limit - p.trail.depth = levels := Nat.sub_eq_of_eq_add' h.symm
  rw [evaluate_apply, left]

theorem exists_level_succ (below : p.trail.depth < p.trail.limit) :
    ∃ levels, Level (levels + 1) p := by
  obtain ⟨levels, sum⟩ := Nat.exists_eq_add_of_lt below
  exact ⟨levels, sum.symm⟩

theorem arguments_literal (directive : Directive → Eval String) (values : List String) :
    arguments directive (values.map .literal) = pure values := by
  rw [arguments_eq]
  induction values with
  | nil => rfl
  | cons value values ih => simp [List.mapM_cons, argument, ih]

/-- What a call comes to on the trail at hand. -/
def Call.evaluate (g : Generator) : Call → Eval String
  | key k => g.resolveIn k
  | answer e => e

theorem evalDirective_of_literals {d : Directive} (values : List String)
    (literal : d.args = values.map .literal) (below : p.trail.depth < p.trail.limit) :
    g.evalDirective d p = (do
      let value ← (call g (opened p d.label).trail d values).evaluate g
      let output ← g.evalText value
      move (·.pop)
      return output) (opened p d.label) := by
  obtain ⟨levels, level⟩ := exists_level_succ below
  obtain ⟨push, inside⟩ := level.opened d.label
  have start : g.evalDirective d p = directive g (levels + 1) d p :=
    evaluate_of_level level (.directive d)
  have shape : body g levels d =
      raw g (directive g levels) d values >>= text (directive g levels) := by
    rw [body, literal, arguments_literal, pure_bind]
  have called : raw g (directive g levels) d values (opened p d.label) =
      (call g (opened p d.label).trail d values).evaluate g (opened p d.label) := by
    rw [← run_call]
    cases call g (opened p d.label).trail d values with
    | key k => exact (evaluate_of_level inside (.key k)).symm
    | answer e => rfl
  rw [start, directive_succ, bind_of_ok push, shape, bind_assoc, bind_congr_of_eq called]
  rcases first : (call g (opened p d.label).trail d values).evaluate g (opened p d.label)
    with ⟨e | s, q⟩
  · rw [bind_of_error first, bind_of_error first]
  · rw [bind_of_ok first, bind_of_ok first]
    -- The call has closed what it opened, so that as many levels are left for its output.
    have kept : q.trail = (opened p d.label).trail :=
      keeps_raw (keeps_directive g levels) d values _ s q (called.trans first)
    have level : Level levels q := by
      rw [Level, kept]
      exact inside
    exact bind_congr_of_eq (evaluate_of_level level (.text s)).symm

end Figment.Eval
