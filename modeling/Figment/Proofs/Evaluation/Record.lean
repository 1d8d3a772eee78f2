import Figment.Proofs.Evaluation.Termination
/-!
What is recorded of the depth does not show.

The largest number of directives that have been open at once is written down and never read. A step
of the machine does the same whatever stands in the record, hence so does a run, and the evaluator
says what the runs come to. So an evaluation goes on from another one as it would from the start.
-/

namespace Figment

/-- The same progress, after so many directives have been open at once. -/
def Progress.noting (n : Nat) (p : Progress) : Progress :=
  { p with deepest := max p.deepest n }

namespace Eval

variable {α : Type} {g : Generator} {p : Progress} {n : Nat}

def State.noting (n : Nat) (s : State) : State :=
  { s with progress := s.progress.noting n }

theorem push_noting (label : String) :
    push label (p.noting n) = ((push label p).1, (push label p).2.noting n) := by
  by_cases below : p.trail.depth < p.trail.limit
  · have later : push label (p.noting n) = (.ok (), opened (p.noting n) label) :=
      push_of_lt label below
    rw [later, push_of_lt label below]
    refine Prod.ext rfl ?_
    unfold opened Progress.noting
    dsimp only
    rw [Nat.max_right_comm]
  · have later : push label (p.noting n) = (.error (p.trail.refusal label), p.noting n) :=
      push_of_le label (Nat.not_lt.1 below)
    rw [later, push_of_le label (Nat.not_lt.1 below)]

theorem drawn_noting {e : Eval α} (h : Drawn e) :
    e (p.noting n) = ((e p).1, (e p).2.noting n) := by
  obtain ⟨d, _, rfl⟩ := h
  rfl

theorem after_noting {e : Eval α} {next : α → Progress → State}
    (h : e (p.noting n) = ((e p).1, (e p).2.noting n))
    (hn : ∀ a q, next a (q.noting n) = (next a q).noting n) :
    State.after e (p.noting n) next = (State.after e p next).noting n := by
  unfold State.after
  rw [h]
  rcases e p with ⟨x | a, q⟩
  · rfl
  · exact hn a q

theorem step_noting (g : Generator) (n : Nat) (s : State) :
    step g (s.noting n) = (step g s).noting n := by
  obtain ⟨task, frames, p⟩ := s
  change step g ⟨task, frames, p.noting n⟩ = _
  cases task with
  | text s =>
    rw [step, step]
    by_cases mark : Template.hasMark s.toList = true
    · rw [if_pos mark, if_pos mark]
      cases Template.read s with
      | ok t => rfl
      | error e => rfl
    · rw [if_neg mark, if_neg mark]
      rfl
  | segments outputs t =>
    cases t with
    | nil => rfl
    | cons first t =>
      cases first with
      | literal s => rfl
      | directive d => rfl
  | directive d => exact after_noting (push_noting d.label) fun _ _ => rfl
  | arguments d values rest =>
    cases rest with
    | nil =>
      have draws := draws_call g p.trail d values
      have same : call g (p.noting n).trail d values = call g p.trail d values := rfl
      rw [step, step, same]
      cases called : call g p.trail d values with
      | key k => rfl
      | answer e =>
        rw [called] at draws
        exact after_noting (drawn_noting draws) fun _ _ => rfl
    | cons first rest =>
      cases first with
      | literal s => rfl
      | nested e => rfl
  | resolve key =>
    rw [step, step]
    cases g.lookup (Unicode.lower key) with
    | none => rfl
    | some values =>
      exact after_noting (drawn_noting ⟨_, Draw.shallow_pick values, rfl⟩) fun _ _ => rfl
  | output s =>
    cases frames with
    | nil => rfl
    | cons frame frames =>
      cases frame with
      | segments outputs t => rfl
      | arguments d values rest => rfl
      | again => rfl
      | close => rfl
      | leave => rfl
  | failed e => rfl

theorem Reaches.noting {s t : State} (h : Reaches g s t) (n : Nat) :
    Reaches g (s.noting n) (t.noting n) := by
  obtain ⟨m, rfl⟩ := h
  refine ⟨m, ?_⟩
  have step : Function.Semiconj (State.noting n) (step g) (step g) := fun s => (step_noting g n s).symm
  exact ((step.iterate_right m) s).symm

theorem settle_injective {r r' : Except Failure String × Progress} (h : settle [] r = settle [] r') :
    r = r' := by
  rcases r with ⟨e | s, q⟩
  · rcases r' with ⟨e' | s', q'⟩
    · cases h
      rfl
    · cases h
  · rcases r' with ⟨e' | s', q'⟩
    · cases h
    · cases h
      rfl

/-- An evaluation comes to the same and draws the same, whatever has been recorded before. -/
theorem evaluate_noting (g : Generator) (subject : Subject) {p : Progress}
    (h : p.trail.depth ≤ p.trail.limit) (n : Nat) :
    subject.evaluate g (p.noting n) =
      ((subject.evaluate g p).1, (subject.evaluate g p).2.noting n) := by
  have start : Reaches g ⟨subject.task, [], p.noting n⟩ ((settle [] (subject.evaluate g p)).noting n) :=
    (runs_evaluate g subject h []).noting n
  have noted : (settle [] (subject.evaluate g p)).noting n =
      settle [] ((subject.evaluate g p).1, (subject.evaluate g p).2.noting n) := by
    rcases subject.evaluate g p with ⟨e | s, q⟩
    · rfl
    · rfl
  rw [noted] at start
  have level : (p.noting n).trail.depth ≤ (p.noting n).trail.limit := h
  exact settle_injective
    ((runs_evaluate g subject level []).eq_of_final start (step_settle g _) (step_settle g _))

end Eval

end Figment
