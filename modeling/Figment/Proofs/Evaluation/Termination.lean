import Figment.Proofs.Evaluation.Machine
import Figment.Proofs.Evaluation.Shortcut
/-!
The machine finishes every evaluation, with the outcome that the evaluator gives.

The induction is on the levels that are left. The directives inside of an open directive are the same
whether they come from its arguments, from the value at a key or from an output that is evaluated
again: all of them find one level less.
-/

namespace Figment.Eval

def Reaches (g : Generator) (s t : State) : Prop :=
  ∃ n, (step g)^[n] s = t

theorem reaches_refl (g : Generator) (s : State) : Reaches g s s :=
  ⟨0, rfl⟩

theorem Reaches.trans {g : Generator} {s t u : State} (h : Reaches g s t) (h' : Reaches g t u) :
    Reaches g s u := by
  obtain ⟨m, rfl⟩ := h
  obtain ⟨n, rfl⟩ := h'
  exact ⟨n + m, Function.iterate_add_apply _ _ _ _⟩

theorem reaches_of_step {g : Generator} {s t : State} (h : Reaches g (step g s) t) :
    Reaches g s t := by
  obtain ⟨n, rfl⟩ := h
  exact ⟨n + 1, Function.iterate_succ_apply _ _ _⟩

/-- A run comes to one end only. -/
theorem Reaches.eq_of_final {g : Generator} {s t u : State} (h : Reaches g s t) (h' : Reaches g s u)
    (final : step g t = t) (final' : step g u = u) : t = u := by
  obtain ⟨m, rfl⟩ := h
  obtain ⟨n, rfl⟩ := h'
  calc (step g)^[m] s = (step g)^[n] ((step g)^[m] s) := (Function.iterate_fixed final n).symm
    _ = (step g)^[m] ((step g)^[n] s) := by
      rw [← Function.iterate_add_apply, Nat.add_comm, Function.iterate_add_apply]
    _ = (step g)^[n] s := Function.iterate_fixed final' m

/-- The state in which an outcome is handed to the frames. -/
def settle (fs : List Frame) : Except Failure String × Progress → State
  | (.ok s, q) => ⟨.output s, fs, q⟩
  | (.error e, q) => ⟨.failed e, [], q⟩

theorem step_settle (g : Generator) (r : Except Failure String × Progress) :
    step g (settle [] r) = settle [] r := by
  rcases r with ⟨e | s, q⟩
  · rfl
  · rfl

theorem progress_settle (fs : List Frame) (r : Except Failure String × Progress) :
    (settle fs r).progress = r.2 := by
  rcases r with ⟨e | s, q⟩
  · rfl
  · rfl

/-- A task comes to the outcome of an evaluation, whatever waits for it. -/
def Runs (g : Generator) (task : Task) (e : Eval String) (p : Progress) : Prop :=
  ∀ fs, Reaches g ⟨task, fs, p⟩ (settle fs (e p))

theorem Runs.of_eq {g : Generator} {task : Task} {e e' : Eval String} {p : Progress}
    (h : Runs g task e p) (eq : e' p = e p) : Runs g task e' p := by
  intro fs
  rw [eq]
  exact h fs

theorem Runs.andThen {g : Generator} {task : Task} {e : Eval String} {p : Progress}
    (h : Runs g task e p) (frame : Frame) (fs : List Frame) (next : String → Eval String)
    (resume : ∀ s q, e p = (.ok s, q) →
      Reaches g ⟨.output s, frame :: fs, q⟩ (settle fs (next s q))) :
    Reaches g ⟨task, frame :: fs, p⟩ (settle fs ((e >>= next) p)) := by
  have first := h (frame :: fs)
  rcases eq : e p with ⟨x | s, q⟩
  · rw [eq] at first
    rw [bind_of_error eq]
    exact first
  · rw [eq] at first
    rw [bind_of_ok eq]
    exact first.trans (resume s q eq)

/-- An answer given in one step. -/
theorem reaches_after {α : Type} {g : Generator} {e : Eval α} {next : α → Eval String}
    {state : α → Progress → State} {p : Progress} {fs : List Frame}
    (h : ∀ a q, e p = (.ok a, q) → Reaches g (state a q) (settle fs (next a q))) :
    Reaches g (State.after e p state) (settle fs ((e >>= next) p)) := by
  rcases eq : e p with ⟨x | a, q⟩
  · rw [bind_of_error eq, State.after, eq]
    exact reaches_refl g _
  · rw [bind_of_ok eq, State.after, eq]
    exact h a q eq

section Nested

variable {g : Generator} {levels : Nat} {directive : Directive → Eval String}
  (hr : ∀ d p, Level levels p → Regular (directive d) p)
  (hd : ∀ d p, Level levels p → Runs g (.directive d) (directive d) p)
include hr hd

theorem runs_segments (t : Template) (outputs : List String) (p : Progress) (h : Level levels p) :
    Runs g (.segments outputs t)
      (do let more ← t.mapM (segment directive); return String.join (outputs ++ more)) p := by
  induction t generalizing outputs p with
  | nil =>
    intro fs
    apply reaches_of_step
    rw [List.mapM_nil, pure_bind, List.append_nil]
    exact reaches_refl g _
  | cons first t ih =>
    intro fs
    apply reaches_of_step
    cases first with
    | literal s => simpa [List.mapM_cons, segment, step] using ih (outputs ++ [s]) p h fs
    | directive d =>
      have here := (hd d p h).andThen (.segments outputs t) fs
        (fun s => do
          let more ← t.mapM (segment directive)
          return String.join (outputs ++ [s] ++ more))
        (fun s q eq => reaches_of_step (ih (outputs ++ [s]) q (h.of_ok (hr d p h) eq) fs))
      simpa [List.mapM_cons, segment, step] using here

theorem runs_template (t : Template) (p : Progress) (h : Level levels p) :
    Runs g (.segments [] t) (template directive t) p := by
  simpa [template_eq] using runs_segments hr hd t [] p h

theorem runs_text (s : String) (p : Progress) (h : Level levels p) :
    Runs g (.text s) (text directive s) p := by
  intro fs
  apply reaches_of_step
  rw [step, text]
  by_cases mark : Template.hasMark s.toList = true
  · rw [if_pos mark, if_pos mark]
    cases Template.read s with
    | error e => exact reaches_refl g _
    | ok t => exact runs_template hr hd t p h fs
  · rw [if_neg mark, if_neg mark]
    exact reaches_refl g _

theorem runs_resolve (key : String) (p : Progress) (h : Level levels p) :
    Runs g (.resolve key) (resolve g directive key) p := by
  intro fs
  apply reaches_of_step
  rw [step, resolve]
  cases g.lookup (Unicode.lower key) with
  | none => exact reaches_refl g _
  | some values =>
    refine reaches_after fun picked q eq => ?_
    have drawn : Regular (draw (Draw.pick values)) p :=
      regular_of_still (still_draw (Draw.shallow_pick values))
    have level : Level levels q := h.of_ok drawn eq
    have inside := runs_text hr hd picked { q with trail := q.trail.enter (Unicode.lower key) } level
    refine inside.andThen .leave fs (fun output => do move (·.leave); return output) fun s r _ => ?_
    exact reaches_of_step (reaches_refl g _)

theorem runs_arguments (d : Directive) (rest : List Argument) (values : List String) (p : Progress)
    (h : Level levels p) :
    Runs g (.arguments d values rest)
      (do
        let more ← arguments directive rest
        let raw ← raw g directive d (values ++ more)
        text directive raw) p := by
  induction rest generalizing values p with
  | nil =>
    intro fs
    apply reaches_of_step
    have plain := plain_call g p.trail d values
    have called : (do
        let more ← arguments directive []
        let raw ← raw g directive d (values ++ more)
        text directive raw) p =
        ((call g p.trail d values).run g directive >>= text directive) p := by
      rw [arguments_eq, List.mapM_nil, pure_bind, List.append_nil]
      exact bind_congr_of_eq (run_call d values p).symm
    rw [step, called]
    cases answered : call g p.trail d values with
    | key k =>
      refine (runs_resolve hr hd k p h).andThen .again fs (text directive) fun s q eq => ?_
      have level := h.of_ok (regular_resolve hr k p h) eq
      exact reaches_of_step (runs_text hr hd s q level fs)
    | answer e =>
      rw [answered] at plain
      refine reaches_after fun s q eq => ?_
      exact runs_text hr hd s q (h.of_ok (regular_of_still plain) eq) fs
  | cons first rest ih =>
    intro fs
    apply reaches_of_step
    cases first with
    | literal s => simpa [arguments_eq, List.mapM_cons, argument, step] using ih (values ++ [s]) p h fs
    | nested e =>
      have here := (hd e p h).andThen (.arguments d values rest) fs
        (fun s => do
          let more ← arguments directive rest
          let raw ← raw g directive d (values ++ [s] ++ more)
          text directive raw)
        (fun s q eq => reaches_of_step (ih (values ++ [s]) q (h.of_ok (hr e p h) eq) fs))
      simpa [arguments_eq, List.mapM_cons, argument, step] using here

end Nested

/-- The evaluator says what the machine comes to, for a trail with so many levels left. -/
theorem runs_directive (g : Generator) (levels : Nat) (d : Directive) (p : Progress)
    (h : Level levels p) : Runs g (.directive d) (directive g levels d) p := by
  induction levels generalizing d p with
  | zero =>
    intro fs
    apply reaches_of_step
    rw [step, State.after, push_of_le d.label (Nat.le_of_eq h.symm), directive_zero]
    exact reaches_refl g _
  | succ levels ih =>
    intro fs
    apply reaches_of_step
    obtain ⟨push, level⟩ := h.opened d.label
    rw [step, State.after, push, directive_succ, bind_of_ok push]
    have body : Runs g (.arguments d [] d.args) (body g levels d) (opened p d.label) :=
      runs_arguments (regular_directive g levels) ih d d.args [] _ level
    refine body.andThen .close fs (fun output => do move (·.pop); return output) fun s q _ => ?_
    exact reaches_of_step (reaches_refl g _)

/-- What can be evaluated. -/
inductive Subject where
  | text (s : String)
  | template (t : Template)
  | directive (d : Directive)
  | key (key : String)

def Subject.task : Subject → Task
  | text s => .text s
  | template t => .segments [] t
  | directive d => .directive d
  | key k => .resolve k

def Subject.evaluate (g : Generator) : Subject → Eval String
  | text s => g.evalText s
  | template t => g.evalTemplate t
  | directive d => g.evalDirective d
  | key k => g.resolveIn k

/-- The subject shows a directive with `k` levels of directives. -/
def Subject.Holds : Subject → Nat → Prop
  | text s, k => ∃ t, Template.read s = .ok t ∧ t.Holds k
  | template t, k => t.Holds k
  | directive d, k => d.Nests k
  | key _, _ => False

/-- The evaluation of a subject with the evaluation of directives left open. -/
def Subject.output (g : Generator) (directive : Directive → Eval String) : Subject → Eval String
  | .text s => Eval.text directive s
  | .template t => Eval.template directive t
  | .directive d => directive d
  | .key k => Eval.resolve g directive k

theorem evaluate_apply (g : Generator) (subject : Subject) (p : Progress) :
    subject.evaluate g p = subject.output g (directive g (p.trail.limit - p.trail.depth)) p := by
  cases subject with
  | text s => rfl
  | template t => rfl
  | directive d => rfl
  | key k => rfl

theorem level_of_le {p : Progress} (h : p.trail.depth ≤ p.trail.limit) :
    Level (p.trail.limit - p.trail.depth) p :=
  Nat.add_sub_cancel' h

theorem runs_evaluate (g : Generator) (subject : Subject) {p : Progress}
    (h : p.trail.depth ≤ p.trail.limit) : Runs g subject.task (subject.evaluate g) p := by
  have level := level_of_le h
  have hr := regular_directive g (p.trail.limit - p.trail.depth)
  have hd := runs_directive g (p.trail.limit - p.trail.depth)
  refine Runs.of_eq ?_ (evaluate_apply g subject p)
  cases subject with
  | text s => exact runs_text hr hd s p level
  | template t => exact runs_template hr hd t p level
  | directive d => exact hd d p level
  | key k => exact runs_resolve hr hd k p level

theorem regular_evaluate (g : Generator) (subject : Subject) {p : Progress}
    (h : p.trail.depth ≤ p.trail.limit) : Regular (subject.evaluate g) p := by
  have level := level_of_le h
  have hr := regular_directive g (p.trail.limit - p.trail.depth)
  refine Regular.of_eq ?_ (evaluate_apply g subject p)
  cases subject with
  | text s => exact regular_text hr s p level
  | template t => exact regular_template hr t p level
  | directive d => exact hr d p level
  | key k => exact regular_resolve hr k p level

theorem le_limit_of_holds {g : Generator} {subject : Subject} {p q : Progress} {s : String}
    {k : Nat} (h : p.trail.depth ≤ p.trail.limit) (holds : subject.Holds k)
    (eq : subject.evaluate g p = (.ok s, q)) : p.trail.depth + k ≤ p.trail.limit := by
  have le : k ≤ p.trail.limit - p.trail.depth := by
    rw [evaluate_apply] at eq
    cases subject with
    | text s =>
      obtain ⟨t, read, holds⟩ := holds
      rw [Subject.output, text_of_read _ read] at eq
      exact le_levels_of_holds holds eq
    | template t => exact le_levels_of_holds holds eq
    | directive d => exact le_levels_of_nests holds eq
    | key k => exact holds.elim
  omega

/-- Evaluation is finished after a number of steps, and at no step are more directives open than the
limit allows. It is refused only with the limit reached, and always when directives are nested too
deep. -/
theorem evaluation_within_limit (g : Generator) (subject : Subject) (p : Progress)
    (h : p.trail.depth ≤ p.trail.limit) :
    (∃ n, ∀ m, n ≤ m → (step g)^[m] ⟨subject.task, [], p⟩ = settle [] (subject.evaluate g p)) ∧
    (∀ n, ((step g)^[n] ⟨subject.task, [], p⟩).progress.trail.depth ≤ p.trail.limit) ∧
    (subject.evaluate g p).2.deepest ≤ max p.deepest p.trail.limit ∧
    (∀ limit labels q, subject.evaluate g p = (.error (.tooDeep limit labels), q) →
      limit = p.trail.limit ∧ labels.length = p.trail.limit + 1 ∧ p.trail.labels <+: labels) ∧
    (∀ k, subject.Holds k → p.trail.limit < p.trail.depth + k →
      ∀ s q, subject.evaluate g p ≠ (.ok s, q)) := by
  have within (n : Nat) := within_iterate g (s := ⟨subject.task, [], p⟩) (within_refl h) n
  obtain ⟨n, final⟩ := runs_evaluate g subject h []
  refine ⟨⟨n, fun m le => ?_⟩, fun m => (within m).depth, ?_, fun limit labels q eq => ?_, ?_⟩
  · rw [← Nat.sub_add_cancel le, Function.iterate_add_apply, final]
    exact Function.iterate_fixed (step_settle g _) (m - n)
  · have last := within n
    rw [final, progress_settle] at last
    exact last.deepest
  · exact (regular_evaluate g subject h).refused eq
  · intro k holds deep s q eq
    exact Nat.not_lt.2 (le_limit_of_holds h holds eq) deep

/-- With a limit of one, a directive with a directive among its arguments has no output. -/
theorem evaluation_within_limit_one :
    (∃ n, ∀ m, n ≤ m → (step ⟨⟨["en"]⟩, 1, .empty, .empty, .empty⟩)^[m]
        ⟨.directive (.builtin "letterify" [.nested (.builtin "numerify" [])]), [],
          ⟨⟨[], [], 1⟩, Source.scripted [], 0⟩⟩ =
      settle [] (Subject.evaluate ⟨⟨["en"]⟩, 1, .empty, .empty, .empty⟩
        (.directive (.builtin "letterify" [.nested (.builtin "numerify" [])]))
        ⟨⟨[], [], 1⟩, Source.scripted [], 0⟩)) ∧
    ∀ s q, Subject.evaluate ⟨⟨["en"]⟩, 1, .empty, .empty, .empty⟩
      (.directive (.builtin "letterify" [.nested (.builtin "numerify" [])]))
      ⟨⟨[], [], 1⟩, Source.scripted [], 0⟩ ≠ (.ok s, q) := by
  obtain ⟨final, _, _, _, never⟩ := evaluation_within_limit ⟨⟨["en"]⟩, 1, .empty, .empty, .empty⟩
    (.directive (.builtin "letterify" [.nested (.builtin "numerify" [])]))
    ⟨⟨[], [], 1⟩, Source.scripted [], 0⟩ (by decide)
  exact ⟨final, never 2 (.inside List.mem_cons_self (.here _)) (by decide)⟩

end Figment.Eval
