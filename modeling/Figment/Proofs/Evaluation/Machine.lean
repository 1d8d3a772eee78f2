import Figment.Proofs.Evaluation.Levels
import Mathlib.Logic.Function.Iterate
/-!
Evaluation as a machine that takes one step after another.

The machine counts no levels. It holds a task and the frames that wait for its output, and opens
directives as long as the trail allows it. Every state it gets into keeps to the limit.
-/

namespace Figment.Eval

/-- What is being done. -/
inductive Task where
  | text (s : String)
  | segments (outputs : List String) (rest : Template)
  | directive (d : Directive)
  | arguments (d : Directive) (values : List String) (rest : List Argument)
  | resolve (key : String)
  | output (s : String)
  | failed (e : Failure)

/-- What waits for an output. -/
inductive Frame where
  | segments (outputs : List String) (rest : Template)
  | arguments (d : Directive) (values : List String) (rest : List Argument)
  /-- The output of a generator, which is evaluated again. -/
  | again
  /-- The final output of a directive, which is closed. -/
  | close
  /-- The output of a value, whose category is left. -/
  | leave

structure State where
  task : Task
  frames : List Frame
  progress : Progress

/-- Goes on with the outcome of an evaluation that takes one step. A failure drops all frames. -/
def State.after {α : Type} (e : Eval α) (p : Progress) (next : α → Progress → State) : State :=
  match e p with
  | (.ok a, q) => next a q
  | (.error x, q) => ⟨.failed x, [], q⟩

/-- One step. States in which nothing is left to do stay as they are. -/
def step (g : Generator) : State → State
  | ⟨.text s, fs, p⟩ =>
    if Template.hasMark s.toList then
      match Template.read s with
      | .ok t => ⟨.segments [] t, fs, p⟩
      | .error e => ⟨.failed (.badTemplate s e), [], p⟩
    else ⟨.output s, fs, p⟩
  | ⟨.segments outputs [], fs, p⟩ => ⟨.output (String.join outputs), fs, p⟩
  | ⟨.segments outputs (.literal s :: t), fs, p⟩ => ⟨.segments (outputs ++ [s]) t, fs, p⟩
  | ⟨.segments outputs (.directive d :: t), fs, p⟩ => ⟨.directive d, .segments outputs t :: fs, p⟩
  | ⟨.directive d, fs, p⟩ =>
    State.after (push d.label) p fun _ q => ⟨.arguments d [] d.args, .close :: fs, q⟩
  | ⟨.arguments d values [], fs, p⟩ =>
    match call g p.trail d values with
    | .key k => ⟨.resolve k, .again :: fs, p⟩
    | .answer e => State.after e p fun s q => ⟨.text s, fs, q⟩
  | ⟨.arguments d values (.literal s :: rest), fs, p⟩ => ⟨.arguments d (values ++ [s]) rest, fs, p⟩
  | ⟨.arguments d values (.nested e :: rest), fs, p⟩ =>
    ⟨.directive e, .arguments d values rest :: fs, p⟩
  | ⟨.resolve key, fs, p⟩ =>
    match g.lookup (Unicode.lower key) with
    | none => ⟨.failed (.missingKey (Unicode.lower key) g.chain.locales), [], p⟩
    | some values =>
      State.after (draw (Draw.pick values)) p fun s q =>
        ⟨.text s, .leave :: fs, { q with trail := q.trail.enter (Unicode.lower key) }⟩
  | ⟨.output s, .segments outputs t :: fs, p⟩ => ⟨.segments (outputs ++ [s]) t, fs, p⟩
  | ⟨.output s, .arguments d values rest :: fs, p⟩ => ⟨.arguments d (values ++ [s]) rest, fs, p⟩
  | ⟨.output s, .again :: fs, p⟩ => ⟨.text s, fs, p⟩
  | ⟨.output s, .close :: fs, p⟩ => ⟨.output s, fs, { p with trail := p.trail.pop }⟩
  | ⟨.output s, .leave :: fs, p⟩ => ⟨.output s, fs, { p with trail := p.trail.leave }⟩
  | ⟨.output s, [], p⟩ => ⟨.output s, [], p⟩
  | ⟨.failed e, fs, p⟩ => ⟨.failed e, fs, p⟩

/-- What has been reached from a start keeps to the limit that was set there. -/
structure Within (start p : Progress) : Prop where
  limit : p.trail.limit = start.trail.limit
  depth : p.trail.depth ≤ start.trail.limit
  deepest : p.deepest ≤ max start.deepest start.trail.limit

theorem within_refl {p : Progress} (h : p.trail.depth ≤ p.trail.limit) : Within p p :=
  ⟨rfl, h, Nat.le_max_left _ _⟩

theorem within_after {α : Type} {start p : Progress} {e : Eval α} {next : α → Progress → State}
    (failed : ∀ x q, e p = (.error x, q) → Within start q)
    (ok : ∀ a q, e p = (.ok a, q) → Within start (next a q).progress) :
    Within start (State.after e p next).progress := by
  unfold State.after
  split
  · next a q eq => exact ok a q eq
  · next x q eq => exact failed x q eq

theorem within_still {α : Type} {start p q : Progress} {e : Eval α} {r : Except Failure α}
    (still : Still e) (h : Within start p) (eq : e p = (r, q)) : Within start q := by
  obtain ⟨source, rfl⟩ := still.eq_with_source eq
  exact ⟨h.limit, h.depth, h.deepest⟩

theorem within_push {start p q : Progress} {label : String} {r : Except Failure Unit}
    (h : Within start p) (eq : push label p = (r, q)) : Within start q := by
  rcases Nat.lt_or_ge p.trail.depth p.trail.limit with below | full
  · rw [push_of_lt label below] at eq
    cases eq
    rw [h.limit] at below
    exact ⟨h.limit, below, Nat.max_le.2 ⟨h.deepest, Nat.le_trans below (Nat.le_max_right _ _)⟩⟩
  · rw [push_of_le label full] at eq
    cases eq
    exact h

theorem Within.pop {start p : Progress} (h : Within start p) :
    Within start { p with trail := p.trail.pop } := by
  refine ⟨h.limit, Nat.le_trans ?_ h.depth, h.deepest⟩
  exact (List.tail_sublist p.trail.running).length_le

theorem within_step (g : Generator) {start : Progress} {s : State} (h : Within start s.progress) :
    Within start (step g s).progress := by
  unfold step
  split
  · split
    · split
      · exact h
      · exact h
    · exact h
  · exact h
  · exact h
  · exact h
  · exact within_after (fun _ _ eq => within_push h eq) fun _ _ eq => within_push h eq
  · next d values fs p =>
    have plain := plain_call g p.trail d values
    split
    · exact h
    · next e answer =>
      rw [answer] at plain
      exact within_after (fun _ _ eq => within_still plain h eq) fun _ _ eq => within_still plain h eq
  · exact h
  · exact h
  · split
    · exact h
    · next values _ =>
      have drawn := still_draw (Draw.shallow_pick values)
      refine within_after (fun _ _ eq => within_still drawn h eq) fun _ q eq => ?_
      have within := within_still drawn h eq
      exact ⟨within.limit, within.depth, within.deepest⟩
  · exact h
  · exact h
  · exact h
  · exact h.pop
  · exact ⟨h.limit, h.depth, h.deepest⟩
  · exact h
  · exact h

theorem within_iterate (g : Generator) {start : Progress} {s : State}
    (h : Within start s.progress) (n : Nat) : Within start ((step g)^[n] s).progress := by
  induction n with
  | zero => exact h
  | succ n ih =>
    rw [Function.iterate_succ_apply']
    exact within_step g ih

end Figment.Eval
