import Figment.Proofs.Evaluation.Lookups
/-!
A higher limit keeps every outcome that the limit did not cause.

Two evaluations go on side by side, the second one under a limit that is higher by `k`, and with no
fewer levels. Until the first one is refused for its depth they make the same progress: the same
directives and categories are open in both, and the same has been drawn. `Eval.Follows` says this of
two evaluations, and goes along with their sequencing. It needs nothing of the trail at the start.
-/

namespace Figment

def Trail.raise (k : Nat) (t : Trail) : Trail :=
  { t with limit := t.limit + k }

/-- The same progress under a higher limit. -/
def Progress.raise (k : Nat) (p : Progress) : Progress :=
  { p with trail := p.trail.raise k }

/-- An outcome that is not a refusal for depth. -/
def Settled {α : Type} (r : Except Failure α) : Prop :=
  ∀ e, r = .error e → ¬ e.IsTooDeep

namespace Eval

variable {α β : Type} {k : Nat}

/-- What the first evaluation settles, the second one settles alike under the higher limit. -/
def Follows (k : Nat) (e e' : Eval α) : Prop :=
  ∀ p r q, e p = (r, q) → Settled r → e' (p.raise k) = (r, q.raise k)

theorem follows_draw (d : ExceptT Failure Draw α) : Follows k (draw d) (draw d) := by
  intro p r q eq _
  rw [draw_apply] at eq
  cases eq
  rfl

theorem follows_pure (a : α) : Follows k (pure a) (pure a) :=
  follows_draw (pure a)

theorem follows_throw (e : Failure) : Follows k (throw e : Eval α) (throw e) :=
  follows_draw (throw e)

theorem follows_move (f : Trail → Trail) (h : ∀ t, f (t.raise k) = (f t).raise k) :
    Follows k (move f) (move f) := by
  intro p r q eq _
  cases eq
  have moved : (move f (p.raise k)).2 = { p with trail := f p.trail }.raise k := by
    change { p with trail := f (p.trail.raise k) } = _
    rw [h]
    rfl
  exact Prod.ext rfl moved

theorem Follows.bind {e e' : Eval α} {f f' : α → Eval β} (h : Follows k e e')
    (hf : ∀ a, Follows k (f a) (f' a)) : Follows k (e >>= f) (e' >>= f') := by
  intro p r q eq settled
  rcases first : e p with ⟨x | a, middle⟩
  · rw [bind_of_error first] at eq
    cases eq
    have same : Settled (.error x : Except Failure α) := by
      rintro y ⟨⟩
      exact settled x rfl
    exact bind_of_error (h p _ _ first same)
  · rw [bind_of_ok first] at eq
    rw [bind_of_ok (h p _ _ first nofun)]
    exact hf a middle r q eq settled

theorem follows_mapM {f f' : α → Eval β} (h : ∀ a, Follows k (f a) (f' a)) (as : List α) :
    Follows k (as.mapM f) (as.mapM f') := by
  induction as with
  | nil => exact follows_pure []
  | cons a as ih =>
    rw [List.mapM_cons, List.mapM_cons]
    exact (h a).bind fun b => ih.bind fun bs => follows_pure (b :: bs)

theorem follows_push (label : String) : Follows k (push label) (push label) := by
  intro p r q eq settled
  by_cases below : p.trail.depth < p.trail.limit
  -- Where there is room for a directive, there is room under the higher limit.
  · rw [push_of_lt label below] at eq
    cases eq
    exact push_of_lt label (Nat.lt_add_right k below)
  · rw [push_of_le label (Nat.not_lt.1 below)] at eq
    cases eq
    exact absurd ⟨_, _, rfl⟩ (settled _ rfl)

section Nested

variable {g : Generator} {directive directive' : Directive → Eval String}
  (hd : ∀ d, Follows k (directive d) (directive' d))
include hd

theorem follows_template (t : Template) :
    Follows k (template directive t) (template directive' t) := by
  rw [template_eq, template_eq]
  refine (follows_mapM (fun s => ?_) t).bind fun outputs => follows_pure _
  cases s with
  | literal text => exact follows_pure text
  | directive d => exact hd d

theorem follows_arguments (args : List Argument) :
    Follows k (arguments directive args) (arguments directive' args) := by
  rw [arguments_eq, arguments_eq]
  refine follows_mapM (fun a => ?_) args
  cases a with
  | literal text => exact follows_pure text
  | nested d => exact hd d

theorem follows_text (s : String) : Follows k (text directive s) (text directive' s) := by
  unfold text
  split
  · split
    · exact follows_template hd _
    · exact follows_throw _
  · exact follows_pure s

theorem follows_resolve (key : String) :
    Follows k (resolve g directive key) (resolve g directive' key) := by
  unfold resolve
  dsimp only
  split
  · exact follows_throw _
  · next values _ =>
    refine (follows_draw (Draw.pick values)).bind fun picked => ?_
    refine (follows_move (·.enter (Unicode.lower key)) fun _ => rfl).bind fun _ => ?_
    refine (follows_text hd picked).bind fun output => ?_
    exact (follows_move (·.leave) fun _ => rfl).bind fun _ => follows_pure output

theorem follows_raw (d : Directive) (args : List String) :
    Follows k (raw g directive d args) (raw g directive' d args) := by
  intro p r q eq settled
  have draws := draws_call g p.trail d args
  -- The call does not look at the limit.
  have same : call g (p.raise k).trail d args = call g p.trail d args := rfl
  rw [← run_call] at eq ⊢
  rw [same]
  cases called : call g p.trail d args with
  | key key =>
    rw [called] at eq
    exact follows_resolve hd key p r q eq settled
  | answer e =>
    rw [called] at eq draws
    obtain ⟨d, _, rfl⟩ := draws
    exact follows_draw d p r q eq settled

end Nested

theorem follows_directive (g : Generator) {levels levels' : Nat} (h : levels ≤ levels')
    (d : Directive) : Follows k (directive g levels d) (directive g levels' d) := by
  induction levels generalizing levels' d with
  | zero =>
    intro p r q eq settled
    rw [directive_zero] at eq
    cases eq
    exact absurd ⟨_, _, rfl⟩ (settled _ rfl)
  | succ levels ih =>
    obtain ⟨more, rfl⟩ := Nat.exists_eq_add_of_le' h
    have inner : ∀ d, Follows k (directive g levels d) (directive g (more + levels) d) :=
      ih (Nat.le_add_left levels more)
    have evaluated : Follows k (body g levels d) (body g (more + levels) d) := by
      refine (follows_arguments inner d.args).bind fun args => ?_
      exact (follows_raw inner d args).bind fun raw => follows_text inner raw
    rw [← Nat.add_assoc, directive_succ, directive_succ]
    refine (follows_push d.label).bind fun _ => evaluated.bind fun output => ?_
    exact (follows_move (·.pop) fun _ => rfl).bind fun _ => follows_pure output

theorem follows_evaluate (g : Generator) (subject : Subject) :
    Follows k (subject.evaluate g) (subject.evaluate g) := by
  intro p r q eq settled
  have levels : p.trail.limit - p.trail.depth ≤ p.trail.limit + k - p.trail.depth :=
    Nat.sub_le_sub_right (Nat.le_add_right _ k) _
  have inner : ∀ d, Follows k _ _ := follows_directive g levels
  rw [evaluate_apply] at eq ⊢
  cases subject with
  | text s => exact follows_text inner s p r q eq settled
  | template t => exact follows_template inner t p r q eq settled
  | directive d => exact inner d p r q eq settled
  | key key => exact follows_resolve inner key p r q eq settled

end Eval

namespace Generator

variable {g : Generator}

theorem alike_of_limit (g : Generator) (limit : Nat) : g.Alike { g with maxDepth := limit } :=
  ⟨rfl, fun _ => rfl, fun _ => rfl⟩

theorem fresh_of_follows {k : Nat} {e : Eval String} (h : Eval.Follows k e e) {source : Source}
    (settled : Settled (g.fresh e source).1) :
    { g with maxDepth := g.maxDepth + k }.fresh e source = g.fresh e source := by
  have same := h ⟨g.newTrail, source, 0⟩ _ _ rfl settled
  unfold fresh
  exact congrArg (fun r => (r.1, r.2.source)) same

/-- An outcome that is not a refusal for depth is the outcome under every higher limit, and as much
is drawn for it. -/
theorem outcome_of_higher_limit (g : Generator) (limit : Nat) (h : g.maxDepth ≤ limit) :
    (∀ text source, Settled (g.expression text source).1 →
      { g with maxDepth := limit }.expression text source = g.expression text source) ∧
    ∀ key source, Settled (g.resolve key source).1 →
      { g with maxDepth := limit }.resolve key source = g.resolve key source := by
  obtain ⟨k, rfl⟩ := Nat.exists_eq_add_of_le h
  have alike := alike_of_limit g (g.maxDepth + k)
  constructor
  · intro text source settled
    have same : { g with maxDepth := g.maxDepth + k }.evalText text = g.evalText text :=
      Eval.evaluate_alike alike (.text text)
    rw [expression, same]
    exact fresh_of_follows (Eval.follows_evaluate g (.text text)) settled
  · intro key source settled
    have same : { g with maxDepth := g.maxDepth + k }.resolveIn key = g.resolveIn key :=
      Eval.evaluate_alike alike (.key key)
    rw [resolve, same]
    exact fresh_of_follows (Eval.follows_evaluate g (.key key)) settled

/-- A value that needs one level, and a directive that is refused for its name, not for the limit
it stands at. -/
theorem outcome_of_higher_limit_one :
    let low : Generator := { Eval.petGenerator with maxDepth := 1 }
    let high : Generator := { low with maxDepth := 64 }
    high.resolve "pet.line" (.scripted [7]) = low.resolve "pet.line" (.scripted [7]) ∧
      (high.resolve "pet.line" (.scripted [7])).1 = .ok "a cat" ∧
      (high.expression "#\x7bnope\x7d" (.scripted [7])).1 =
        .error (.unknownBuiltin "nope" []) := by
  intro low high
  obtain ⟨expressions, keys⟩ := outcome_of_higher_limit low 64 (by decide)
  have line : (low.resolve "pet.line" (.scripted [7])).1 = .ok "a cat" := by
    decide +kernel
  have nope : (low.expression "#\x7bnope\x7d" (.scripted [7])).1 =
      .error (.unknownBuiltin "nope" []) := by
    decide +kernel
  have same := keys "pet.line" (.scripted [7]) (by rw [line]; exact nofun)
  refine ⟨same, by rw [same, line], ?_⟩
  rw [expressions _ _ (by rw [nope]; rintro e ⟨⟩; exact nofun), nope]

end Generator

end Figment
