import Figment.Proofs.Evaluation.Call
/-!
What an evaluation leaves behind.

An evaluation that succeeds leaves the trail as it found it. One that is refused for its depth has
filled the trail up to the limit, above the directives that were open at its start. `Eval.Regular`
says both, and goes along with the sequencing of evaluations. The number of levels that the
evaluator counts down is always what the trail has left, and a directive needs as many levels as
directives are nested in its arguments.
-/

namespace Figment

/-- A directive with `k` levels of directives: itself, one of its arguments, one of the arguments of
that, and so on. -/
inductive Directive.Nests : Directive → Nat → Prop
  | here (d : Directive) : d.Nests 1
  | inside {d e : Directive} {k : Nat} : .nested e ∈ d.args → e.Nests k → d.Nests (k + 1)

def Template.Holds (t : Template) (k : Nat) : Prop :=
  ∃ d, .directive d ∈ t ∧ d.Nests k

namespace Eval

variable {α β : Type} {p : Progress}

structure Regular (e : Eval α) (p : Progress) : Prop where
  kept : ∀ {a q}, e p = (.ok a, q) → q.trail = p.trail
  refused : ∀ {limit labels q}, e p = (.error (.tooDeep limit labels), q) →
    limit = p.trail.limit ∧ labels.length = p.trail.limit + 1 ∧ p.trail.labels <+: labels

theorem regular_of_still {e : Eval α} (h : Still e) : Regular e p where
  kept {a q} eq := by
    obtain ⟨source, rfl⟩ := h.eq_with_source eq
    rfl
  refused eq := absurd ⟨_, _, rfl⟩ (h.shallow eq)

theorem Regular.of_eq {e e' : Eval α} (h : Regular e p) (eq : e' p = e p) : Regular e' p where
  kept ok := h.kept (eq.symm.trans ok)
  refused error := h.refused (eq.symm.trans error)

theorem Regular.bind {e : Eval α} {f : α → Eval β} (h : Regular e p)
    (hf : ∀ a q, e p = (.ok a, q) → Regular (f a) q) : Regular (e >>= f) p where
  kept eq := by
    obtain ⟨a, q, first, second⟩ := bind_eq_ok eq
    exact ((hf a q first).kept second).trans (h.kept first)
  refused eq := by
    rcases bind_eq_error eq with first | ⟨a, q, first, second⟩
    · exact h.refused first
    · rw [← h.kept first]
      exact (hf a q first).refused second

/-- What is opened before an evaluation and closed behind it. -/
theorem Regular.enclosed {e : Eval α} {q : Progress} {start : Eval Unit} {close : Trail → Trail}
    (inner : Regular e q) (opened : start p = (.ok (), q)) (back : close q.trail = p.trail)
    (limit : q.trail.limit = p.trail.limit) (above : p.trail.labels <+: q.trail.labels) :
    Regular (do start; let a ← e; move close; return a) p where
  kept {a r} eq := by
    rw [bind_of_ok opened] at eq
    obtain ⟨b, middle, first, last⟩ := bind_eq_ok eq
    cases last
    change close middle.trail = p.trail
    rw [inner.kept first, back]
  refused eq := by
    rw [bind_of_ok opened] at eq
    rcases bind_eq_error eq with first | ⟨b, middle, _, last⟩
    · rw [← limit]
      obtain ⟨same, length, labels⟩ := inner.refused first
      exact ⟨same, length, above.trans labels⟩
    · cases last

/-- So many levels are left of a trail. -/
def Level (levels : Nat) (p : Progress) : Prop :=
  p.trail.depth + levels = p.trail.limit

theorem Level.of_ok {levels : Nat} {e : Eval α} {a : α} {q : Progress} (h : Level levels p)
    (he : Regular e p) (eq : e p = (.ok a, q)) : Level levels q := by
  rw [Level, he.kept eq]
  exact h

theorem regular_mapM {levels : Nat} {f : α → Eval β}
    (hf : ∀ a p, Level levels p → Regular (f a) p) (as : List α) (p : Progress)
    (h : Level levels p) : Regular (as.mapM f) p := by
  induction as generalizing p with
  | nil => exact regular_of_still (still_pure [])
  | cons a as ih =>
    rw [List.mapM_cons]
    refine (hf a p h).bind fun b q eq => ?_
    exact (ih q (h.of_ok (hf a p h) eq)).bind fun _ _ _ => regular_of_still (still_pure _)

def segment (directive : Directive → Eval String) : Segment → Eval String
  | .literal text => pure text
  | .directive d => directive d

def argument (directive : Directive → Eval String) : Argument → Eval String
  | .literal text => pure text
  | .nested d => directive d

theorem template_eq (directive : Directive → Eval String) (t : Template) :
    template directive t = (do return String.join (← t.mapM (segment directive))) := rfl

theorem arguments_eq (directive : Directive → Eval String) (args : List Argument) :
    arguments directive args = args.mapM (argument directive) := rfl

section Nested

variable {g : Generator} {levels : Nat} {directive : Directive → Eval String}
  (hd : ∀ d p, Level levels p → Regular (directive d) p)
include hd

theorem regular_template (t : Template) (p : Progress) (h : Level levels p) :
    Regular (template directive t) p := by
  rw [template_eq]
  refine (regular_mapM (fun g p h => ?_) t p h).bind fun _ _ _ => regular_of_still (still_pure _)
  cases g with
  | literal text => exact regular_of_still (still_pure text)
  | directive d => exact hd d p h

theorem regular_arguments (args : List Argument) (p : Progress) (h : Level levels p) :
    Regular (arguments directive args) p := by
  rw [arguments_eq]
  refine regular_mapM (fun a p h => ?_) args p h
  cases a with
  | literal text => exact regular_of_still (still_pure text)
  | nested d => exact hd d p h

theorem regular_text (s : String) (p : Progress) (h : Level levels p) :
    Regular (text directive s) p := by
  unfold text
  split
  · split
    · exact regular_template hd _ p h
    · exact regular_of_still (still_throw nofun)
  · exact regular_of_still (still_pure s)

theorem regular_resolve (key : String) (p : Progress) (h : Level levels p) :
    Regular (resolve g directive key) p := by
  unfold resolve
  dsimp only
  split
  · exact regular_of_still (still_throw nofun)
  · next values _ =>
    have drawn : Regular (draw (Draw.pick values)) p :=
      regular_of_still (still_draw (Draw.shallow_pick values))
    refine drawn.bind fun picked q eq => ?_
    have level : Level levels q := h.of_ok drawn eq
    have inside := regular_text hd picked { q with trail := q.trail.enter (Unicode.lower key) } level
    exact inside.enclosed rfl rfl rfl (List.prefix_refl _)

theorem regular_run {c : Call} (hc : c.Plain) (p : Progress) (h : Level levels p) :
    Regular (c.run g directive) p := by
  cases c with
  | key k => exact regular_resolve hd k p h
  | answer e => exact regular_of_still hc

theorem regular_raw (d : Directive) (args : List String) (p : Progress) (h : Level levels p) :
    Regular (raw g directive d args) p :=
  (regular_run hd (plain_call g p.trail d args) p h).of_eq (run_call d args p).symm

end Nested

/-- What the evaluator does with an open directive. -/
def body (g : Generator) (levels : Nat) (d : Directive) : Eval String := do
  let args ← arguments (directive g levels) d.args
  let raw ← raw g (directive g levels) d args
  text (directive g levels) raw

theorem directive_zero (g : Generator) (d : Directive) (p : Progress) :
    directive g 0 d p = (.error (p.trail.refusal d.label), p) := rfl

theorem directive_succ (g : Generator) (levels : Nat) (d : Directive) :
    directive g (levels + 1) d =
      (do push d.label; let output ← body g levels d; move (·.pop); return output) := by
  simp only [directive, body, bind_assoc]

/-- The progress made when a directive has been opened. -/
def opened (p : Progress) (label : String) : Progress :=
  let trail := { p.trail with running := label :: p.trail.running }
  { p with trail, deepest := max p.deepest trail.depth }

theorem trail_apply (p : Progress) : trail p = (.ok p.trail, p) := rfl

theorem push_of_lt {p : Progress} (label : String) (h : p.trail.depth < p.trail.limit) :
    push label p = (.ok (), opened p label) := by
  rw [push, bind_of_ok (trail_apply p), Trail.push_of_lt label h]
  rfl

theorem push_of_le {p : Progress} (label : String) (h : p.trail.limit ≤ p.trail.depth) :
    push label p = (.error (p.trail.refusal label), p) := by
  rw [push, bind_of_ok (trail_apply p), Trail.push_of_le label h]
  rfl

theorem Level.opened {levels : Nat} (h : Level (levels + 1) p) (label : String) :
    push label p = (.ok (), Eval.opened p label) ∧ Level levels (Eval.opened p label) := by
  have sum : p.trail.depth + (levels + 1) = p.trail.limit := h
  refine ⟨push_of_lt label (by omega), ?_⟩
  change p.trail.depth + 1 + levels = p.trail.limit
  omega

theorem regular_body {g : Generator} {levels : Nat}
    (hd : ∀ d p, Level levels p → Regular (directive g levels d) p) (d : Directive) (p : Progress)
    (h : Level levels p) : Regular (body g levels d) p := by
  have args := regular_arguments hd d.args p h
  refine args.bind fun values q eq => ?_
  have raw := regular_raw (g := g) hd d values q (h.of_ok args eq)
  refine raw.bind fun output r eq' => ?_
  exact regular_text hd output r ((h.of_ok args eq).of_ok raw eq')

/-- Evaluating a directive keeps the trail, or fills it. -/
theorem regular_directive (g : Generator) (levels : Nat) (d : Directive) (p : Progress)
    (h : Level levels p) : Regular (directive g levels d) p := by
  induction levels generalizing d p with
  | zero =>
    have full : p.trail.depth = p.trail.limit := h
    constructor
    · intro a q eq
      rw [directive_zero] at eq
      cases eq
    · intro limit labels q eq
      rw [directive_zero] at eq
      cases eq
      refine ⟨rfl, ?_, List.prefix_append _ _⟩
      rw [List.length_append, Trail.labels, List.length_reverse, ← full]
      rfl
  | succ levels ih =>
    obtain ⟨push, level⟩ := h.opened d.label
    rw [directive_succ]
    refine (regular_body ih d _ level).enclosed push rfl rfl ?_
    exact ⟨[d.label], (List.reverse_cons).symm⟩

theorem exists_ok_of_mapM {f : α → Eval β} {as : List α} {bs : List β} {p q : Progress}
    (h : as.mapM f p = (.ok bs, q)) {a : α} (ha : a ∈ as) : ∃ b r r', f a r = (.ok b, r') := by
  induction as generalizing bs p q with
  | nil => cases ha
  | cons first as ih =>
    rw [List.mapM_cons] at h
    obtain ⟨b, middle, here, later⟩ := bind_eq_ok h
    obtain ⟨more, last, later, _⟩ := bind_eq_ok later
    cases ha with
    | head => exact ⟨b, p, middle, here⟩
    | tail _ ha => exact ih later ha

/-- A directive that is evaluated has a level for each directive nested in its arguments. -/
theorem le_levels_of_nests {g : Generator} {levels k : Nat} {d : Directive} {s : String}
    {p q : Progress} (nests : d.Nests k) (h : directive g levels d p = (.ok s, q)) :
    k ≤ levels := by
  induction nests generalizing levels s p q with
  | here d =>
    cases levels with
    | zero =>
      rw [directive_zero] at h
      cases h
    | succ levels => exact Nat.succ_le_succ (Nat.zero_le levels)
  | @inside d e k arg _ ih =>
    cases levels with
    | zero =>
      rw [directive_zero] at h
      cases h
    | succ levels =>
      rw [directive_succ] at h
      obtain ⟨_, _, _, h⟩ := bind_eq_ok h
      obtain ⟨_, _, evaluated, _⟩ := bind_eq_ok h
      obtain ⟨_, _, args, _⟩ := bind_eq_ok evaluated
      obtain ⟨value, r, r', inner⟩ := exists_ok_of_mapM args arg
      exact Nat.succ_le_succ (ih inner)

theorem le_levels_of_holds {g : Generator} {levels k : Nat} {t : Template} {s : String}
    {p q : Progress} (holds : t.Holds k) (h : template (directive g levels) t p = (.ok s, q)) :
    k ≤ levels := by
  obtain ⟨d, mem, nests⟩ := holds
  obtain ⟨_, _, outputs, _⟩ := bind_eq_ok h
  obtain ⟨value, r, r', inner⟩ := exists_ok_of_mapM outputs mem
  exact le_levels_of_nests nests inner

end Eval

end Figment
