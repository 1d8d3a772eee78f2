import Figment.Proofs.Evaluation.Frame
import Figment.Proofs.Random.Outcomes
import Figment.Proofs.Unicode.Lowercase
/-!
Why an evaluation fails, and what is open when it does.

A failure is passed on from where it arises, and nothing is closed on its way. So what is known of the
trail at the start, of the failure, and of the trail at the failure is found by following the
evaluation down to that place: `Admits` collects what has to hold of a relation between the three for
every evaluation of a directive to abide by it.
-/

namespace Figment

namespace Draw

/-- The index is in range whenever there is something to pick. -/
theorem exists_pick {items : List String} (h : items ≠ []) (source : Source) :
    ∃ item ∈ items, ∃ after, pick items source = (.ok item, after) := by
  have positive : 0 < items.length := List.length_pos_iff.2 h
  have inRange := always_below positive source
  rcases drawn : below items.length source with ⟨i, after⟩
  rw [drawn] at inRange
  have number : number items.length source = (.ok i, after) := by
    rw [number, if_neg (Nat.ne_of_gt positive)]
    change (Except.ok (below items.length source).1, (below items.length source).2) = _
    rw [drawn]
  refine ⟨items[i], List.getElem_mem inRange, after, ?_⟩
  rw [pick, if_neg h, bind_of_ok number, List.getElem?_eq_getElem inRange]
  rfl

theorem eq_nil_of_pick {items : List String} {source after : Source} {x : Failure}
    (h : pick items source = (.error x, after)) : items = [] ∧ x = .nothingToPick := by
  by_cases empty : items = []
  · rw [pick, if_pos empty] at h
    cases h
    exact ⟨empty, rfl⟩
  · obtain ⟨item, _, _, picked⟩ := exists_pick empty source
    rw [picked] at h
    cases h

end Draw

namespace Eval

variable {α β : Type} {R : Trail → Failure → Trail → Prop}

/-- Whenever the evaluation fails, the trail before, the failure and the trail after are related. -/
def Fails (R : Trail → Failure → Trail → Prop) (e : Eval α) : Prop :=
  ∀ p x q, e p = (.error x, q) → R p.trail x q.trail

theorem fails_pure (a : α) : Fails R (pure a) := by
  intro p x q eq
  cases eq

theorem fails_throw {x : Failure} (h : ∀ t, R t x t) : Fails R (throw x : Eval α) := by
  intro p y q eq
  cases eq
  exact h p.trail

theorem fails_draw {d : ExceptT Failure Draw α} (h : Draw.FailsOnly (fun x => ∀ t, R t x t) d) :
    Fails R (draw d) := by
  intro p x q eq
  rw [draw_apply] at eq
  obtain ⟨failed, rfl⟩ := Prod.mk.inj eq
  exact h p.source x _ (Prod.ext failed rfl) p.trail

theorem Fails.bind {e : Eval α} {f : α → Eval β} (h : Fails R e) (keeps : Keeps e)
    (hf : ∀ a, Fails R (f a)) : Fails R (e >>= f) := by
  intro p x q eq
  rcases bind_eq_error eq with first | ⟨a, middle, first, second⟩
  · exact h p x q first
  · have later := hf a middle x q second
    rwa [keeps p a middle first] at later

theorem fails_mapM {f : α → Eval β} (keeps : ∀ a, Keeps (f a)) (h : ∀ a, Fails R (f a))
    (as : List α) : Fails R (as.mapM f) := by
  induction as with
  | nil => exact fails_pure []
  | cons a as ih =>
    rw [List.mapM_cons]
    refine (h a).bind (keeps a) fun b => ?_
    exact ih.bind (keeps_mapM keeps as) fun bs => fails_pure (b :: bs)

/-- What is opened in front of an evaluation is open when that fails. -/
theorem Fails.enclosed {e : Eval α} {start : Eval Unit} {close : Trail → Trail}
    (opening : Fails R start) (inner : Fails R e)
    (opened : ∀ p q x u, start p = (.ok (), q) → R q.trail x u → R p.trail x u) :
    Fails R (do start; let a ← e; move close; return a) := by
  intro p x r eq
  rcases bind_eq_error eq with refused | ⟨_, q, begun, eq⟩
  · exact opening p x r refused
  · rcases bind_eq_error eq with failed | ⟨a, middle, _, closing⟩
    · exact opened p q x r.trail begun (inner q x r failed)
    · cases closing

section Nested

variable {g : Generator} {directive : Directive → Eval String} (hk : ∀ d, Keeps (directive d))
  (hd : ∀ d, Fails R (directive d))
include hk hd

theorem fails_template (t : Template) : Fails R (template directive t) := by
  have keeps (s : Segment) : Keeps (segment directive s) := by
    cases s with
    | literal text => exact keeps_of_still (still_pure text)
    | directive d => exact hk d
  have fails (s : Segment) : Fails R (segment directive s) := by
    cases s with
    | literal text => exact fails_pure text
    | directive d => exact hd d
  rw [template_eq]
  exact (fails_mapM keeps fails t).bind (keeps_mapM keeps t) fun _ => fails_pure _

theorem fails_arguments (args : List Argument) : Fails R (arguments directive args) := by
  rw [arguments_eq]
  refine fails_mapM (fun a => ?_) (fun a => ?_) args
  · cases a with
    | literal text => exact keeps_of_still (still_pure text)
    | nested d => exact hk d
  · cases a with
    | literal text => exact fails_pure text
    | nested d => exact hd d

end Nested

/-- What a relation has to admit for directives to abide by it: the failures themselves, and that
something is opened before one arises. -/
structure Admits (g : Generator) (R : Trail → Failure → Trail → Prop) : Prop where
  tooDeep : ∀ t label, R t (t.refusal label) t
  badTemplate : ∀ t s e, R t (.badTemplate s e) t
  refusal : ∀ t x, Refusal x → R t x t
  missing : ∀ t key, key = teamsKey ∨ key = leaguesKey → g.lookup key = none →
    R t (.missingKey key g.chain.locales) t
  nothing : ∀ t key, g.lookup key = some [] → R t .nothingToPick t
  opened : ∀ t label x u, R { t with running := label :: t.running } x u → R t x u
  entered : ∀ t key x u, R (t.enter key) x u → R t x u

theorem lookup_lower (g : Generator) (key : String) :
    g.lookup (Unicode.lower key) = g.lookup key := by
  unfold Generator.lookup Store.lookup
  rw [Unicode.lower_lower]

section Nested

variable {g : Generator} {directive : Directive → Eval String} (admits : Admits g R)
  (hk : ∀ d, Keeps (directive d)) (hd : ∀ d, Fails R (directive d))
include admits hk hd

theorem fails_text (s : String) : Fails R (text directive s) := by
  unfold text
  split
  · split
    · exact fails_template hk hd _
    · exact fails_throw fun t => admits.badTemplate t s _
  · exact fails_pure s

theorem fails_resolve (key : String)
    (missing : g.lookup key = none → ∀ t, R t (.missingKey (Unicode.lower key) g.chain.locales) t) :
    Fails R (resolve g directive key) := by
  unfold resolve
  dsimp only
  rw [lookup_lower]
  split
  · next absent => exact fails_throw (missing absent)
  · next values found =>
    have pick : Draw.FailsOnly (fun x => ∀ t, R t x t) (Draw.pick values) := by
      intro source x after eq t
      obtain ⟨rfl, rfl⟩ := Draw.eq_nil_of_pick eq
      exact admits.nothing t key found
    have keeps : Keeps (draw (Draw.pick values)) :=
      keeps_of_still (still_draw (Draw.shallow_pick values))
    refine (fails_draw pick).bind keeps fun picked => ?_
    refine Fails.enclosed (fun p x q eq => by cases eq) (fails_text admits hk hd picked) ?_
    intro p q x u begun inside
    cases begun
    exact admits.entered p.trail _ x u inside

theorem fails_raw (d : Directive) (args : List String) : Fails R (raw g directive d args) := by
  intro p x q eq
  have answers := answers_call g p.trail d args
  rw [← run_call] at eq
  cases called : call g p.trail d args with
  | key k =>
    rw [called] at eq answers
    refine fails_resolve admits hk hd k (fun absent t => ?_) p x q eq
    rcases answers with known | named
    · rw [Generator.hasKey, absent] at known
      cases known
    · -- The keys that are named in a method are in lower case.
      have same : Unicode.lower k = k := by
        rcases named with rfl | rfl
        · decide +kernel
        · decide +kernel
      rw [same]
      exact admits.missing t k named absent
  | answer e =>
    rw [called] at eq answers
    obtain ⟨d, refusal, rfl⟩ := answers
    exact fails_draw (refusal.mono fun x h t => admits.refusal t x h) p x q eq

end Nested

theorem fails_directive {g : Generator} (admits : Admits g R) (levels : Nat) (d : Directive) :
    Fails R (directive g levels d) := by
  induction levels generalizing d with
  | zero =>
    intro p x q eq
    rw [directive_zero] at eq
    cases eq
    exact admits.tooDeep p.trail d.label
  | succ levels ih =>
    have keeps := keeps_directive g levels
    have evaluated : Fails R (body g levels d) := by
      refine (fails_arguments keeps ih d.args).bind (keeps_arguments keeps d.args) fun args => ?_
      refine (fails_raw admits keeps ih d args).bind (keeps_raw keeps d args) fun raw => ?_
      exact fails_text admits keeps ih raw
    have opening : Fails R (push d.label) := by
      intro p x q eq
      rcases Nat.lt_or_ge p.trail.depth p.trail.limit with below | full
      · rw [push_of_lt d.label below] at eq
        cases eq
      · rw [push_of_le d.label full] at eq
        cases eq
        exact admits.tooDeep p.trail d.label
    rw [directive_succ]
    refine opening.enclosed evaluated fun p q x u begun inside => ?_
    rcases Nat.lt_or_ge p.trail.depth p.trail.limit with below | full
    · rw [push_of_lt d.label below] at begun
      cases begun
      exact admits.opened p.trail d.label x u inside
    · rw [push_of_le d.label full] at begun
      cases begun

/-- Every evaluation abides by the relation. A key may be missing at the start. -/
theorem fails_evaluate {g : Generator} (admits : Admits g R) (subject : Subject)
    (missing : ∀ key, subject = .key key → g.lookup key = none →
      ∀ t, R t (.missingKey (Unicode.lower key) g.chain.locales) t) :
    Fails R (subject.evaluate g) := by
  intro p x q eq
  rw [evaluate_apply] at eq
  have keeps := keeps_directive g (p.trail.limit - p.trail.depth)
  have fails := fails_directive admits (p.trail.limit - p.trail.depth)
  cases subject with
  | text s => exact fails_text admits keeps fails s p x q eq
  | template t => exact fails_template keeps fails t p x q eq
  | directive d => exact fails d p x q eq
  | key k => exact fails_resolve admits keeps fails k (missing k rfl) p x q eq

end Eval

end Figment
