import Figment.Proofs.Evaluation.Call
import Figment.Proofs.Random.Outcomes
/-!
Refusals cost no randomness.

The choices, the builtins and the methods for numbers check all that they are given before they draw
anything. So whether they fail, and with what, does not depend on the source, and a failure leaves the
source as it was: what is generated after it is what would have been generated without it.
-/

namespace Figment

section Checks

variable {σ α β : Type} {d : ExceptT Failure (StateM σ) α} {f : α → ExceptT Failure (StateM σ) β}

/-- The computation fails before it does anything, if it fails: a failure leaves the state as it was, and
is the same from every state. -/
def FailsFirst (d : ExceptT Failure (StateM σ) α) : Prop :=
  ∀ s e t, d s = (.error e, t) → t = s ∧ ∀ s', d s' = (.error e, s')

/-- The computation does not fail. -/
def Certain (d : ExceptT Failure (StateM σ) α) : Prop :=
  ∀ s e t, d s ≠ (.error e, t)

/-- The computation has one outcome, whatever the state, which it leaves as it is. -/
def IsCheck (d : ExceptT Failure (StateM σ) α) : Prop :=
  ∃ r, ∀ s, d s = (r, s)

theorem certain_pure (a : α) : Certain (pure a : ExceptT Failure (StateM σ) α) :=
  fun _ _ _ => nofun

theorem certain_lift (d : StateM σ α) : Certain (d : ExceptT Failure (StateM σ) α) :=
  fun _ _ _ => nofun

theorem Certain.bind (h : Certain d) (hf : ∀ a, Certain (f a)) : Certain (d >>= f) := by
  intro s e t failed
  rcases bind_eq_error failed with first | ⟨a, middle, _, second⟩
  · exact h s e t first
  · exact hf a middle e t second

theorem Certain.failsFirst (h : Certain d) : FailsFirst d :=
  fun s e t failed => absurd failed (h s e t)

theorem isCheck_pure (a : α) : IsCheck (pure a : ExceptT Failure (StateM σ) α) :=
  ⟨.ok a, fun _ => rfl⟩

theorem isCheck_throw (e : Failure) : IsCheck (throw e : ExceptT Failure (StateM σ) α) :=
  ⟨.error e, fun _ => rfl⟩

theorem isCheck_except (r : Except Failure α) : IsCheck (r : ExceptT Failure (StateM σ) α) := by
  cases r with
  | ok a => exact isCheck_pure a
  | error e => exact isCheck_throw e

theorem IsCheck.failsFirst (h : IsCheck d) : FailsFirst d := by
  obtain ⟨r, outcome⟩ := h
  intro s e t failed
  obtain ⟨rfl, rfl⟩ := Prod.mk.inj ((outcome s).symm.trans failed)
  exact ⟨rfl, outcome⟩

theorem failsFirst_throw (e : Failure) : FailsFirst (throw e : ExceptT Failure (StateM σ) α) :=
  (isCheck_throw e).failsFirst

/-- What comes behind a check may fail as well. -/
theorem IsCheck.bind (h : IsCheck d) (hf : ∀ a, FailsFirst (f a)) : FailsFirst (d >>= f) := by
  obtain ⟨r, outcome⟩ := h
  cases r with
  | error e =>
    have failed (s : σ) : (d >>= f) s = (.error e, s) := bind_of_error (outcome s)
    exact IsCheck.failsFirst ⟨.error e, failed⟩
  | ok a =>
    have same : d >>= f = f a := funext fun s => bind_of_ok (outcome s)
    rw [same]
    exact hf a

/-- What comes behind a draw must not fail on any value that can be drawn. -/
theorem FailsFirst.bind (h : FailsFirst d) (hf : ∀ a s t, d s = (.ok a, t) → Certain (f a)) :
    FailsFirst (d >>= f) := by
  intro s e t failed
  rcases bind_eq_error failed with first | ⟨a, middle, first, second⟩
  · obtain ⟨same, others⟩ := h s e t first
    exact ⟨same, fun s' => bind_of_error (others s')⟩
  · exact absurd second (hf a s middle first middle e t)

theorem FailsFirst.map (h : FailsFirst d) (g : α → β) : FailsFirst (g <$> d) := by
  rw [map_eq_pure_bind]
  exact h.bind fun a _ _ _ => certain_pure (g a)

end Checks

namespace Draw

theorem failsFirst_number (bound : Nat) : FailsFirst (number bound) := by
  unfold number
  split
  · exact failsFirst_throw _
  · exact (certain_lift _).failsFirst

theorem failsFirst_between (least limit : Int) : FailsFirst (between least limit) := by
  unfold between
  split
  · exact failsFirst_throw _
  · exact ((certain_lift _).bind fun n => certain_pure _).failsFirst

/-- The number that is drawn is that of a member, so that the draw cannot fail after it. -/
theorem failsFirst_pick (items : List String) : FailsFirst (pick items) := by
  unfold pick
  split
  · exact failsFirst_throw _
  · next ne =>
    refine (failsFirst_number _).bind fun i s t drawn => ?_
    have few : i < items.length := by
      have pos := List.length_pos_iff.2 ne
      rw [number, if_neg pos.ne'] at drawn
      have value : (below items.length s).1 = i := Except.ok.inj (Prod.mk.inj drawn).1
      exact value ▸ always_below pos s
    rw [List.getElem?_eq_getElem few]
    exact certain_pure _

theorem failsFirst_chance (p : Binary64) : FailsFirst (chance p) := by
  unfold chance
  split
  · split
    · exact failsFirst_throw _
    · split
      · exact (certain_pure _).failsFirst
      · exact ((certain_lift _).bind fun n => certain_pure _).failsFirst
  · exact failsFirst_throw _

end Draw

theorem Pattern.failsFirst_regexify (text : String) : FailsFirst (regexify text) := by
  unfold regexify
  split
  · exact failsFirst_throw _
  · exact (certain_lift _).failsFirst

theorem Placeholder.failsFirst_templatify (placeholder : Char) (options : List String)
    (template : List Char) : FailsFirst (templatify placeholder options template) := by
  unfold templatify
  split
  · exact failsFirst_throw _
  · exact (certain_lift _).failsFirst

namespace Builtin

theorem failsFirst_run (b : Builtin) (first : String) (more : List String) :
    FailsFirst (b.run first more) := by
  have flagged (next : Option Bool → Draw (List Char)) : FailsFirst (do
      let upper ← (flag? more : Except Failure (Option Bool))
      (next upper : Draw (List Char)) : ExceptT Failure Draw (List Char)) :=
    (isCheck_except _).bind fun upper => (certain_lift _).failsFirst
  cases b with
  | numerify => exact (certain_lift _).failsFirst
  | examplify => exact (certain_lift _).failsFirst
  | letterify => exact flagged _
  | bothify => exact flagged _
  | regexify => exact Pattern.failsFirst_regexify first
  | templatify =>
    exact (isCheck_except _).bind fun c => Placeholder.failsFirst_templatify c more.tail first.toList

theorem failsFirst_call (name : String) (args : List String) : FailsFirst (call name args) := by
  unfold call
  split
  · exact failsFirst_throw _
  · next b _ =>
    split
    · next first more =>
      split
      · exact (failsFirst_run b first more).map String.ofList
      · exact failsFirst_throw _
    · exact failsFirst_throw _

end Builtin

namespace Eval

variable {α : Type}

theorem failsFirst_draw {d : ExceptT Failure Draw α} (h : FailsFirst d) : FailsFirst (draw d) := by
  intro p e q failed
  rw [draw_apply] at failed
  obtain ⟨outcome, rfl⟩ := Prod.mk.inj failed
  obtain ⟨same, others⟩ := h p.source e _ (Prod.ext outcome rfl)
  refine ⟨congrArg (fun source => { p with source }) same, fun p' => ?_⟩
  rw [draw_apply, others]

theorem failsFirst_digits (count : Nat) : FailsFirst (digits count) := by
  unfold digits
  split
  · exact failsFirst_throw _
  · exact ((certain_lift _).bind fun ds => certain_pure _).failsFirst

theorem isCheck_expectCount (name : String) (args : List String) (expected : Nat) :
    IsCheck (expectCount name args expected) := by
  unfold expectCount
  split
  · exact isCheck_pure ()
  · exact isCheck_throw _

theorem isCheck_signedArgument (name value : String) : IsCheck (signedArgument name value) := by
  unfold signedArgument
  split
  · split
    · exact isCheck_pure _
    · exact isCheck_throw _
  · exact isCheck_throw _

theorem isCheck_countArgument (name value : String) : IsCheck (countArgument name value) := by
  unfold countArgument
  split
  · split
    · exact isCheck_throw _
    · exact isCheck_pure _
  · exact isCheck_throw _

theorem failsFirst_numbersMethod (name : String) (args : List String) :
    FailsFirst (numbersMethod name args) := by
  have shown {α : Type} [ToString α] {d : ExceptT Failure Draw α} (h : FailsFirst d) (f : α → String) :
      FailsFirst (do return f (← draw d)) :=
    (failsFirst_draw h).bind fun a _ _ _ => certain_pure _
  unfold numbersMethod
  split
  · refine (isCheck_expectCount name args 2).bind fun _ => ?_
    refine (isCheck_signedArgument name _).bind fun least => ?_
    refine (isCheck_signedArgument name _).bind fun limit => ?_
    exact shown (Draw.failsFirst_between least limit) toString
  · split
    · refine (isCheck_expectCount name args 0).bind fun _ => ?_
      exact shown (Draw.failsFirst_number 10) toString
    · split
      · refine (isCheck_expectCount name args 0).bind fun _ => ?_
        exact shown (Draw.failsFirst_number 9) fun n => toString (n + 1)
      · split
        · refine (isCheck_expectCount name args 1).bind fun _ => ?_
          refine (isCheck_countArgument name _).bind fun count => ?_
          exact failsFirst_draw (failsFirst_digits count)
        · exact failsFirst_throw _

end Eval

theorem Generator.failsFirst_fresh (g : Generator) {α : Type} {e : Eval α} (h : FailsFirst e) :
    FailsFirst (g.fresh e) := by
  intro s x t failed
  rw [fresh_apply] at failed
  obtain ⟨outcome, rfl⟩ := Prod.mk.inj failed
  obtain ⟨same, others⟩ := h ⟨g.newTrail, s, 0⟩ x _ (Prod.ext outcome rfl)
  refine ⟨congrArg Progress.source same, fun s' => ?_⟩
  rw [fresh_apply, others]

/-- A failure of a builtin, of a method for numbers, of a choice, of a pattern or of a template leaves
the source as it was, and with it all that an evaluation moves on. It does not depend on the source
either: what fails once fails from every source, with the same failure. -/
theorem failures_draw_nothing :
    (∀ name args, FailsFirst (Builtin.call name args)) ∧
      (∀ name args, FailsFirst (Eval.numbersMethod name args)) ∧
      (∀ (g : Generator) name args, FailsFirst (g.invoke .numbers name args)) ∧
      (∀ count, FailsFirst (Eval.digits count)) ∧
      (∀ bound, FailsFirst (Draw.number bound)) ∧
      (∀ least limit, FailsFirst (Draw.between least limit)) ∧
      (∀ items, FailsFirst (Draw.pick items)) ∧
      (∀ p, FailsFirst (Draw.chance p)) ∧
      (∀ text, FailsFirst (Pattern.regexify text)) ∧
      ∀ placeholder options template, FailsFirst (Placeholder.templatify placeholder options template) :=
  ⟨Builtin.failsFirst_call, Eval.failsFirst_numbersMethod,
    fun g name args => g.failsFirst_fresh (Eval.failsFirst_numbersMethod (Name.snake name) args),
    Eval.failsFirst_digits, Draw.failsFirst_number, Draw.failsFirst_between, Draw.failsFirst_pick,
    Draw.failsFirst_chance, Pattern.failsFirst_regexify, Placeholder.failsFirst_templatify⟩

end Figment
