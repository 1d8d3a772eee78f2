import Figment.Evaluation
/-!
Computations that may fail, part by part, and what a draw fails with.

`Refusal` lists what the call of a generator is refused for. No builtin and no choice is ever refused
because too many directives are open: only the opening of a directive is.
-/

namespace Figment

section Sequencing

variable {σ α β : Type} {d : ExceptT Failure (StateM σ) α} {f : α → ExceptT Failure (StateM σ) β}

theorem bind_of_ok {a : α} {s t : σ} (h : d s = (.ok a, t)) : (d >>= f) s = f a t := by
  change (ExceptT.bindCont f (d s).1) (d s).2 = _
  rw [h]
  rfl

theorem bind_of_error {e : Failure} {s t : σ} (h : d s = (.error e, t)) :
    (d >>= f) s = (.error e, t) := by
  change (ExceptT.bindCont f (d s).1) (d s).2 = _
  rw [h]
  rfl

theorem bind_congr_of_eq {d' : ExceptT Failure (StateM σ) α} {s : σ} (h : d s = d' s) :
    (d >>= f) s = (d' >>= f) s := by
  change (ExceptT.bindCont f (d s).1) (d s).2 = (ExceptT.bindCont f (d' s).1) (d' s).2
  rw [h]

/-- A failure of a sequence is one of its parts. -/
theorem bind_eq_error {e : Failure} {s t : σ} (h : (d >>= f) s = (.error e, t)) :
    d s = (.error e, t) ∨ ∃ a middle, d s = (.ok a, middle) ∧ f a middle = (.error e, t) := by
  rcases first : d s with ⟨x | a, middle⟩
  · rw [bind_of_error first] at h
    cases h
    exact .inl rfl
  · rw [bind_of_ok first] at h
    exact .inr ⟨a, middle, rfl, h⟩

theorem bind_eq_ok {b : β} {s t : σ} (h : (d >>= f) s = (.ok b, t)) :
    ∃ a middle, d s = (.ok a, middle) ∧ f a middle = (.ok b, t) := by
  rcases first : d s with ⟨x | a, middle⟩
  · rw [bind_of_error first] at h
    cases h
  · rw [bind_of_ok first] at h
    exact ⟨a, middle, rfl, h⟩

end Sequencing

theorem mapM_map {m : Type → Type} [Monad m] [LawfulMonad m] {α β γ : Type} (f : α → m β) (h : β → γ)
    (as : List α) : as.mapM (fun a => h <$> f a) = List.map h <$> as.mapM f := by
  induction as with
  | nil => simp
  | cons a as ih => simp [List.mapM_cons, ih]

def Failure.IsTooDeep (e : Failure) : Prop :=
  ∃ limit labels, e = .tooDeep limit labels

/-- A draw that never fails for its depth. -/
def Draw.Shallow {α : Type} (d : ExceptT Failure Draw α) : Prop :=
  ∀ source e after, d source = (.error e, after) → ¬ e.IsTooDeep

/-- All failures of the draw are of a kind. -/
def Draw.FailsOnly {α : Type} (P : Failure → Prop) (d : ExceptT Failure Draw α) : Prop :=
  ∀ source e after, d source = (.error e, after) → P e

namespace Draw

variable {α β : Type} {P : Failure → Prop}

theorem failsOnly_lift (d : Draw α) : FailsOnly P (d : ExceptT Failure Draw α) := by
  intro source e after h
  cases h

theorem failsOnly_pure (a : α) : FailsOnly P (pure a) := by
  intro source e after h
  cases h

theorem failsOnly_throw {x : Failure} (h : P x) :
    FailsOnly P (throw x : ExceptT Failure Draw α) := by
  intro source e after eq
  cases eq
  exact h

theorem failsOnly_except {r : Except Failure α} (h : ∀ e, r = .error e → P e) :
    FailsOnly P (r : ExceptT Failure Draw α) := by
  intro source e after eq
  cases r with
  | ok a => cases eq
  | error cause =>
    cases eq
    exact h e rfl

theorem FailsOnly.bind {d : ExceptT Failure Draw α} {f : α → ExceptT Failure Draw β}
    (h : FailsOnly P d) (hf : ∀ a, FailsOnly P (f a)) : FailsOnly P (d >>= f) := by
  intro source e after eq
  rcases bind_eq_error eq with first | ⟨a, middle, _, second⟩
  · exact h source e after first
  · exact hf a middle e after second

theorem FailsOnly.mono {Q : Failure → Prop} {d : ExceptT Failure Draw α} (h : FailsOnly P d)
    (imp : ∀ e, P e → Q e) : FailsOnly Q d := by
  intro source e after eq
  exact imp e (h source e after eq)

theorem shallow_pick (items : List String) : Shallow (pick items) := by
  have number (bound : Nat) : FailsOnly (¬ ·.IsTooDeep) (number bound) := by
    unfold Draw.number
    split
    · exact failsOnly_throw nofun
    · exact failsOnly_lift _
  unfold pick
  split
  · exact failsOnly_throw (P := (¬ ·.IsTooDeep)) nofun
  · refine (number _).bind fun i => ?_
    split
    · exact failsOnly_pure _
    · exact failsOnly_throw nofun

end Draw

/-- What the call of a generator is refused for. -/
inductive Refusal : Failure → Prop
  | unknownBuiltin (name : String) (suggestions : List String) :
      Refusal (.unknownBuiltin name suggestions)
  | unknownProvider (name : String) (suggestions : List String) :
      Refusal (.unknownProvider name suggestions)
  | unknownMethod (provider method : String) : Refusal (.unknownMethod provider method)
  | wrongCount (directive expected : String) (got : Nat) :
      Refusal (.wrongCount directive expected got)
  | badPattern (pattern : String) (reason : SyntaxError) : Refusal (.badPattern pattern reason)
  | flag {value : String} {e : Failure} : Builtin.flag value = .error e → Refusal e
  | placeholder {value : String} {e : Failure} : Builtin.placeholder value = .error e → Refusal e
  | noOptions (c : Char) : Refusal (.noOptions c)
  | notANumber {name : String} (value : String) :
      name = "number_between" ∨ name = "digits" → Refusal (Eval.notANumber name value)
  | emptyRange (least limit : Int) : Refusal (.badArgument s!"empty range {least}..{limit}")
  | tooManyDigits (count : Nat) :
      Refusal (.badArgument s!"digits: count {count} exceeds the maximum of {Eval.maxDigits}")

theorem Builtin.eq_badArgument_of_flag {value : String} {e : Failure}
    (h : flag value = .error e) :
    e = .badArgument s!"expected 'true' or 'false', got '{value}'" := by
  simp only [flag] at h
  split at h
  · cases h
  · split at h
    · cases h
    · cases h
      rfl

theorem Builtin.eq_badArgument_of_placeholder {value : String} {e : Failure}
    (h : placeholder value = .error e) :
    e = .badArgument s!"placeholder must be a single character, got '{value}'" := by
  unfold placeholder at h
  split at h
  · cases h
  · cases h
    rfl

theorem Refusal.not_isTooDeep {e : Failure} (h : Refusal e) : ¬ e.IsTooDeep := by
  cases h with
  | flag h =>
    rw [Builtin.eq_badArgument_of_flag h]
    exact nofun
  | placeholder h =>
    rw [Builtin.eq_badArgument_of_placeholder h]
    exact nofun
  | _ => exact nofun

namespace Draw

theorem refusal_between (least limit : Int) : FailsOnly Refusal (between least limit) := by
  unfold between
  split
  · exact failsOnly_throw (.emptyRange least limit)
  · exact (failsOnly_lift _).bind fun _ => failsOnly_pure _

theorem refusal_number {bound : Nat} (h : bound ≠ 0) : FailsOnly Refusal (number bound) := by
  unfold number
  rw [if_neg h]
  exact failsOnly_lift _

end Draw

namespace Builtin

open Draw

theorem refusal_of_flag? {args : List String} {e : Failure} (h : flag? args = .error e) :
    Refusal e := by
  cases args with
  | nil => cases h
  | cons value more =>
    rw [flag?] at h
    cases known : flag value with
    | ok upper =>
      rw [known] at h
      cases h
    | error cause =>
      rw [known] at h
      cases h
      exact .flag known

theorem refusal_run (b : Builtin) (first : String) (more : List String) :
    FailsOnly Refusal (b.run first more) := by
  have flagged {next : Option Bool → Draw (List Char)} : FailsOnly Refusal
      (do let upper ← (flag? more : Except Failure (Option Bool)); (next upper : Draw _)) :=
    (failsOnly_except fun _ => refusal_of_flag?).bind fun _ => failsOnly_lift _
  cases b with
  | numerify => exact failsOnly_lift _
  | examplify => exact failsOnly_lift _
  | letterify => exact flagged
  | bothify => exact flagged
  | regexify =>
    change FailsOnly Refusal (Pattern.regexify first)
    unfold Pattern.regexify
    split
    · exact failsOnly_throw (.badPattern first _)
    · exact failsOnly_lift _
  | templatify =>
    refine (failsOnly_except fun _ h => .placeholder h).bind fun c => ?_
    unfold Placeholder.templatify
    split
    · exact failsOnly_throw (.noOptions c)
    · exact failsOnly_lift _

theorem refusal_call (name : String) (args : List String) :
    FailsOnly Refusal (call name args) := by
  have refuse (b : Builtin) : FailsOnly Refusal (call.refuse args b) :=
    failsOnly_throw (.wrongCount _ _ _)
  unfold call
  split
  · exact failsOnly_throw (.unknownBuiltin name _)
  · next b _ =>
    split
    · next first more =>
      split
      · exact (refusal_run b first more).bind fun _ => failsOnly_pure _
      · exact refuse b
    · exact refuse b

end Builtin

end Figment
