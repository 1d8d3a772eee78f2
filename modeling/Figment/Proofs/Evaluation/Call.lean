import Figment.Proofs.Evaluation.Shallow
import Mathlib.Tactic.Choose
/-!
What the call of a directive comes to.

Once the arguments of a directive are known, its generator either needs the value at a key of the
data, which has to be evaluated in turn, or answers by itself. `Eval.call` makes this decision before
anything is evaluated, and the evaluator is shown to abide by it. A generator that answers by itself
only draws: it neither looks at the trail nor moves on it.
-/

namespace Figment.Eval

inductive Call where
  | key (key : String)
  | answer (e : Eval String)

namespace Call

def refuse (e : Failure) : Call :=
  .answer (throw e)

/-- The call of a method that stands for a key and takes no arguments. -/
def ofKey (name : String) (args : List String) (key : String) : Call :=
  if args.length = 0 then .key key else refuse (.wrongCount name (toString 0) args.length)

def run (g : Generator) (directive : Directive → Eval String) : Call → Eval String
  | key k => resolve g directive k
  | answer e => e

end Call

def categoryCall (g : Generator) (category method : String) (args : List String) : Call :=
  let key := category ++ "." ++ method
  if g.hasKey key then .ofKey key args key else .refuse (.unknownMethod category method)

def footballCall (g : Generator) (method : String) (args : List String) : Call :=
  if method = "team" ∨ method = "teams" then .ofKey method args teamsKey
  else if method = "league" ∨ method = "leagues" then .ofKey method args leaguesKey
  else categoryCall g footballCategory method args

def methodCall (g : Generator) (p : Provider) (method : String) (args : List String) : Call :=
  match p with
  | .football => footballCall g method args
  | .numbers => .answer (numbersMethod method args)
  | .category name => categoryCall g name method args

def call (g : Generator) (t : Trail) (d : Directive) (args : List String) : Call :=
  match d with
  | .builtin name _ =>
    match siblingKey? g t name args with
    | some key => .key key
    | none => .answer (draw (Builtin.call name args))
  | .provider p m _ =>
    match g.registry.get p with
    | .ok p => methodCall g p (Name.snake m) args
    | .error e => .refuse e

variable {g : Generator} {directive : Directive → Eval String}

theorem run_ofKey (name : String) (args : List String) (key : String) :
    (Call.ofKey name args key).run g directive =
      (do expectCount name args 0; resolve g directive key) := by
  unfold Call.ofKey expectCount
  split
  · rfl
  · rfl

theorem run_categoryCall (category method : String) (args : List String) :
    (categoryCall g category method args).run g directive =
      categoryMethod g directive category method args := by
  unfold categoryCall categoryMethod
  dsimp only
  split
  · exact run_ofKey _ args _
  · rfl

theorem run_methodCall (p : Provider) (name : String) (args : List String) :
    (methodCall g p name args).run g directive = method g directive p name args := by
  cases p with
  | football =>
    unfold methodCall method footballCall footballMethod
    dsimp only
    split
    · exact run_ofKey name args teamsKey
    · split
      · exact run_ofKey name args leaguesKey
      · exact run_categoryCall footballCategory name args
  | numbers => rfl
  | category c => exact run_categoryCall c name args

theorem run_call (d : Directive) (args : List String) (p : Progress) :
    (call g p.trail d args).run g directive p = raw g directive d args p := by
  cases d with
  | builtin name _ =>
    change _ = (match siblingKey? g p.trail name args with
      | some key => resolve g directive key
      | none => draw (Builtin.call name args)) p
    unfold call
    dsimp only
    cases siblingKey? g p.trail name args with
    | none => rfl
    | some key => rfl
  | provider name m _ =>
    unfold call raw
    dsimp only
    cases g.registry.get name with
    | ok q => exact congrFun (run_methodCall q (Name.snake m) args) p
    | error e => rfl

section Still

variable {α β : Type}

/-- An evaluation that changes nothing but the source, and does not fail for its depth. -/
structure Still (e : Eval α) : Prop where
  source : ∀ p, ∃ source, (e p).2 = { p with source }
  shallow : ∀ {p x q}, e p = (.error x, q) → ¬ x.IsTooDeep

theorem Still.eq_with_source {e : Eval α} (h : Still e) {p q : Progress} {r : Except Failure α}
    (eq : e p = (r, q)) : ∃ source, q = { p with source } := by
  obtain ⟨source, same⟩ := h.source p
  exact ⟨source, by rw [← same, eq]⟩

theorem still_pure (a : α) : Still (pure a) where
  source p := ⟨p.source, rfl⟩
  shallow h := by cases h

theorem still_throw {x : Failure} (h : ¬ x.IsTooDeep) : Still (throw x : Eval α) where
  source p := ⟨p.source, rfl⟩
  shallow eq := by
    cases eq
    exact h

theorem draw_apply (d : ExceptT Failure Draw α) (p : Progress) :
    draw d p = ((d p.source).1, { p with source := (d p.source).2 }) := rfl

theorem still_draw {d : ExceptT Failure Draw α} (h : Draw.Shallow d) : Still (draw d) where
  source p := ⟨(d p.source).2, rfl⟩
  shallow {p x q} eq := by
    rw [draw_apply] at eq
    exact h p.source x (d p.source).2 (Prod.ext (Prod.mk.inj eq).1 rfl)

/-- An evaluation that is nothing but a draw, and does not fail for its depth. -/
def Drawn (e : Eval α) : Prop :=
  ∃ d, Draw.Shallow d ∧ e = draw d

theorem Drawn.still {e : Eval α} (h : Drawn e) : Still e := by
  obtain ⟨d, shallow, rfl⟩ := h
  exact still_draw shallow

/-- An evaluation that is nothing but a draw, and fails only with a refusal. -/
def Answered (e : Eval α) : Prop :=
  ∃ d, Draw.FailsOnly Refusal d ∧ e = draw d

theorem Answered.drawn {e : Eval α} (h : Answered e) : Drawn e := by
  obtain ⟨d, refusal, rfl⟩ := h
  exact ⟨d, refusal.mono fun _ => Refusal.not_isTooDeep, rfl⟩

theorem answered_draw {d : ExceptT Failure Draw α} (h : Draw.FailsOnly Refusal d) :
    Answered (draw d) :=
  ⟨d, h, rfl⟩

theorem answered_pure (a : α) : Answered (pure a) :=
  answered_draw (Draw.failsOnly_pure a)

theorem answered_throw {x : Failure} (h : Refusal x) : Answered (throw x : Eval α) :=
  answered_draw (Draw.failsOnly_throw h)

theorem draw_bind (d : ExceptT Failure Draw α) (f : α → ExceptT Failure Draw β) :
    draw (d >>= f) = draw d >>= fun a => draw (f a) := by
  funext p
  rcases first : d p.source with ⟨e | a, after⟩
  · rw [draw_apply, bind_of_error first, bind_of_error (by rw [draw_apply, first])]
  · rw [draw_apply, bind_of_ok first, bind_of_ok (by rw [draw_apply, first]), draw_apply]

theorem Answered.bind {e : Eval α} {f : α → Eval β} (h : Answered e)
    (hf : ∀ a, Answered (f a)) : Answered (e >>= f) := by
  obtain ⟨d, refusal, rfl⟩ := h
  choose next later same using hf
  refine ⟨d >>= next, refusal.bind later, ?_⟩
  rw [draw_bind, funext same]

end Still

theorem answered_expectCount (name : String) (args : List String) (expected : Nat) :
    Answered (expectCount name args expected) := by
  unfold expectCount
  split
  · exact answered_pure ()
  · exact answered_throw (.wrongCount name _ _)

theorem answered_signedArgument (value : String) :
    Answered (signedArgument "number_between" value) := by
  have refused := answered_throw (α := Int) (.notANumber value (.inl rfl))
  unfold signedArgument
  split
  · split
    · exact answered_pure _
    · exact refused
  · exact refused

theorem answered_countArgument (value : String) : Answered (countArgument "digits" value) := by
  have refused := answered_throw (α := Nat) (.notANumber value (.inr rfl))
  unfold countArgument
  split
  · split
    · exact refused
    · exact answered_pure _
  · exact refused

theorem refusal_digits (count : Nat) : Draw.FailsOnly Refusal (digits count) := by
  unfold digits
  split
  · exact Draw.failsOnly_throw (.tooManyDigits count)
  · exact (Draw.failsOnly_lift _).bind fun _ => Draw.failsOnly_pure _

theorem answered_numbersMethod (name : String) (args : List String) :
    Answered (numbersMethod name args) := by
  have shown {α : Type} [ToString α] {d : ExceptT Failure Draw α}
      (h : Draw.FailsOnly Refusal d) : Answered (do return toString (← draw d)) :=
    (answered_draw h).bind fun _ => answered_pure _
  unfold numbersMethod
  split
  · next h =>
    subst h
    refine (answered_expectCount _ args 2).bind fun _ => ?_
    refine (answered_signedArgument _).bind fun least => ?_
    refine (answered_signedArgument _).bind fun limit => ?_
    exact shown (Draw.refusal_between least limit)
  · split
    · refine (answered_expectCount name args 0).bind fun _ => ?_
      exact shown (Draw.refusal_number (by decide))
    · split
      · refine (answered_expectCount name args 0).bind fun _ => ?_
        refine (answered_draw (Draw.refusal_number (by decide))).bind fun _ => ?_
        exact answered_pure _
      · split
        · next h =>
          subst h
          refine (answered_expectCount _ args 1).bind fun _ => ?_
          refine (answered_countArgument _).bind fun count => ?_
          exact answered_draw (refusal_digits count)
        · exact answered_throw (.unknownMethod "number" name)

/-- A key that a call needs has values, or is one of the two that are named in a method. -/
def Call.Sought (g : Generator) (key : String) : Prop :=
  g.hasKey key = true ∨ key = teamsKey ∨ key = leaguesKey

/-- A call needs the value at a key, or gives an answer by itself. -/
def Call.Answers (g : Generator) : Call → Prop
  | key k => Sought g k
  | answer e => Answered e

theorem Call.answers_refuse (g : Generator) {e : Failure} (h : Refusal e) : (refuse e).Answers g :=
  answered_throw h

theorem Call.answers_ofKey {g : Generator} (name : String) (args : List String) {key : String}
    (h : Sought g key) : (ofKey name args key).Answers g := by
  unfold ofKey
  split
  · exact h
  · exact answers_refuse g (.wrongCount name _ _)

theorem answers_categoryCall (g : Generator) (category name : String) (args : List String) :
    (categoryCall g category name args).Answers g := by
  unfold categoryCall
  dsimp only
  split
  · next known => exact Call.answers_ofKey _ args (.inl known)
  · exact Call.answers_refuse g (.unknownMethod category name)

theorem answers_methodCall (g : Generator) (p : Provider) (name : String) (args : List String) :
    (methodCall g p name args).Answers g := by
  cases p with
  | football =>
    unfold methodCall footballCall
    dsimp only
    split
    · exact Call.answers_ofKey name args (.inr (.inl rfl))
    · split
      · exact Call.answers_ofKey name args (.inr (.inr rfl))
      · exact answers_categoryCall g footballCategory name args
  | numbers => exact answered_numbersMethod name args
  | category c => exact answers_categoryCall g c name args

theorem hasKey_of_siblingKey? {g : Generator} {t : Trail} {name key : String} {args : List String}
    (h : siblingKey? g t name args = some key) : g.hasKey key = true := by
  unfold siblingKey? at h
  split at h
  · cases h
  · split at h
    · cases h
    · dsimp only at h
      split at h
      · next known =>
        cases h
        exact known
      · cases h

theorem answers_call (g : Generator) (t : Trail) (d : Directive) (args : List String) :
    (call g t d args).Answers g := by
  unfold call
  split
  · split
    · next sibling => exact .inl (hasKey_of_siblingKey? sibling)
    · exact answered_draw (Builtin.refusal_call _ args)
  · split
    · exact answers_methodCall g _ _ args
    · next missing =>
      refine Call.answers_refuse g ?_
      unfold Registry.get at missing
      split at missing
      · cases missing
      · cases missing
        exact .unknownProvider _ _

/-- Whatever a call answers by itself is drawn. -/
def Call.Draws : Call → Prop
  | key _ => True
  | answer e => Drawn e

theorem draws_call (g : Generator) (t : Trail) (d : Directive) (args : List String) :
    (call g t d args).Draws := by
  have answers := answers_call g t d args
  cases called : call g t d args with
  | key k => trivial
  | answer e =>
    rw [called] at answers
    exact Answered.drawn answers

def Call.Plain : Call → Prop
  | key _ => True
  | answer e => Still e

theorem plain_call (g : Generator) (t : Trail) (d : Directive) (args : List String) :
    (call g t d args).Plain := by
  have draws := draws_call g t d args
  cases called : call g t d args with
  | key k => trivial
  | answer e =>
    rw [called] at draws
    exact Drawn.still draws

end Figment.Eval
