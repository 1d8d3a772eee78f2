import Figment.Proofs.Evaluation.Termination
/-!
An evaluation that succeeds closes what it has opened.

Directives are opened in one function and categories in another, and the two call each other through
arguments, values and outputs that are evaluated again. Each of them closes behind itself, whatever
was evaluated in between. Nothing is asked of the trail at the start: even more directives may be
open on it than its limit allows.
-/

namespace Figment.Eval

variable {α β : Type}

/-- Success leaves the trail as it was. -/
def Keeps (e : Eval α) : Prop :=
  ∀ p a q, e p = (.ok a, q) → q.trail = p.trail

theorem keeps_of_still {e : Eval α} (h : Still e) : Keeps e := by
  intro p a q eq
  obtain ⟨source, rfl⟩ := h.eq_with_source eq
  rfl

theorem Keeps.bind {e : Eval α} {f : α → Eval β} (h : Keeps e) (hf : ∀ a, Keeps (f a)) :
    Keeps (e >>= f) := by
  intro p b q eq
  obtain ⟨a, middle, first, second⟩ := bind_eq_ok eq
  have before : middle.trail = p.trail := h p a middle first
  have after : q.trail = middle.trail := hf a middle b q second
  rw [after, before]

/-- What is opened in front of an evaluation and closed behind it is gone in the end. -/
theorem Keeps.enclosed {e : Eval α} {start : Eval Unit} {close : Trail → Trail} (inner : Keeps e)
    (back : ∀ p q, start p = (.ok (), q) → close q.trail = p.trail) :
    Keeps (do start; let a ← e; move close; return a) := by
  intro p a r eq
  obtain ⟨_, q, opening, eq⟩ := bind_eq_ok eq
  obtain ⟨b, middle, evaluated, closing⟩ := bind_eq_ok eq
  have inside : middle.trail = q.trail := inner q b middle evaluated
  cases closing
  change close middle.trail = p.trail
  rw [inside]
  exact back p q opening

theorem keeps_mapM {f : α → Eval β} (hf : ∀ a, Keeps (f a)) (as : List α) : Keeps (as.mapM f) := by
  induction as with
  | nil => exact keeps_of_still (still_pure [])
  | cons a as ih =>
    rw [List.mapM_cons]
    refine (hf a).bind fun b => ?_
    exact ih.bind fun bs => keeps_of_still (still_pure (b :: bs))

theorem pop_of_push {p q : Progress} {label : String} (h : push label p = (.ok (), q)) :
    q.trail.pop = p.trail := by
  by_cases below : p.trail.depth < p.trail.limit
  · rw [push_of_lt label below] at h
    cases h
    rfl
  · rw [push_of_le label (Nat.not_lt.1 below)] at h
    cases h

section Nested

variable {g : Generator} {directive : Directive → Eval String} (hd : ∀ d, Keeps (directive d))
include hd

theorem keeps_template (t : Template) : Keeps (template directive t) := by
  rw [template_eq]
  refine (keeps_mapM (fun s => ?_) t).bind fun outputs => keeps_of_still (still_pure _)
  cases s with
  | literal text => exact keeps_of_still (still_pure text)
  | directive d => exact hd d

theorem keeps_arguments (args : List Argument) : Keeps (arguments directive args) := by
  rw [arguments_eq]
  refine keeps_mapM (fun a => ?_) args
  cases a with
  | literal text => exact keeps_of_still (still_pure text)
  | nested d => exact hd d

theorem keeps_text (s : String) : Keeps (text directive s) := by
  unfold text
  split
  · split
    · exact keeps_template hd _
    · exact keeps_of_still (still_throw nofun)
  · exact keeps_of_still (still_pure s)

theorem keeps_resolve (key : String) : Keeps (resolve g directive key) := by
  unfold resolve
  dsimp only
  split
  · exact keeps_of_still (still_throw nofun)
  · next values _ =>
    refine (keeps_of_still (still_draw (Draw.shallow_pick values))).bind fun picked => ?_
    refine (keeps_text hd picked).enclosed fun p q opening => ?_
    cases opening
    exact Trail.leave_enter p.trail _

theorem keeps_raw (d : Directive) (args : List String) : Keeps (raw g directive d args) := by
  intro p s q eq
  have plain := plain_call g p.trail d args
  rw [← run_call d args p] at eq
  cases called : call g p.trail d args with
  | key k =>
    rw [called] at eq
    exact keeps_resolve hd k p s q eq
  | answer e =>
    rw [called] at eq plain
    exact keeps_of_still plain p s q eq

end Nested

theorem keeps_directive (g : Generator) (levels : Nat) (d : Directive) :
    Keeps (directive g levels d) := by
  -- All directives inside of an open one find one level less.
  induction levels generalizing d with
  | zero =>
    intro p s q eq
    rw [directive_zero] at eq
    cases eq
  | succ levels ih =>
    have evaluated : Keeps (body g levels d) := by
      refine (keeps_arguments ih d.args).bind fun args => ?_
      exact (keeps_raw ih d args).bind fun raw => keeps_text ih raw
    rw [directive_succ]
    exact evaluated.enclosed fun p q opening => pop_of_push opening

theorem keeps_output (g : Generator) (levels : Nat) (subject : Subject) :
    Keeps (subject.output g (directive g levels)) := by
  have hd := keeps_directive g levels
  cases subject with
  | text s => exact keeps_text hd s
  | template t => exact keeps_template hd t
  | directive d => exact hd d
  | key k => exact keeps_resolve hd k

/-- Whatever is evaluated with success on whatever trail, the open directives, the open categories
and the limit are the same afterwards. -/
theorem evaluation_keeps_trail (g : Generator) (subject : Subject) (p q : Progress) (s : String)
    (h : subject.evaluate g p = (.ok s, q)) : q.trail = p.trail := by
  rw [evaluate_apply] at h
  exact keeps_output g _ subject p s q h

/-- Data with one category, in which one value names the other. -/
def petGenerator : Generator where
  chain := ⟨["en"]⟩
  maxDepth := 3
  store := ⟨[("en", .table [
    ("pet", .table [("kind", .text "cat"), ("line", .text "a #\x7bkind\x7d")])])]⟩
  registry := .empty
  instances := .empty

/-- A value with a bare name in it, evaluated while a value of another category is. -/
theorem evaluation_keeps_trail_sibling :
    ∃ q, (Subject.key "pet.line").evaluate petGenerator
        ⟨⟨["Name.name"], ["name"], 3⟩, Source.scripted [], 1⟩ = (.ok "a cat", q) ∧
      q.trail = ⟨["Name.name"], ["name"], 3⟩ := by
  have output : ((Subject.key "pet.line").evaluate petGenerator
      ⟨⟨["Name.name"], ["name"], 3⟩, Source.scripted [], 1⟩).1 = .ok "a cat" := by
    decide +kernel
  obtain ⟨q, done⟩ : ∃ q, (Subject.key "pet.line").evaluate petGenerator
      ⟨⟨["Name.name"], ["name"], 3⟩, Source.scripted [], 1⟩ = (.ok "a cat", q) :=
    ⟨_, Prod.ext output rfl⟩
  exact ⟨q, done, evaluation_keeps_trail petGenerator (.key "pet.line") _ q "a cat" done⟩

end Figment.Eval
