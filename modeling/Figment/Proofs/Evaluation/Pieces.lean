import Figment.Proofs.Evaluation.Shortcut
/-!
The pieces that an output is put together from.

The evaluator joins the outputs of segments and does not look at what it has joined. Here it is
followed down to texts that are spliced as they are: the literal segments of templates, and outputs
of generators in which no directive is marked. An output of the evaluator is these pieces joined, so
there is a mark in it only where two neighbouring pieces make one.
-/

namespace Figment

namespace Eval

def segmentPieces (directive : Directive → Eval (List String)) : Segment → Eval (List String)
  | .literal text => pure [text]
  | .directive d => directive d

def templatePieces (directive : Directive → Eval (List String)) (t : Template) :
    Eval (List String) := do
  return (← t.mapM (segmentPieces directive)).flatten

def textPieces (directive : Directive → Eval (List String)) (s : String) : Eval (List String) :=
  if Template.hasMark s.toList then
    match Template.read s with
    | .ok t => templatePieces directive t
    | .error e => throw (.badTemplate s e)
  else pure [s]

/-- The pieces of the output of a directive. Arguments and the first output of the generator are not
spliced into anything, so that they are evaluated as before. -/
def directivePieces (g : Generator) : Nat → Directive → Eval (List String)
  | 0, d => do throw ((← trail).refusal d.label)
  | levels + 1, d => do
    push d.label
    let args ← arguments (directive g levels) d.args
    let raw ← raw g (directive g levels) d args
    let pieces ← textPieces (directivePieces g levels) raw
    move (·.pop)
    return pieces

theorem join_flatten (outputs : List (List String)) :
    String.join (outputs.map String.join) = String.join outputs.flatten := by
  induction outputs with
  | nil => rfl
  | cons output outputs ih =>
    rw [List.map_cons, List.flatten_cons, String.join_cons, String.join_append, ih]

section Joined

variable {directive : Directive → Eval String} {pieces : Directive → Eval (List String)}
  (joined : ∀ d, String.join <$> pieces d = directive d)
include joined

theorem join_segmentPieces (s : Segment) :
    String.join <$> segmentPieces pieces s = segment directive s := by
  cases s with
  | literal text => simp [segmentPieces, segment]
  | directive d => exact joined d

theorem join_templatePieces (t : Template) :
    String.join <$> templatePieces pieces t = template directive t := by
  have segments : segment directive = fun s => String.join <$> segmentPieces pieces s := by
    funext s
    exact (join_segmentPieces joined s).symm
  rw [template_eq, segments, mapM_map, templatePieces]
  simp [join_flatten]

theorem join_textPieces (s : String) :
    String.join <$> textPieces pieces s = text directive s := by
  unfold textPieces text
  by_cases mark : Template.hasMark s.toList = true
  · rw [if_pos mark, if_pos mark]
    cases Template.read s with
    | ok t => exact join_templatePieces joined t
    | error e => rfl
  · rw [if_neg mark, if_neg mark]
    simp

end Joined

theorem join_directivePieces (g : Generator) (levels : Nat) (d : Directive) :
    String.join <$> directivePieces g levels d = directive g levels d := by
  induction levels generalizing d with
  | zero => rfl
  | succ levels ih =>
    rw [directivePieces, directive]
    simp [← join_textPieces ih]

def Unmarked (pieces : List String) : Prop :=
  ∀ piece ∈ pieces, Template.hasMark piece.toList = false

/-- All pieces that are handed out are without a mark. -/
def Splices (e : Eval (List String)) : Prop :=
  ∀ p pieces q, e p = (.ok pieces, q) → Unmarked pieces

theorem splices_mapM {α : Type} {f : α → Eval (List String)} {as : List α}
    (hf : ∀ a ∈ as, Splices (f a)) :
    ∀ p outputs q, as.mapM f p = (.ok outputs, q) → ∀ output ∈ outputs, Unmarked output := by
  induction as with
  | nil =>
    intro p outputs q eq output mem
    cases eq
    cases mem
  | cons a as ih =>
    intro p outputs q eq output mem
    rw [List.mapM_cons] at eq
    obtain ⟨first, middle, here, eq⟩ := bind_eq_ok eq
    obtain ⟨more, last, later, eq⟩ := bind_eq_ok eq
    cases eq
    cases mem with
    | head => exact hf a List.mem_cons_self p output middle here
    | tail _ mem =>
      exact ih (fun b hb => hf b (List.mem_cons_of_mem a hb)) middle more q later output mem

section Spliced

variable {pieces : Directive → Eval (List String)} (spliced : ∀ d, Splices (pieces d))
include spliced

theorem splices_template {s : List Char} {t : Template} (h : t.TemplateText s) :
    Splices (templatePieces pieces t) := by
  intro p found q eq
  obtain ⟨outputs, middle, segments, eq⟩ := bind_eq_ok eq
  cases eq
  have each : ∀ s ∈ t, Splices (segmentPieces pieces s) := by
    intro s mem
    cases s with
    | literal text =>
      intro p found q eq piece here
      cases eq
      rw [List.mem_singleton.1 here]
      exact h.literal_hasMark mem
    | directive d => exact spliced d
  intro piece mem
  obtain ⟨output, here, inside⟩ := List.mem_flatten.1 mem
  exact splices_mapM each p outputs q segments output here piece inside

theorem splices_text (s : String) : Splices (textPieces pieces s) := by
  unfold textPieces
  split
  · split
    · next read => exact splices_template spliced (Template.templateText_of_read read)
    · intro p found q eq
      cases eq
  · next plain =>
    intro p found q eq piece mem
    cases eq
    rw [List.mem_singleton.1 mem]
    exact Bool.eq_false_iff.2 plain

end Spliced

theorem splices_directive (g : Generator) (levels : Nat) (d : Directive) :
    Splices (directivePieces g levels d) := by
  induction levels generalizing d with
  | zero =>
    intro p found q eq
    cases eq
  | succ levels ih =>
    intro p found q eq
    rw [directivePieces] at eq
    obtain ⟨_, _, _, eq⟩ := bind_eq_ok eq
    obtain ⟨args, _, _, eq⟩ := bind_eq_ok eq
    obtain ⟨raw, before, _, eq⟩ := bind_eq_ok eq
    obtain ⟨pieces, after, spliced, eq⟩ := bind_eq_ok eq
    cases eq
    exact splices_text ih raw before found after spliced

end Eval

namespace Generator

/-- The pieces of the output of a text, on the trail at hand. -/
def evalTextPieces (g : Generator) (text : String) : Eval (List String) := do
  let t ← Eval.trail
  Eval.textPieces (Eval.directivePieces g (t.limit - t.depth)) text

def expressionPieces (g : Generator) (text : String) : ExceptT Failure Draw (List String) :=
  g.fresh (g.evalTextPieces text)

theorem join_evalTextPieces (g : Generator) (text : String) :
    String.join <$> g.evalTextPieces text = g.evalText text := by
  unfold evalTextPieces evalText Eval.withLevels
  simp [Eval.join_textPieces (Eval.join_directivePieces g _)]

theorem exists_evalTextPieces {g : Generator} {text s : String} {p q : Progress}
    (h : g.evalText text p = (.ok s, q)) :
    ∃ pieces, g.evalTextPieces text p = (.ok pieces, q) ∧ String.join pieces = s := by
  rw [← join_evalTextPieces, map_eq_pure_bind] at h
  obtain ⟨pieces, _, spliced, done⟩ := bind_eq_ok h
  cases done
  exact ⟨pieces, spliced, rfl⟩

theorem unmarked_evalTextPieces {g : Generator} {text : String} {pieces : List String}
    {p q : Progress} (h : g.evalTextPieces text p = (.ok pieces, q)) : Eval.Unmarked pieces := by
  obtain ⟨t, _, here, spliced⟩ := bind_eq_ok h
  exact Eval.splices_text (Eval.splices_directive g _) text _ pieces q spliced

/-- An output is pieces without a mark, joined. A mark in it begins at the end of one of them and
ends at the start of another one, and without such a joint it is its own output. -/
theorem expression_marked_iff_joint (g : Generator) (text s : String) (source after : Source)
    (h : g.expression text source = (.ok s, after)) :
    ∃ pieces, g.expressionPieces text source = (.ok pieces, after) ∧ String.join pieces = s ∧
      (∀ piece ∈ pieces, Template.hasMark piece.toList = false) ∧
      (Template.hasMark s.toList = true ↔
        ∃ front back, pieces = front ++ back ∧ Template.Joint front back) ∧
      ((∀ front back, pieces = front ++ back → ¬ Template.Joint front back) →
        ∀ p, g.evalText s p = (.ok s, p)) := by
  have outcome : (g.expression text source).1 = .ok s := by rw [h]
  have rest : (g.expression text source).2 = after := by rw [h]
  have evaluated : g.evalText text ⟨g.newTrail, source, 0⟩ =
      (.ok s, (g.evalText text ⟨g.newTrail, source, 0⟩).2) := Prod.ext outcome rfl
  obtain ⟨pieces, spliced, rfl⟩ := exists_evalTextPieces evaluated
  have unmarked : Eval.Unmarked pieces := unmarked_evalTextPieces spliced
  have marked := Template.hasMark_join_iff unmarked
  refine ⟨pieces, ?_, rfl, unmarked, marked, fun apart p => ?_⟩
  · rw [expressionPieces, fresh, spliced]
    exact congrArg (Prod.mk _) rest
  · apply evalText_of_unmarked
    apply Bool.eq_false_iff.2
    intro found
    obtain ⟨front, back, split, joint⟩ := marked.1 found
    exact apart front back split joint

/-- A generator for the root locale that has no data. -/
def withoutData : Generator where
  chain := .root
  maxDepth := Trail.defaultLimit
  store := .empty
  registry := standardProviders
  instances := .empty

/-- A literal number sign in front of a directive whose output begins with a brace. -/
theorem expression_marked_iff_joint_brace :
    ∃ after pieces,
      withoutData.expression "##\x7bnumerify '\x7b'\x7dnumerify 'A'\x7d" (.scripted []) =
        (.ok "#\x7bnumerify 'A'\x7d", after) ∧
      withoutData.expressionPieces "##\x7bnumerify '\x7b'\x7dnumerify 'A'\x7d" (.scripted []) =
        (.ok pieces, after) ∧
      ∃ front back, pieces = front ++ back ∧ Template.Joint front back := by
  have output : (withoutData.expression "##\x7bnumerify '\x7b'\x7dnumerify 'A'\x7d"
      (.scripted [])).1 = .ok "#\x7bnumerify 'A'\x7d" := by
    decide +kernel
  obtain ⟨after, done⟩ : ∃ after, withoutData.expression
      "##\x7bnumerify '\x7b'\x7dnumerify 'A'\x7d" (.scripted []) =
        (.ok "#\x7bnumerify 'A'\x7d", after) := ⟨_, Prod.ext output rfl⟩
  obtain ⟨pieces, spliced, _, _, marked, _⟩ := expression_marked_iff_joint _ _ _ _ _ done
  exact ⟨after, pieces, done, spliced, marked.1 (by decide)⟩

/-- An output with a mark in it, which has another output when it is evaluated again. -/
theorem expression_output_marked :
    (withoutData.expression "##\x7bnumerify '\x7b'\x7dnumerify 'A'\x7d" (.scripted [])).1 =
        .ok "#\x7bnumerify 'A'\x7d" ∧
      Template.hasMark "#\x7bnumerify 'A'\x7d".toList = true ∧
      (withoutData.expression "#\x7bnumerify 'A'\x7d" (.scripted [])).1 = .ok "A" := by
  decide +kernel

end Generator

end Figment
