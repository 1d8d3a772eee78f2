import Figment.Proofs.Evaluation.Literal
import Figment.Proofs.Evaluation.Pieces
import Figment.Proofs.Pattern.Generation
import Figment.Proofs.Pattern.Reading
import Figment.Proofs.Template.Writing
/-!
Written directives of builtins, and the direct call.

What the builtin gives is evaluated once more, as all output of directives is. A text without a mark
is not changed by that, so such a directive means what the call with its arguments does. A pattern
that describes a text with a mark is different: whether its directive fails depends on the draw.
-/

namespace Figment

theorem Builtin.isSome_ofName?_iff {name : String} :
    (Builtin.ofName? name).isSome = true ↔ Unicode.lower name ∈ Builtin.names := by
  simp [ofName?, names, List.find?_isSome]

namespace Eval

theorem siblingKey?_of_builtin {name : String} (known : Unicode.lower name ∈ Builtin.names)
    (g : Generator) (t : Trail) (args : List String) : siblingKey? g t name args = none := by
  rw [siblingKey?, if_pos]
  rw [Builtin.isSome_ofName?_iff.2 known, Bool.or_true]

end Eval

namespace Generator

open Eval Template

variable {g : Generator}

/-- The outcome of an evaluation that takes place while one directive is open. -/
def inside (g : Generator) (label : String) (e : Eval String) : ExceptT Failure Draw String :=
  fun source =>
    let (result, p) := e (opened ⟨g.newTrail, source, 0⟩ label)
    (result, p.source)

theorem inside_draw_bind (label : String) (d : ExceptT Failure Draw String)
    (f : String → Eval String) :
    g.inside label (draw d >>= f) = d >>= fun value => g.inside label (f value) := by
  funext source
  rcases drawn : d source with ⟨r, after⟩
  have first : draw d (opened ⟨g.newTrail, source, 0⟩ label) =
      (r, opened ⟨g.newTrail, after, 0⟩ label) := by
    rw [draw_apply]
    change ((d source).1, { opened ⟨g.newTrail, source, 0⟩ label with source := (d source).2 }) = _
    rw [drawn]
    rfl
  unfold inside
  cases r with
  | error e =>
    rw [bind_of_error first, bind_of_error drawn]
    rfl
  | ok s => rw [bind_of_ok first, bind_of_ok drawn]

/-- What is done to the trail in the end does not show in the outcome. -/
theorem inside_closing (label : String) (e : Eval String) (close : Trail → Trail) :
    g.inside label (do let output ← e; move close; return output) = g.inside label e := by
  funext source
  unfold inside
  rcases first : e (opened ⟨g.newTrail, source, 0⟩ label) with ⟨x | s, q⟩
  · rw [bind_of_error first]
  · rw [bind_of_ok first]
    rfl

theorem inside_evalText_of_unmarked (label : String) {s : String}
    (h : hasMark s.toList = false) : g.inside label (g.evalText s) = pure s := by
  funext source
  unfold inside
  rw [g.evalText_of_unmarked h]
  rfl

theorem evalText_of_directiveText {text : String} {d : Directive}
    (h : DirectiveText text.toList d) : g.evalText text = g.evalDirective d := by
  have same (directive : Directive → Eval String) : Eval.text directive text = directive d := by
    rw [text_of_read directive (read_of_directiveText h), template_cons, template_nil]
    simp [Eval.segment]
  unfold evalText evalDirective
  simp only [same]

theorem evalDirective_builtin {name : String} (known : Unicode.lower name ∈ Builtin.names)
    (values : List String) {p : Progress} (below : p.trail.depth < p.trail.limit) :
    g.evalDirective (.builtin name (values.map .literal)) p = (do
      let value ← draw (Builtin.call name values)
      let output ← g.evalText value
      move (·.pop)
      return output) (opened p name) := by
  have called : call g (opened p name).trail (.builtin name (values.map .literal)) values =
      .answer (draw (Builtin.call name values)) := by
    rw [call, siblingKey?_of_builtin known]
  rw [evalDirective_of_literals values rfl below]
  exact bind_congr_of_eq (congrFun (congrArg (Call.evaluate g) called) _)

/-- A written directive is open while its builtin is called and the output of that is evaluated. -/
theorem expression_written {gap name : String} {args : List String} (blank : Blanks gap.toList)
    (named : NameText name.toList) (known : Unicode.lower name ∈ Builtin.names)
    (quotable : ∀ a ∈ args, Quotable a) (levels : 1 ≤ g.maxDepth) :
    g.expression (written gap name args) = (do
      let value ← Builtin.call name args
      g.inside name (g.evalText value)) := by
  have evaluated : g.evalText (written gap name args) =
      g.evalDirective (.builtin name (args.map .literal)) :=
    evalText_of_directiveText (directiveText_written blank named quotable)
  have opened : g.fresh (g.evalDirective (.builtin name (args.map .literal))) = g.inside name (do
      let value ← draw (Builtin.call name args)
      let output ← g.evalText value
      move (·.pop)
      return output) := by
    funext source
    have below : (⟨g.newTrail, source, 0⟩ : Progress).trail.depth < g.newTrail.limit := levels
    unfold fresh inside
    rw [evalDirective_builtin known args below]
    rfl
  rw [expression, evaluated, opened, ← bind_assoc, inside_closing, inside_draw_bind]

/-- The directive of a builtin with quoted arguments has the outcome of the direct call, unless there
is a mark in the text that the call gives. -/
theorem expression_written_eq_call (g : Generator) (gap name : String) (args : List String)
    (source : Source) (blank : Blanks gap.toList) (named : NameText name.toList)
    (known : Unicode.lower name ∈ Builtin.names) (quotable : ∀ a ∈ args, Quotable a)
    (levels : 1 ≤ g.maxDepth)
    (plain : ∀ s, (Builtin.call name args source).1 = .ok s → hasMark s.toList = false) :
    g.expression (written gap name args) source = Builtin.call name args source := by
  rw [expression_written blank named known quotable levels]
  rcases called : Builtin.call name args source with ⟨e | s, after⟩
  · exact bind_of_error called
  · rw [bind_of_ok called, inside_evalText_of_unmarked name (plain s (by rw [called]))]
    rfl

/-- A directive with quotes, a mark and a backslash in its arguments, and one that is refused. -/
theorem expression_written_eq_call_templatify :
    withoutData.expression "#\x7bTempLatify 'it\\'s #\x7bx\x7d, \\d\n', '#', 'o\\'\\\\'k'\x7d"
        (.scripted [7]) =
        Builtin.call "TempLatify" ["it's #\x7bx\x7d, \\d\n", "#", "o'\\'k"] (.scripted [7]) ∧
      withoutData.expression "#\x7bBOTHIFY '#?', 'maybe'\x7d" (.scripted [7]) =
        Builtin.call "BOTHIFY" ["#?", "maybe"] (.scripted [7]) := by
  have space : Blanks " ".toList := blanks_space
  constructor
  · have text : written " " "TempLatify" ["it's #\x7bx\x7d, \\d\n", "#", "o'\\'k"] =
        "#\x7bTempLatify 'it\\'s #\x7bx\x7d, \\d\n', '#', 'o\\'\\\\'k'\x7d" := by
      decide +kernel
    have output : (Builtin.call "TempLatify" ["it's #\x7bx\x7d, \\d\n", "#", "o'\\'k"]
        (.scripted [7])).1 = .ok "it's o'\\'k\x7bx\x7d, \\d\n" := by
      decide +kernel
    rw [← text]
    refine expression_written_eq_call withoutData " " "TempLatify" _ (.scripted [7]) space
      (by decide +kernel) (by decide +kernel) (by decide +kernel) (by decide) ?_
    intro s h
    rw [output] at h
    cases h
    decide
  · have text : written " " "BOTHIFY" ["#?", "maybe"] = "#\x7bBOTHIFY '#?', 'maybe'\x7d" := by
      decide +kernel
    have output : (Builtin.call "BOTHIFY" ["#?", "maybe"] (.scripted [7])).1 =
        .error (.badArgument "expected 'true' or 'false', got 'maybe'") := by
      decide +kernel
    rw [← text]
    refine expression_written_eq_call withoutData " " "BOTHIFY" _ (.scripted [7]) space
      (by decide +kernel) (by decide +kernel) (by decide +kernel) (by decide) ?_
    intro s h
    rw [output] at h
    cases h

theorem call_regexify_of_read {text : String} {p : Pattern} (h : Pattern.read text = .ok p)
    (source : Source) : Builtin.call "regexify" [text] source =
      (.ok (.ofList (p.generate source).1), (p.generate source).2) := by
  have known : Builtin.ofName? "regexify" = some .regexify := rfl
  have called : Builtin.call "regexify" [text] = String.ofList <$> Pattern.regexify text := by
    rw [Builtin.call, known]
    rfl
  rw [called]
  exact bind_of_ok (Pattern.regexify_of_read h source)

theorem expression_regexify_of_read {text : String} {p : Pattern}
    (accepted : Pattern.read text = .ok p) (quotable : Quotable text) (levels : 1 ≤ g.maxDepth)
    (source : Source) : g.expression (written " " "regexify" [text]) source =
      g.inside "regexify" (g.evalText (.ofList (p.generate source).1)) (p.generate source).2 := by
  have space : Blanks " ".toList := blanks_space
  have one : ∀ a ∈ [text], Quotable a := by simpa using quotable
  rw [expression_written space (by decide +kernel) (by decide +kernel) one levels,
    bind_of_ok (call_regexify_of_read accepted source)]

/-- The directive of an accepted pattern gives the string that the pattern gives from the same source,
unless there is a mark in this string: then it gives what the string is evaluated to. -/
theorem expression_regexify_eq_regexify (g : Generator) (text : String) (p : Pattern)
    (source : Source) (accepted : Pattern.read text = .ok p) (quotable : Quotable text)
    (levels : 1 ≤ g.maxDepth) :
    ∃ s after, Pattern.regexify text source = (.ok s, after) ∧ s ∈ p.language ∧
      (hasMark s = false →
        g.expression (written " " "regexify" [text]) source = (.ok (.ofList s), after)) ∧
      g.expression (written " " "regexify" [text]) source =
        g.inside "regexify" (g.evalText (.ofList s)) after := by
  have outcome := expression_regexify_of_read accepted quotable levels source
  refine ⟨(p.generate source).1, (p.generate source).2, ?_, ?_, fun unmarked => ?_, outcome⟩
  · rw [Pattern.regexify, accepted]
    rfl
  · exact Pattern.always_generate_language (Pattern.wellFormed_of_read accepted) source
  · rw [outcome, inside_evalText_of_unmarked "regexify" (by simpa using unmarked)]
    rfl

/-- A pattern with a quote, drawn so that a number sign stands in front of it. -/
theorem expression_regexify_eq_regexify_quote :
    withoutData.expression "#\x7bregexify '.\\'.'\x7d" (.scripted [0, 0, 158235637]) =
      (.ok "#'q", (Pattern.regexify ".'." (.scripted [0, 0, 158235637])).2) := by
  have accepted : Pattern.read ".'." =
      .ok [[.mk .any 1 1, .mk (.literal '\'') 1 1, .mk .any 1 1]] := by
    refine Pattern.read_eq_ok_iff.2 ⟨?_, by decide⟩
    exact .one (.cons (.once .any)
      (.cons (.once (.literal (by decide))) (.cons (.once .any) .nil)))
  have value : (Pattern.regexify ".'." (.scripted [0, 0, 158235637])).1 =
      .ok ['#', '\'', 'q'] := by
    rw [Pattern.regexify, accepted]
    decide +kernel
  obtain ⟨s, after, drawn, _, same, _⟩ := expression_regexify_eq_regexify withoutData ".'." _
    (.scripted [0, 0, 158235637]) accepted (by decide) (by decide)
  rw [drawn] at value
  cases value
  rw [drawn]
  exact same (by decide)

/-- One pattern, whose directive has an output from one source and none from another one. -/
theorem expression_regexify_fails_by_chance :
    (Pattern.regexify ".." (.scripted [0, 0, 158235637, 0, 4136731658])).1 = .ok ['#', '\x7b'] ∧
      (withoutData.expression "#\x7bregexify '..'\x7d"
          (.scripted [0, 0, 158235637, 0, 4136731658])).1 =
        .error (.badTemplate "#\x7b" (.cutShort ⟨1, 3⟩)) ∧
      (withoutData.expression "#\x7bregexify '..'\x7d" (.scripted [0, 0, 158235637])).1 =
        .ok "#6" := by
  have accepted : Pattern.read ".." = .ok [[.mk .any 1 1, .mk .any 1 1]] := by
    refine Pattern.read_eq_ok_iff.2 ⟨?_, by decide⟩
    exact .one (.cons (.once .any) (.cons (.once .any) .nil))
  have outcome (source : Source) : withoutData.expression "#\x7bregexify '..'\x7d" source = _ :=
    expression_regexify_of_read accepted (by decide) (by decide) source
  refine ⟨?_, ?_, ?_⟩
  · rw [Pattern.regexify, accepted]
    decide +kernel
  · rw [outcome]
    decide +kernel
  · rw [outcome]
    decide +kernel

end Generator

end Figment
