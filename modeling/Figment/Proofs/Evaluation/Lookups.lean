import Figment.Proofs.Data.Changes
import Figment.Proofs.Evaluation.Frame
/-!
Generation reads the data by looking up keys along the chain, and in no other way.

The store of a generator takes part in the call of a directive and in the value at a key, and both
look up keys. So two generators whose lookups agree evaluate everything alike, whatever their stores
are. Only the limit of a new trail is beside this: the evaluator itself does not know it.
-/

namespace Figment

/-- Generators that an evaluation cannot tell apart. -/
structure Generator.Alike (g g' : Generator) : Prop where
  chain : g'.chain = g.chain
  provider : ∀ name, g'.registry.get name = g.registry.get name
  lookup : ∀ key, g'.lookup key = g.lookup key

namespace Eval

variable {g g' : Generator}

theorem hasKey_alike (h : g.Alike g') (key : String) : g'.hasKey key = g.hasKey key := by
  rw [Generator.hasKey, h.lookup, Generator.hasKey]

theorem methodCall_alike (h : g.Alike g') (p : Provider) (name : String) (args : List String) :
    methodCall g' p name args = methodCall g p name args := by
  have category (c name : String) : categoryCall g' c name args = categoryCall g c name args := by
    simp only [categoryCall, hasKey_alike h]
  cases p with
  | football => simp only [methodCall, footballCall, category]
  | numbers => rfl
  | category c => exact category c name

theorem call_alike (h : g.Alike g') (t : Trail) (d : Directive) (args : List String) :
    call g' t d args = call g t d args := by
  cases d with
  | builtin name _ => simp only [call, siblingKey?, hasKey_alike h]
  | provider name m _ =>
    simp only [call, h.provider]
    cases g.registry.get name with
    | error e => rfl
    | ok p => exact methodCall_alike h p (Name.snake m) args

theorem resolve_alike (h : g.Alike g') (directive : Directive → Eval String) :
    resolve g' directive = resolve g directive := by
  funext key
  simp only [resolve, h.lookup, h.chain]

theorem run_alike (h : g.Alike g') (directive : Directive → Eval String) (c : Call) :
    c.run g' directive = c.run g directive := by
  cases c with
  | key k => exact congrFun (resolve_alike h directive) k
  | answer e => rfl

theorem method_alike (h : g.Alike g') (directive : Directive → Eval String) (p : Provider)
    (name : String) (args : List String) :
    method g' directive p name args = method g directive p name args := by
  rw [← run_methodCall, ← run_methodCall, methodCall_alike h, run_alike h]

theorem raw_alike (h : g.Alike g') (directive : Directive → Eval String) :
    raw g' directive = raw g directive := by
  funext d args p
  rw [← run_call, ← run_call, call_alike h, run_alike h]

theorem directive_alike (h : g.Alike g') (levels : Nat) :
    directive g' levels = directive g levels := by
  induction levels with
  | zero => rfl
  | succ levels ih =>
    funext d
    rw [directive, directive, ih, raw_alike h]

theorem evaluate_alike (h : g.Alike g') (subject : Subject) :
    subject.evaluate g' = subject.evaluate g := by
  funext p
  rw [evaluate_apply, evaluate_apply, directive_alike h]
  cases subject with
  | text s => rfl
  | template t => rfl
  | directive d => rfl
  | key k => exact congrFun (congrFun (resolve_alike h _) k) p

end Eval

namespace Generator

/-- Generators that generate the same, and draw the same for it. -/
structure SameOutcomes (g g' : Generator) : Prop where
  expression : ∀ text, g'.expression text = g.expression text
  resolve : ∀ key, g'.resolve key = g.resolve key
  invoke : ∀ p name args, g'.invoke p name args = g.invoke p name args

variable {g g' : Generator}

theorem Agree.alike (h : Agree g g') : g.Alike g' where
  chain := h.chain
  provider name := by rw [h.registry]
  lookup := h.lookup

theorem fresh_congr {α : Type} (h : g'.maxDepth = g.maxDepth) {e e' : Eval α} (same : e' = e) :
    g'.fresh e' = g.fresh e := by
  unfold fresh newTrail
  rw [h, same]

theorem Alike.sameOutcomes (h : g.Alike g') (limit : g'.maxDepth = g.maxDepth) :
    SameOutcomes g g' where
  expression text := fresh_congr limit (Eval.evaluate_alike h (.text text))
  resolve key := fresh_congr limit (Eval.evaluate_alike h (.key key))
  invoke p name args := by
    refine fresh_congr limit ?_
    funext q
    change Eval.method g' (Eval.directive g' _) p (Name.snake name) args q =
      Eval.method g (Eval.directive g _) p (Name.snake name) args q
    rw [Eval.directive_alike h, Eval.method_alike h]

/-- Generators whose lookups agree have the same outcomes. In particular data of a locale outside of
the chain does not show, whatever is added or registered later. -/
theorem generation_reads_lookups (g : Generator) :
    (∀ g', g.Alike g' → g'.maxDepth = g.maxDepth → SameOutcomes g g') ∧
      ∀ a : Addition, (∀ L, a.locale? = some L → L ∉ g.chain.locales) →
        ∀ later, SameOutcomes (g.changed later) ((g.attempt a).changed later) := by
  constructor
  · intro g' h limit
    exact h.sameOutcomes limit
  · intro a foreign later
    have agree : Agree (g.changed later) ((g.attempt a).changed later) :=
      (agree_attempt foreign).changed later
    exact agree.alike.sameOutcomes agree.maxDepth

/-- A tree with a table that has no leaves, and data of a locale outside of the chain, which is added
before data that shows. -/
theorem generation_reads_lookups_pet :
    let other : Generator := { Eval.petGenerator with store := ⟨[("de", .text "Tier"),
      ("en", .table [("pet", .table [("kind", .text "cat"), ("line", .text "a #\x7bkind\x7d")]),
        ("zoo", .table [])])]⟩ }
    let later : List Change :=
      [.add (.text "en" "pet:\n  kind: dog"), .register "Pet" (.ofCategory "Pet")]
    (other.resolve "pet.line" (.scripted [])).1 = .ok "a cat" ∧
      (((Eval.petGenerator.attempt (.text "DE" "pet:\n  kind: Hund")).changed later).expression
        "#\x7bPet.line\x7d" (.scripted [])).1 = .ok "a dog" := by
  intro other later
  obtain ⟨alike, added⟩ := generation_reads_lookups Eval.petGenerator
  constructor
  · have same : Eval.petGenerator.Alike other := by
      refine ⟨rfl, fun _ => rfl, fun key => ?_⟩
      -- No path leads through the table without leaves.
      have empty (path : List String) : (Tree.table []).leaf? path = none := by
        cases path with
        | nil => rfl
        | cons name path => rfl
      unfold lookup Store.lookup
      cases Tree.pathOf (Unicode.lower key) with
      | nil => rfl
      | cons name path =>
        simp only [other, Eval.petGenerator, Store.tree?, Keyed.find?, Tree.leaf?_cons, Tree.child?,
          List.findSome?_singleton, String.reduceEq, if_false, if_true, Option.bind_some]
        split
        · rfl
        · split
          · exact empty path
          · rfl
    rw [(alike other same rfl).resolve]
    decide +kernel
  · have foreign : ∀ L, (Addition.text "DE" "pet:\n  kind: Hund").locale? = some L →
        L ∉ Eval.petGenerator.chain.locales := by
      have locale : (Addition.text "DE" "pet:\n  kind: Hund").locale? = some "de" := by
        decide +kernel
      rintro L h
      rw [locale] at h
      cases h
      decide
    rw [(added _ foreign later).expression]
    decide +kernel

end Generator

end Figment
