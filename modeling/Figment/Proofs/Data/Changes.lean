import Figment.Proofs.Data.History
/-!
Data that a generator does not see.

Keys are looked up along the chain. Trees of other locales do not matter for that, neither at once
nor after any later calls that add data or register providers: a call does the same to the trees of
the chain, whatever the others are.
-/

namespace Figment

theorem Store.lookup_congr {s s' : Store} {chain : Chain}
    (h : ∀ L ∈ chain.locales, s'.tree? L = s.tree? L) (key : String) :
    s'.lookup chain key = s.lookup chain key := by
  obtain ⟨locales⟩ := chain
  simp only [lookup]
  induction locales with
  | nil => rfl
  | cons L rest ih =>
    have later := ih fun M mem => h M (List.mem_cons_of_mem L mem)
    simp only [List.findSome?_cons, h L List.mem_cons_self, later]

namespace Generator

/-- A call that changes a generator. One that adds data may fail. -/
inductive Change where
  | add (a : Addition)
  | register (name : String) (p : Provider)

def Change.apply (g : Generator) : Change → Generator
  | add a => g.attempt a
  | register name p => g.register name p

def changed (g : Generator) (changes : List Change) : Generator :=
  changes.foldl Change.apply g

/-- Generators that differ in the trees outside of their chain at most. -/
structure Agree (g g' : Generator) : Prop where
  chain : g'.chain = g.chain
  maxDepth : g'.maxDepth = g.maxDepth
  registry : g'.registry = g.registry
  tree : ∀ L ∈ g.chain.locales, g'.store.tree? L = g.store.tree? L

variable {g g' : Generator}

theorem agree_refl (g : Generator) : Agree g g :=
  ⟨rfl, rfl, rfl, fun _ _ => rfl⟩

theorem agree_attempt {a : Addition} (h : ∀ L, a.locale? = some L → L ∉ g.chain.locales) :
    Agree g (g.attempt a) := by
  cases added : a.added? with
  | none =>
    rw [attempt_of_not_added added]
    exact agree_refl g
  | some e =>
    obtain ⟨target, t⟩ := e
    rw [attempt_of_added added]
    refine ⟨rfl, rfl, rfl, fun L mem => ?_⟩
    have ne : L ≠ target := by
      rintro rfl
      exact h L (Addition.added?_eq_some_iff.1 added).2 mem
    exact Store.tree?_merge_of_ne g.store t ne

theorem Agree.attempt (h : Agree g g') (a : Addition) : Agree (g.attempt a) (g'.attempt a) := by
  cases added : a.added? with
  | none =>
    rw [attempt_of_not_added added, attempt_of_not_added added]
    exact h
  | some e =>
    obtain ⟨target, t⟩ := e
    rw [attempt_of_added added, attempt_of_added added]
    refine ⟨h.chain, h.maxDepth, h.registry, fun L mem => ?_⟩
    by_cases same : L = target
    · subst same
      rw [Store.tree?_merge_self, Store.tree?_merge_self, h.tree L mem]
    · rw [Store.tree?_merge_of_ne _ t same, Store.tree?_merge_of_ne _ t same]
      exact h.tree L mem

theorem Agree.apply (h : Agree g g') (c : Change) : Agree (c.apply g) (c.apply g') := by
  cases c with
  | add a => exact h.attempt a
  | register name p =>
    refine ⟨h.chain, h.maxDepth, ?_, h.tree⟩
    exact congrArg (Registry.register · name p) h.registry

theorem Agree.changed (h : Agree g g') (changes : List Change) :
    Agree (g.changed changes) (g'.changed changes) := by
  induction changes generalizing g g' with
  | nil => exact h
  | cons c changes ih => exact ih (h.apply c)

theorem Agree.lookup (h : Agree g g') (key : String) : g'.lookup key = g.lookup key := by
  rw [Generator.lookup, Generator.lookup, h.chain]
  exact Store.lookup_congr h.tree key

end Generator

end Figment
