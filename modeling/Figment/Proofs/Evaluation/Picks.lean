import Figment.Proofs.Data.WellFormed
import Figment.Proofs.Evaluation.Failures
/-!
No evaluation fails for want of something to pick.

The data of a generator is in order whatever has been added to it, and so there is something to pick
at every key that is found. An empty list and an index out of range are the two ways in which a choice
could fail, and nothing else that an evaluation is refused for is told in these words.
-/

namespace Figment

/-- What a choice fails with when there is nothing at the place that was drawn. -/
def Failure.IsFailedPick (x : Failure) : Prop :=
  x ∈ [nothingToPick, badArgument "random bound must be positive",
    badArgument "random index out of range"]

theorem Refusal.not_isFailedPick {x : Failure} (h : Refusal x) : ¬ x.IsFailedPick := by
  -- The messages differ in their first characters.
  have told {message : String} (first : message.toList.head? ∉ [some 'c', some 'r']) :
      ¬ (Failure.badArgument message).IsFailedPick := by
    intro failed
    simp only [Failure.IsFailedPick, Failure.nothingToPick, List.mem_cons, List.not_mem_nil,
      Failure.badArgument.injEq, or_false] at failed
    rcases failed with rfl | rfl | rfl
    · exact first (by decide)
    · exact first (by decide)
    · exact first (by decide)
  cases h with
  | flag h =>
    rw [Builtin.eq_badArgument_of_flag h]
    exact told (by simp [toString])
  | placeholder h =>
    rw [Builtin.eq_badArgument_of_placeholder h]
    exact told (by simp [toString])
  | noOptions c => exact told (by simp [toString])
  | notANumber value known =>
    rcases known with rfl | rfl
    · exact told (by simp [toString])
    · exact told (by simp [toString])
  | emptyRange least limit => exact told (by simp [toString])
  | tooManyDigits count => exact told (by simp [toString])
  | _ => simp [Failure.IsFailedPick, Failure.nothingToPick]

namespace Eval

theorem admits_picks {g : Generator} (h : g.store.WellFormed) :
    Admits g fun _ x _ => ¬ x.IsFailedPick where
  tooDeep t label := by simp [Trail.refusal, Failure.IsFailedPick, Failure.nothingToPick]
  badTemplate t s e := by simp [Failure.IsFailedPick, Failure.nothingToPick]
  refusal t x refused := refused.not_isFailedPick
  missing t key _ _ := by simp [Failure.IsFailedPick, Failure.nothingToPick]
  nothing t key found := absurd rfl (h.lookup_ne_nil found)
  opened _ _ _ _ inside := inside
  entered _ _ _ _ inside := inside

end Eval

namespace Generator

/-- Whatever is added and registered, the data of every locale is in order. So a choice among the
values at a key gives one of them, and no evaluation fails for it. -/
theorem picks_after_changes {locale : String} {maxDepth : Nat} {bundled : Bool} {g : Generator}
    (h : Generator.new locale maxDepth bundled = .ok g) (changes : List Change) :
    (∀ e ∈ (g.changed changes).store.trees, e.2.IsRoot) ∧
    (∀ key values, (g.changed changes).lookup key = some values → ∀ source,
      ∃ item ∈ values, ∃ after, Draw.pick values source = (.ok item, after)) ∧
    (∀ (subject : Eval.Subject) p x q, subject.evaluate (g.changed changes) p = (.error x, q) →
      ¬ x.IsFailedPick) ∧
    (∀ key source x after, (g.changed changes).resolve key source = (.error x, after) →
      ¬ x.IsFailedPick) := by
  have sound := wellFormed_changed (wellFormed_new h) changes
  have evaluated (subject : Eval.Subject) :
      Eval.Fails (fun _ x _ => ¬ x.IsFailedPick) (subject.evaluate (g.changed changes)) := by
    refine Eval.fails_evaluate (Eval.admits_picks sound) subject fun key _ _ t => ?_
    simp [Failure.IsFailedPick, Failure.nothingToPick]
  refine ⟨sound, fun key values found source => ?_, evaluated, fun key source x after eq => ?_⟩
  · exact Draw.exists_pick (sound.lookup_ne_nil found) source
  · exact evaluated (.key key) _ x _ (Prod.ext (Prod.mk.inj eq).1 rfl)

/-- Data in the layout of one locale, in which capitals and a tag occur, a provider, and a document
that is refused. -/
def germanChanges : List Change :=
  [.add (.text "de" "de:\n  faker:\n    ÄRZTE:\n      Art: !own [Hund, Katze]\n"),
    .register "Tier" (.category "tier"), .add (.text "de" "ärzte: []")]

theorem picks_after_changes_german :
    ∃ g, Generator.new "de_AT" 64 true = .ok g ∧
      (g.changed germanChanges).lookup "Ärzte.ART" = some ["Hund", "Katze"] ∧
      ∀ source, ∃ item ∈ ["Hund", "Katze"], ∃ after,
        Draw.pick ["Hund", "Katze"] source = (.ok item, after) := by
  have made : Generator.new "de_AT" 64 true =
      .ok ⟨⟨["de-AT", "de", "en"]⟩, 64, Bundled.store, standardProviders, .empty⟩ :=
    new_eq_ok.2 ⟨_, by rfl, rfl⟩
  obtain ⟨_, picks, _⟩ := picks_after_changes made germanChanges
  refine ⟨_, made, ?found, picks "Ärzte.ART" _ ?found⟩
  decide +kernel

end Generator

end Figment
