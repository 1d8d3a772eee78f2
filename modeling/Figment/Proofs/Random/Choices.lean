import Figment.Proofs.Random.Outcomes
/-!
How many choices a draw makes.

`Draw.Chooses` bounds the number from both sides, for every source. The numbers add up along a
sequence of draws, and each of the basic choices counts once, however many words it reads.
-/

namespace Figment.Draw

variable {α β : Type}

/-- From every source the draw makes at least `fewest` and at most `most` choices. -/
def Chooses (d : Draw α) (fewest most : Nat) : Prop :=
  ∀ s, s.choices + fewest ≤ (d s).2.choices ∧ (d s).2.choices ≤ s.choices + most

theorem Chooses.mono {d : Draw α} {fewest fewest' most most' : Nat} (h : d.Chooses fewest most)
    (less : fewest' ≤ fewest) (more : most ≤ most') : d.Chooses fewest' most' := by
  intro s
  obtain ⟨lower, upper⟩ := h s
  exact ⟨(Nat.add_le_add_left less _).trans lower, upper.trans (Nat.add_le_add_left more _)⟩

theorem chooses_pure (a : α) : Chooses (pure a) 0 0 :=
  fun _ => ⟨Nat.le_refl _, Nat.le_refl _⟩

/-- The choices made later may depend on the values that the earlier ones have. -/
theorem Chooses.bind {d : Draw α} {f : α → Draw β} {P : α → Prop} {fewest fewest' most most' : Nat}
    (h : d.Chooses fewest most) (value : d.Always P)
    (hf : ∀ a, P a → (f a).Chooses fewest' most') :
    (d >>= f).Chooses (fewest + fewest') (most + most') := by
  intro s
  obtain ⟨lower, upper⟩ := h s
  obtain ⟨lower', upper'⟩ := hf _ (value s) (d s).2
  change s.choices + _ ≤ (f (d s).1 (d s).2).2.choices ∧ (f (d s).1 (d s).2).2.choices ≤ _
  omega

/-- What makes no choices may come behind a draw. -/
theorem Chooses.bind_zero {d : Draw α} {f : α → Draw β} {fewest most : Nat}
    (h : d.Chooses fewest most) (hf : ∀ a, (f a).Chooses 0 0) : (d >>= f).Chooses fewest most :=
  h.bind (always_true d) fun a _ => hf a

theorem Chooses.map {d : Draw α} {f : α → β} {fewest most : Nat} (h : d.Chooses fewest most) :
    (f <$> d).Chooses fewest most :=
  fun s => h s

theorem chooses_tally : tally.Chooses 1 1 :=
  fun _ => ⟨Nat.le_refl _, Nat.le_refl _⟩

theorem chooses_words (n : Nat) : (words n).Chooses 0 0 := by
  intro s
  rw [snd_words]
  exact ⟨Nat.le_refl _, Nat.le_refl _⟩

theorem chooses_uniform (width n : Nat) : (uniform width n).Chooses 1 1 := by
  refine chooses_tally.bind_zero fun _ => (chooses_words width).bind_zero fun x => ?_
  dsimp only
  split
  · exact (chooses_words width).bind_zero fun y => chooses_pure _
  · exact chooses_pure _

theorem chooses_below (n : Nat) : (below n).Chooses 1 1 :=
  chooses_uniform _ n

theorem chooses_repetition {least most : UInt32} (h : least ≤ most) :
    (repetition least most).Chooses 1 1 := by
  rw [repetition, if_neg (UInt32.not_lt.2 h)]
  exact (chooses_uniform 1 _).map

theorem chooses_unbiased (threshold n fuel : Nat) : (unbiased threshold n fuel).Chooses 0 0 := by
  induction fuel with
  | zero => exact chooses_pure _
  | succ fuel ih =>
    have one : word.Chooses 0 0 := fun _ => ⟨Nat.le_refl _, Nat.le_refl _⟩
    refine one.bind_zero fun w => ?_
    dsimp only
    split
    · exact chooses_pure _
    · exact ih

theorem chooses_printable : printable.Chooses 1 1 := by
  refine chooses_tally.bind_zero fun _ => ?_
  exact (chooses_unbiased _ 95 _).bind_zero fun offset => chooses_pure _

theorem chooses_member? {items : Array α} (h : items ≠ #[]) : (member? items).Chooses 1 1 := by
  rw [member?, if_neg (by simpa using h)]
  exact (chooses_below _).bind_zero fun i => chooses_pure _

end Figment.Draw
