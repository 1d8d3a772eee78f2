import Figment.Proofs.Pattern.Language
import Mathlib.Data.List.Sort
/-!
The characters that a class can produce, as a list.

The list ascends by code point, and so holds every character once. A class that is not negated lists
what its items add, a negated one what the same items leave of the printable characters: items of every
kind are read in two ways, against two alphabets, and the lists still fit together.
-/

namespace Figment

/-- The list ascends by code point. -/
def Ascending (cs : List Char) : Prop :=
  cs.Pairwise fun c d => c.toNat < d.toNat

theorem ascending_charsBetween (first last : Nat) : Ascending (charsBetween first last) := by
  refine List.Pairwise.filterMap _ ?_ List.pairwise_lt_range'
  intro m n less c hc d hd
  obtain ⟨_, ⟨⟩⟩ := Option.dite_none_right_eq_some.1 hc
  obtain ⟨_, ⟨⟩⟩ := Option.dite_none_right_eq_some.1 hd
  exact less

theorem ascending_dropRepeats {cs : List Char} (h : cs.Pairwise (· ≤ ·)) :
    Ascending (dropRepeats cs) := by
  induction cs with
  | nil => exact .nil
  | cons c rest ih =>
    obtain ⟨least, later⟩ := List.pairwise_cons.1 h
    have ascending := ih later
    have above (d : Char) (mem : d ∈ dropRepeats rest) : c.toNat ≤ d.toNat :=
      least d (mem_dropRepeats.1 mem)
    change Ascending (if (dropRepeats rest).head? = some c then dropRepeats rest
      else c :: dropRepeats rest)
    split
    · exact ascending
    · next fresh =>
      refine List.pairwise_cons.2 ⟨?_, ascending⟩
      cases kept : dropRepeats rest with
      | nil => nofun
      | cons d more =>
        rw [kept] at fresh above ascending
        have ne : c ≠ d := fun same => fresh (congrArg some same.symm)
        have below : c.toNat < d.toNat :=
          Nat.lt_of_le_of_ne (above d List.mem_cons_self) (mt Char.toNat_inj.1 ne)
        intro e mem
        rcases List.mem_cons.1 mem with rfl | mem
        · exact below
        · exact below.trans ((List.pairwise_cons.1 ascending).1 e mem)

/-- On printable characters the two readings of an item agree. -/
theorem ClassItem.adds_iff_removes {item : ClassItem} {c : Char} (h : IsPrintable c) :
    item.Adds c ↔ item.Removes c := by
  cases item with
  | range first last => rfl
  | shorthand s => exact and_iff_left (.inl h)

namespace CharClass

/-- The class with the same items that is not negated. -/
def plain (k : CharClass) : CharClass :=
  { k with negated := false }

theorem ascending_candidates (k : CharClass) : Ascending k.candidates := by
  unfold candidates
  split
  · exact (ascending_charsBetween _ _).filter _
  · exact ascending_dropRepeats (List.pairwise_mergeSort' (· ≤ ·) _)

/-- The candidates ascend. Without a negation they are what the items add, and with one the printable
characters that are no candidates of the same items without it. -/
theorem candidates_law (k : CharClass) :
    Ascending k.candidates ∧
      ∀ c, c ∈ k.candidates ↔
        if k.negated then IsPrintable c ∧ c ∉ k.plain.candidates
        else ∃ item ∈ k.items, item.Adds c := by
  refine ⟨k.ascending_candidates, fun c => ?_⟩
  have added : c ∈ k.plain.candidates ↔ ∃ item ∈ k.items, item.Adds c :=
    mem_candidates
  rw [mem_candidates, Denotes]
  split
  · refine and_congr_right fun visible => ?_
    rw [added, not_exists]
    refine forall_congr' fun item => ?_
    rw [ClassItem.adds_iff_removes visible, not_and]
  · rfl

end CharClass

end Figment
