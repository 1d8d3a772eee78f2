import Mathlib.Data.List.Nodup
/-!
Lists of which every repetition has been taken out, so that the first of equal members is left.
-/

namespace Figment

variable {α β : Type}

theorem nodup_eraseDups [BEq α] [LawfulBEq α] : (as : List α) → as.eraseDups.Nodup
  | [] => List.nodup_nil
  | a :: as => by
    have shorter := List.length_filter_le (fun b => !b == a) as
    rw [List.eraseDups_cons, List.nodup_cons]
    refine ⟨fun again => ?_, nodup_eraseDups _⟩
    rw [List.mem_eraseDups, List.mem_filter] at again
    simp at again
  termination_by as => as.length

theorem eraseDups_of_nodup [BEq α] [LawfulBEq α] {as : List α} (h : as.Nodup) : as.eraseDups = as := by
  induction as with
  | nil => rfl
  | cons a as ih =>
    obtain ⟨fresh, distinct⟩ := List.nodup_cons.1 h
    have kept : as.filter (fun b => !b == a) = as := by
      refine List.filter_eq_self.2 fun b mem => ?_
      simpa using ne_of_mem_of_not_mem mem fresh
    rw [List.eraseDups_cons, kept, ih distinct]

theorem map_eraseDupsBy [BEq β] (f : α → β) : (as : List α) →
    (as.eraseDupsBy (f · == f ·)).map f = (as.map f).eraseDups
  | [] => rfl
  | a :: as => by
    have shorter := List.length_filter_le (fun b => !f b == f a) as
    have rest := map_eraseDupsBy f (as.filter fun b => !f b == f a)
    rw [List.map_cons, List.eraseDups_cons, List.filter_map]
    simpa [List.eraseDupsBy_cons, Function.comp_def] using rest
  termination_by as => as.length

end Figment
