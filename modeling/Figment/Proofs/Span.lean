import Mathlib.Data.List.TakeDrop
import Mathlib.Data.List.TakeWhile
/-!
The longest run of characters of a kind at the front of a text.
-/

namespace Figment

variable {α : Type}

theorem takeWhile_eq_nil {p : α → Bool} {rest : List α} (stop : ∀ a ∈ rest.head?, p a = false) :
    rest.takeWhile p = [] := by
  cases rest with
  | nil => rfl
  | cons a rest => simp [stop a rfl]

theorem dropWhile_eq_self {p : α → Bool} {rest : List α} (stop : ∀ a ∈ rest.head?, p a = false) :
    rest.dropWhile p = rest := by
  cases rest with
  | nil => rfl
  | cons a rest => simp [stop a rfl]

theorem takeWhile_append_stop {p : α → Bool} {run rest : List α} (all : ∀ a ∈ run, p a = true)
    (stop : ∀ a ∈ rest.head?, p a = false) : (run ++ rest).takeWhile p = run := by
  rw [List.takeWhile_append_of_pos all, takeWhile_eq_nil stop, List.append_nil]

theorem dropWhile_append_stop {p : α → Bool} {run rest : List α} (all : ∀ a ∈ run, p a = true)
    (stop : ∀ a ∈ rest.head?, p a = false) : (run ++ rest).dropWhile p = rest := by
  rw [List.dropWhile_append_of_pos all, dropWhile_eq_self stop]

end Figment
