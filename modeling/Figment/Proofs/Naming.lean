import Figment.Name
import Figment.Proofs.Unicode.Lowercase
import Mathlib.Data.List.Basic
/-!
When a category is found in the data under the name it is registered under.

A category is looked for under its name in snake case without underscores, while a key is
lowercased as it is written. Both come to the same key unless the name holds an underscore or a
capital sigma in it ends a word of the key: the first is dropped on one of the two ways only, and the
second has a lowercase form of its own there.
-/

namespace Figment.Name

open Unicode (lowerChar lowerAfter lowerSigma)

theorem capitalSigma_not_mem_snakeFrom (previous : Option Char) (s : List Char) :
    '\u03a3' ∉ snakeFrom previous s := by
  induction s generalizing previous with
  | nil => exact List.not_mem_nil
  | cons c s ih =>
    intro h
    rw [snakeFrom, List.mem_append] at h
    rcases h with here | later
    · by_cases capital : Unicode.isUppercase c = true
      · rw [if_pos capital, List.mem_append] at here
        rcases here with separator | form
        · split at separator
          · exact absurd (List.mem_singleton.1 separator) (by decide)
          · cases separator
        · exact Unicode.capitalSigma_not_mem_lowerChar c form
      · rw [if_neg capital] at here
        rw [← List.mem_singleton.1 here] at capital
        exact capital (by decide +kernel)
    · exact ih (some c) later

/-- Without its underscores, snake case differs from the name in its capitals only. -/
theorem filter_snakeFrom {s : List Char} (h : '_' ∉ s) (previous : Option Char) :
    (snakeFrom previous s).filter (· ≠ '_') =
      s.flatMap fun c => if Unicode.isUppercase c then lowerChar c else [c] := by
  induction s generalizing previous with
  | nil => rfl
  | cons c s ih =>
    have ne : c ≠ '_' := fun same => h (same ▸ List.mem_cons_self)
    have later := ih (fun mem => h (List.mem_cons_of_mem c mem)) (some c)
    rw [snakeFrom, List.filter_append, later, List.flatMap_cons]
    by_cases capital : Unicode.isUppercase c = true
    · rw [if_pos capital, if_pos capital, List.filter_append, Unicode.filter_lowerChar ne]
      split
      · rfl
      · rfl
    · rw [if_neg capital, if_neg capital]
      simp [ne]

theorem flatMap_lowerChar_category {name : String} (h : '_' ∉ name.toList) :
    (category name).toList.flatMap lowerChar = name.toList.flatMap lowerChar := by
  rw [category, String.toList_ofList, filter_snakeFrom h, List.flatMap_assoc]
  congr 1
  funext c
  by_cases capital : Unicode.isUppercase c = true
  · rw [if_pos capital, Unicode.flatMap_lowerChar_lowerChar]
  · rw [if_neg capital]
    simp

theorem lower_eq_iff {s t : String} :
    Unicode.lower s = Unicode.lower t ↔ lowerAfter [] s.toList = lowerAfter [] t.toList :=
  String.ofList_inj

/-- A key as it is written, divided at its point. -/
theorem toList_key (name method : String) :
    (name ++ "." ++ method).toList = name.toList ++ '.' :: method.toList := by
  rw [String.toList_append, String.toList_append, List.append_assoc]
  rfl

theorem capitalSigma_not_mem_method {method : String} (snaked : snake method = method) :
    '\u03a3' ∉ '.' :: method.toList := by
  rw [← snaked, snake, String.toList_ofList]
  intro h
  rcases List.mem_cons.1 h with point | inside
  · exact absurd point (by decide)
  · exact capitalSigma_not_mem_snakeFrom none _ inside

/-- No capital sigma is left in the name of a category. -/
theorem lowerAfter_category_key {name method : String} (snaked : snake method = method) :
    lowerAfter [] (category name ++ "." ++ method).toList =
      (category name).toList.flatMap lowerChar ++ ('.' :: method.toList).flatMap lowerChar := by
  rw [toList_key, ← List.flatMap_append]
  apply (Unicode.lowerAfter_eq_flatMap_iff [] _).2
  intro u v split
  have mem : '\u03a3' ∈ (category name).toList ++ '.' :: method.toList := by
    rw [split]
    exact List.mem_append_right u List.mem_cons_self
  rcases List.mem_append.1 mem with inName | inMethod
  · rw [category, String.toList_ofList] at inName
    exact absurd (List.mem_filter.1 inName).1 (capitalSigma_not_mem_snakeFrom none _)
  · exact absurd inMethod (capitalSigma_not_mem_method snaked)

/-- No capital sigma of the name takes its final form in the key. -/
def SigmaInside (name method : String) : Prop :=
  ∀ u v, name.toList = u ++ '\u03a3' :: v →
    lowerSigma u.reverse (v ++ '.' :: method.toList) = '\u03c3'

theorem sigmaInside_of_not_mem {name : String} (h : '\u03a3' ∉ name.toList) (method : String) :
    SigmaInside name method := by
  intro u v split
  refine absurd ?_ h
  rw [split]
  exact List.mem_append_right u List.mem_cons_self

theorem lowerAfter_key_iff {name method : String} (snaked : snake method = method) :
    lowerAfter [] (name ++ "." ++ method).toList =
        name.toList.flatMap lowerChar ++ ('.' :: method.toList).flatMap lowerChar ↔
      SigmaInside name method := by
  rw [toList_key, ← List.flatMap_append, Unicode.lowerAfter_eq_flatMap_iff]
  constructor
  · intro inside u v split
    have := inside u (v ++ '.' :: method.toList) (by rw [split]; simp)
    rwa [List.append_nil] at this
  · intro inside u v split
    rw [List.append_nil]
    rcases List.append_eq_append_iff.1 split with ⟨more, _, rest⟩ | ⟨more, front, rest⟩
    · -- Only the name has capital sigmas.
      have mem : '\u03a3' ∈ '.' :: method.toList := by
        rw [rest]
        exact List.mem_append_right more List.mem_cons_self
      exact absurd mem (capitalSigma_not_mem_method snaked)
    · cases more with
      | nil => exact absurd (List.cons.inj rest).1 (by decide)
      | cons c more =>
        obtain ⟨rfl, rfl⟩ := List.cons.inj rest
        exact inside u more front

theorem count_lowerAfter (before s : List Char) :
    (lowerAfter before s).count '_' = s.count '_' := by
  induction s generalizing before with
  | nil => rfl
  | cons c s ih =>
    rw [lowerAfter, List.count_append, ih, List.count_cons, Nat.add_comm]
    congr 1
    by_cases sigma : c = '\u03a3'
    · rw [if_pos sigma, sigma, lowerSigma]
      split
      · rfl
      · rfl
    · rw [if_neg sigma]
      by_cases underscore : c = '_'
      · rw [underscore, Unicode.lowerChar_underscore]
        rfl
      · have none : '_' ∉ lowerChar c :=
          fun mem => underscore (Unicode.eq_underscore_of_mem_lowerChar mem)
        rw [List.count_eq_zero.2 none]
        simp [underscore]

theorem not_mem_of_lower_category_key {name method : String}
    (h : Unicode.lower (category name ++ "." ++ method) = Unicode.lower (name ++ "." ++ method)) :
    '_' ∉ name.toList := by
  -- Lowercasing keeps the number of underscores, and a category has none.
  have counts := congrArg (List.count '_') (lower_eq_iff.1 h)
  have none : '_' ∉ (category name).toList := by
    rw [category, String.toList_ofList]
    intro mem
    exact of_decide_eq_true (List.mem_filter.1 mem).2 rfl
  rw [count_lowerAfter, count_lowerAfter, toList_key, toList_key, List.count_append,
    List.count_append, List.count_eq_zero.2 none] at counts
  exact List.count_eq_zero.1 (by omega)

/-- The key under which a registered category looks for a method is the key as it is written. -/
theorem lower_category_key_iff {name method : String} (snaked : snake method = method) :
    Unicode.lower (category name ++ "." ++ method) = Unicode.lower (name ++ "." ++ method) ↔
      '_' ∉ name.toList ∧ SigmaInside name method := by
  constructor
  · intro h
    have plain := not_mem_of_lower_category_key h
    have keys := lower_eq_iff.1 h
    rw [lowerAfter_category_key snaked, flatMap_lowerChar_category plain] at keys
    exact ⟨plain, (lowerAfter_key_iff snaked).1 keys.symm⟩
  · rintro ⟨plain, inside⟩
    rw [lower_eq_iff, lowerAfter_category_key snaked, flatMap_lowerChar_category plain,
      (lowerAfter_key_iff snaked).2 inside]

/-- At the end of a word only the key as it is written has the final form of the sigma. -/
example : Unicode.lower (category "\u0391\u03a3" ++ ".1") = "\u03b1\u03c3.1" ∧
    Unicode.lower ("\u0391\u03a3" ++ ".1") = "\u03b1\u03c2.1" := by
  decide +kernel

end Figment.Name
