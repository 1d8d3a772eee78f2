/-!
Texts divided by a delimiter.

Main statements: the parts with the delimiter between them again are the text, no part holds the
delimiter, and parts that do not hold it are found again.
-/

namespace Figment.Delimited

def consFirst (c : Char) : List (List Char) → List (List Char)
  | [] => [[c]]
  | part :: parts => (c :: part) :: parts

/-- The text divided at every delimiter. Parts may be empty, and there is at least one. -/
def split (delimiter : Char) : List Char → List (List Char)
  | [] => [[]]
  | c :: rest =>
    if c = delimiter then [] :: split delimiter rest else consFirst c (split delimiter rest)

theorem split_delimiter (delimiter : Char) (rest : List Char) :
    split delimiter (delimiter :: rest) = [] :: split delimiter rest :=
  if_pos rfl

theorem split_of_ne {delimiter c : Char} (rest : List Char) (h : c ≠ delimiter) :
    split delimiter (c :: rest) = consFirst c (split delimiter rest) :=
  if_neg h

theorem split_ne_nil (delimiter : Char) (s : List Char) : split delimiter s ≠ [] := by
  cases s with
  | nil => exact List.cons_ne_nil _ _
  | cons c rest =>
    by_cases h : c = delimiter
    · rw [h, split_delimiter]
      exact List.cons_ne_nil _ _
    · rw [split_of_ne rest h]
      cases split delimiter rest with
      | nil => exact List.cons_ne_nil _ _
      | cons part parts => exact List.cons_ne_nil _ _

theorem intercalate_consFirst (delimiter c : Char) {parts : List (List Char)} (h : parts ≠ []) :
    [delimiter].intercalate (consFirst c parts) = c :: [delimiter].intercalate parts := by
  cases parts with
  | nil => exact absurd rfl h
  | cons part rest =>
    cases rest with
    | nil => simp [consFirst, List.intercalate]
    | cons next rest =>
      rw [consFirst, List.intercalate_cons_cons, List.intercalate_cons_cons]
      rfl

theorem split_of_not_mem {delimiter : Char} {s : List Char} (h : delimiter ∉ s) :
    split delimiter s = [s] := by
  induction s with
  | nil => rfl
  | cons c rest ih =>
    have ne : c ≠ delimiter := fun eq => h (eq ▸ List.mem_cons_self)
    rw [split_of_ne rest ne, ih fun later => h (List.mem_cons_of_mem c later)]
    rfl

theorem consFirst_append (c : Char) {parts : List (List Char)} (more : List (List Char))
    (h : parts ≠ []) : consFirst c (parts ++ more) = consFirst c parts ++ more := by
  cases parts with
  | nil => exact absurd rfl h
  | cons part parts => rfl

theorem split_append_delimiter (delimiter : Char) (s rest : List Char) :
    split delimiter (s ++ delimiter :: rest) = split delimiter s ++ split delimiter rest := by
  induction s with
  | nil => exact split_delimiter delimiter rest
  | cons c s ih =>
    rw [List.cons_append]
    by_cases h : c = delimiter
    · rw [h, split_delimiter, split_delimiter, ih, List.cons_append]
    · rw [split_of_ne _ h, split_of_ne s h, ih, consFirst_append c _ (split_ne_nil delimiter s)]

theorem split_append {delimiter : Char} {part : List Char} (rest : List Char)
    (h : delimiter ∉ part) :
    split delimiter (part ++ delimiter :: rest) = part :: split delimiter rest := by
  rw [split_append_delimiter, split_of_not_mem h, List.singleton_append]

theorem split_append_flatMap {delimiter : Char} (s : List Char) {parts : List (List Char)}
    (h : ∀ part ∈ parts, delimiter ∉ part) :
    split delimiter (s ++ parts.flatMap (delimiter :: ·)) = split delimiter s ++ parts := by
  induction parts generalizing s with
  | nil => rw [List.flatMap_nil, List.append_nil, List.append_nil]
  | cons part parts ih =>
    obtain ⟨here, later⟩ := List.forall_mem_cons.1 h
    rw [List.flatMap_cons, List.cons_append, split_append_delimiter, ih part later,
      split_of_not_mem here, List.singleton_append]

theorem map_consFirst (f : Char → Char) (c : Char) {parts : List (List Char)} :
    (consFirst c parts).map (List.map f) = consFirst (f c) (parts.map (List.map f)) := by
  cases parts <;> rfl

theorem split_map {delimiter : Char} {f : Char → Char} (h : ∀ c, f c = delimiter ↔ c = delimiter)
    (s : List Char) : split delimiter (s.map f) = (split delimiter s).map (List.map f) := by
  induction s with
  | nil => rfl
  | cons c rest ih =>
    rw [List.map_cons]
    by_cases eq : c = delimiter
    · rw [(h c).2 eq, eq, split_delimiter, split_delimiter, ih, List.map_cons, List.map_nil]
    · rw [split_of_ne _ fun eq' => eq ((h c).1 eq'), split_of_ne rest eq, ih, map_consFirst]

theorem intercalate_eq_append (delimiter : Char) (part : List Char) (parts : List (List Char)) :
    [delimiter].intercalate (part :: parts) = part ++ parts.flatMap (delimiter :: ·) := by
  induction parts generalizing part with
  | nil => rw [List.intercalate_singleton, List.flatMap_nil, List.append_nil]
  | cons next parts ih =>
    rw [List.intercalate_cons_cons, ih next, List.flatMap_cons, List.append_assoc]
    rfl

theorem map_intercalate {delimiter : Char} {f : Char → Char} (h : f delimiter = delimiter)
    (parts : List (List Char)) :
    ([delimiter].intercalate parts).map f = [delimiter].intercalate (parts.map (List.map f)) := by
  cases parts with
  | nil => rfl
  | cons part parts =>
    rw [List.map_cons, intercalate_eq_append, intercalate_eq_append, List.map_append,
      List.map_flatMap, List.flatMap_map]
    simp only [List.map_cons, h]

/-- Parts without the delimiter are found again when they are written with it between them. -/
theorem split_intercalate {delimiter : Char} {parts : List (List Char)} (ne : parts ≠ [])
    (h : ∀ part ∈ parts, delimiter ∉ part) :
    split delimiter ([delimiter].intercalate parts) = parts := by
  cases parts with
  | nil => exact absurd rfl ne
  | cons part parts =>
    obtain ⟨here, later⟩ := List.forall_mem_cons.1 h
    rw [intercalate_eq_append, split_append_flatMap part later, split_of_not_mem here,
      List.singleton_append]

theorem intercalate_split (delimiter : Char) (s : List Char) :
    [delimiter].intercalate (split delimiter s) = s := by
  induction s with
  | nil => simp [split, List.intercalate]
  | cons c rest ih =>
    by_cases h : c = delimiter
    · rw [h, split_delimiter, List.intercalate_cons_of_ne_nil (split_ne_nil delimiter rest), ih]
      rfl
    · rw [split_of_ne rest h, intercalate_consFirst delimiter c (split_ne_nil delimiter rest), ih]

end Figment.Delimited
