import Figment.Suggestion
import Mathlib.Data.List.Sort
import Mathlib.Data.String.Basic
import Mathlib.Order.Bounds.Basic
/-!
Suggestions are the nearest names.

The distance of two texts is the least length of a script of edits that leads from one to the other.
`separation` computes it by the first characters of both texts: no edit brings a text nearer to
another one by more than one, and a script of that length exists. The rows of the distance table read
both texts from their ends, which is the same because a script may be turned round.
-/

namespace Figment

/-- One character is inserted, deleted or replaced, anywhere in a text. -/
inductive Edit : List Char → List Char → Prop
  | insert (front : List Char) (c : Char) (back : List Char) : Edit (front ++ back) (front ++ c :: back)
  | delete (front : List Char) (c : Char) (back : List Char) : Edit (front ++ c :: back) (front ++ back)
  | replace (front : List Char) (c d : Char) (back : List Char) :
      Edit (front ++ c :: back) (front ++ d :: back)

/-- A script of so many edits leads from one text to another. -/
inductive Edits : Nat → List Char → List Char → Prop
  | none {s} : Edits 0 s s
  | cons {n s t u} : Edit s t → Edits n t u → Edits (n + 1) s u

theorem Edit.prepend (c : Char) {s t : List Char} (h : Edit s t) : Edit (c :: s) (c :: t) := by
  cases h with
  | insert front d back => exact .insert (c :: front) d back
  | delete front d back => exact .delete (c :: front) d back
  | replace front d e back => exact .replace (c :: front) d e back

theorem Edit.reverse {s t : List Char} (h : Edit s t) : Edit s.reverse t.reverse := by
  cases h with
  | insert front c back => simpa using Edit.insert back.reverse c front.reverse
  | delete front c back => simpa using Edit.delete back.reverse c front.reverse
  | replace front c d back => simpa using Edit.replace back.reverse c d front.reverse

theorem Edits.prepend (c : Char) {n : Nat} {s t : List Char} (h : Edits n s t) :
    Edits n (c :: s) (c :: t) := by
  induction h with
  | none => exact .none
  | cons edit _ ih => exact .cons (edit.prepend c) ih

theorem Edits.reverse {n : Nat} {s t : List Char} (h : Edits n s t) :
    Edits n s.reverse t.reverse := by
  induction h with
  | none => exact .none
  | cons edit _ ih => exact .cons edit.reverse ih

theorem edits_reverse_iff {n : Nat} {s t : List Char} :
    Edits n s.reverse t.reverse ↔ Edits n s t := by
  constructor
  · intro h
    simpa using h.reverse
  · exact Edits.reverse

/-- A script that inserts all of a text. -/
theorem edits_from_nil : (t : List Char) → Edits t.length [] t
  | [] => .none
  | c :: t => .cons (.insert [] c []) ((edits_from_nil t).prepend c)

/-- A script that deletes all of a text. -/
theorem edits_to_nil : (s : List Char) → Edits s.length s []
  | [] => .none
  | c :: s => .cons (.delete [] c s) (edits_to_nil s)

/-- The distance of two texts, by their first characters. -/
def separation : List Char → List Char → Nat
  | [], t => t.length
  | s, [] => s.length
  | c :: s, d :: t =>
    min (min (separation s (d :: t) + 1) (separation (c :: s) t + 1))
      (if c = d then separation s t else separation s t + 1)
termination_by s t => s.length + t.length

theorem separation_nil_left (t : List Char) : separation [] t = t.length := by
  rw [separation]

theorem separation_nil_right (s : List Char) : separation s [] = s.length := by
  cases s with
  | nil => rw [separation]
  | cons c s =>
    rw [separation]
    exact nofun

theorem separation_cons (c d : Char) (s t : List Char) :
    separation (c :: s) (d :: t) =
      min (min (separation s (d :: t) + 1) (separation (c :: s) t + 1))
        (if c = d then separation s t else separation s t + 1) := by
  rw [separation]

/-- A script of that length exists. -/
theorem edits_separation (s t : List Char) : Edits (separation s t) s t := by
  fun_induction separation s t with
  | case1 t => exact edits_from_nil t
  | case2 s => exact edits_to_nil s
  | case3 c s d t delete insert keep =>
    rcases min_choice (min (separation s (d :: t) + 1) (separation (c :: s) t + 1))
      (if c = d then separation s t else separation s t + 1) with first | last
    · rw [first]
      rcases min_choice (separation s (d :: t) + 1) (separation (c :: s) t + 1) with e | e
      · rw [e]
        exact .cons (.delete [] c s) delete
      · rw [e]
        exact .cons (.insert [] d (c :: s)) (insert.prepend d)
    · rw [last]
      split
      · next same => exact same ▸ keep.prepend c
      · exact .cons (.replace [] c d s) (keep.prepend d)

theorem separation_le_cons (c : Char) (s t : List Char) :
    separation (c :: s) t ≤ separation s t + 1 := by
  cases t with
  | nil => rw [separation_nil_right, separation_nil_right, List.length_cons]
  | cons d t =>
    rw [separation_cons]
    omega

theorem separation_le_cons_right (s : List Char) (d : Char) (t : List Char) :
    separation s (d :: t) ≤ separation s t + 1 := by
  cases s with
  | nil => rw [separation_nil_left, separation_nil_left, List.length_cons]
  | cons c s =>
    rw [separation_cons]
    omega

theorem separation_le_of_cons (c : Char) (s t : List Char) :
    separation s t ≤ separation (c :: s) t + 1 := by
  induction t with
  | nil =>
    rw [separation_nil_right, separation_nil_right, List.length_cons]
    omega
  | cons d t ih =>
    have longer := separation_le_cons_right s d t
    rw [separation_cons]
    split <;> omega

theorem separation_replace (c d : Char) (s t : List Char) :
    separation (c :: s) t ≤ separation (d :: s) t + 1 := by
  induction t with
  | nil => simp only [separation_nil_right, List.length_cons, Nat.le_add_right]
  | cons e t ih =>
    rw [separation_cons, separation_cons]
    split <;> split <;> omega

/-- What holds of two texts holds with a character in front of both. -/
theorem separation_prepend (c : Char) {s t : List Char}
    (near : ∀ u, separation s u ≤ separation t u + 1) (u : List Char) :
    separation (c :: s) u ≤ separation (c :: t) u + 1 := by
  induction u with
  | nil =>
    have := near []
    rw [separation_nil_right, separation_nil_right] at this
    simp only [separation_nil_right, List.length_cons]
    omega
  | cons d u ih =>
    have skipped := near (d :: u)
    have both := near u
    rw [separation_cons, separation_cons]
    split <;> omega

theorem Edit.separation_le {s t : List Char} (h : Edit s t) (u : List Char) :
    separation s u ≤ separation t u + 1 := by
  have behind (front : List Char) {s t : List Char} (near : ∀ u, separation s u ≤ separation t u + 1) :
      ∀ u, separation (front ++ s) u ≤ separation (front ++ t) u + 1 := by
    induction front with
    | nil => exact near
    | cons c front ih => exact separation_prepend c ih
  cases h with
  | insert front c back => exact behind front (separation_le_of_cons c back) u
  | delete front c back => exact behind front (separation_le_cons c back) u
  | replace front c d back => exact behind front (separation_replace c d back) u

theorem separation_self (s : List Char) : separation s s = 0 := by
  induction s with
  | nil => rw [separation_nil_left, List.length_nil]
  | cons c s ih =>
    rw [separation_cons, if_pos rfl, ih]
    exact Nat.min_zero _

/-- No script is shorter. -/
theorem Edits.separation_le {n : Nat} {s t : List Char} (h : Edits n s t) : separation s t ≤ n := by
  induction h with
  | none => exact (separation_self _).le
  | cons edit _ ih => exact Nat.le_trans (edit.separation_le _) (Nat.succ_le_succ ih)

/-- The distances of a text from the beginnings of `target` that are longer than `before`. The text and
the beginnings are turned round. -/
def separations (s before : List Char) : List Char → List Nat
  | [] => []
  | d :: target => separation s (d :: before) :: separations s (d :: before) target

/-- One row of the table leads to the next. -/
theorem nextDistances_separations (c : Char) (s before target : List Char) :
    nextDistances c (separation s before) (separation (c :: s) before) target
        (separations s before target) = separations (c :: s) before target := by
  induction target generalizing before with
  | nil => rfl
  | cons d target ih =>
    simp only [separations, nextDistances]
    rw [← separation_cons, ih]

theorem separations_nil (before target : List Char) :
    separations [] before target = List.range' (before.length + 1) target.length := by
  induction target generalizing before with
  | nil => rfl
  | cons d target ih =>
    rw [separations, ih, separation_nil_left]
    rfl

theorem getLastD_separations (s before target : List Char) :
    (separations s before target).getLastD (separation s before) =
      separation s (target.reverse ++ before) := by
  induction target generalizing before with
  | nil => rfl
  | cons d target ih =>
    rw [separations, List.getLastD_cons, ih, List.reverse_cons, List.append_assoc]
    rfl

theorem editDistance_go_eq (target rest s : List Char) :
    editDistance.go target s.length (separations s [] target) rest =
      separation (rest.reverse ++ s) target.reverse := by
  induction rest generalizing s with
  | nil =>
    have last := getLastD_separations s [] target
    rw [separation_nil_right, List.append_nil] at last
    exact last
  | cons c rest ih =>
    have row := nextDistances_separations c s [] target
    rw [separation_nil_right, separation_nil_right] at row
    rw [editDistance.go]
    simp only [List.length_cons] at row
    rw [row, List.reverse_cons, List.append_assoc]
    exact ih (c :: s)

theorem editDistance_eq (source target : List Char) :
    editDistance source target = separation source.reverse target.reverse := by
  have rows := editDistance_go_eq target source []
  rw [separations_nil, List.append_nil] at rows
  exact rows

/-- The distance is the least number of edits that lead from one text to the other. -/
theorem isLeast_editDistance (source target : List Char) :
    IsLeast {n | Edits n source target} (editDistance source target) := by
  rw [editDistance_eq]
  constructor
  · exact edits_reverse_iff.1 (edits_separation source.reverse target.reverse)
  · intro n script
    exact (edits_reverse_iff.2 script).separation_le

theorem precedes_iff {a b : Nat × String} :
    precedes a b = true ↔ a.1 < b.1 ∨ a.1 = b.1 ∧ a.2 ≤ b.2 := by
  simp [precedes]

theorem precedes_trans (a b c : Nat × String) (ab : precedes a b = true) (bc : precedes b c = true) :
    precedes a c = true := by
  rw [precedes_iff] at *
  rcases ab with ab | ⟨ab, low⟩ <;> rcases bc with bc | ⟨bc, high⟩
  · exact .inl (ab.trans bc)
  · exact .inl (bc ▸ ab)
  · exact .inl (ab ▸ bc)
  · exact .inr ⟨ab.trans bc, low.trans high⟩

theorem precedes_total (a b : Nat × String) : (precedes a b || precedes b a) = true := by
  rw [Bool.or_eq_true, precedes_iff, precedes_iff]
  rcases Nat.lt_trichotomy a.1 b.1 with less | same | more
  · exact .inl (.inl less)
  · rcases le_total a.2 b.2 with le | le
    · exact .inl (.inr ⟨same, le⟩)
    · exact .inr (.inr ⟨same.symm, le⟩)
  · exact .inr (.inl more)

/-- A known name with its distance from the one that is not known. -/
def scored (name known : String) : Nat × String :=
  (editDistance name.toList known.toList, known)

/-- The known names within the tolerance, nearer ones first and equally near ones alphabetically. -/
def ranking (name : String) (known : List String) : List String :=
  (known.filter fun k => decide ((scored name k).1 ≤ tolerance name)).mergeSort fun a b =>
    precedes (scored name a) (scored name b)

/-- The names may be put in order before their distances are written beside them. -/
theorem suggest_eq (name : String) (known : List String) :
    suggest name known = (ranking name known).take 3 := by
  have near : (known.map (scored name)).filter (fun e => decide (e.1 ≤ tolerance name)) =
      (known.filter fun k => decide ((scored name k).1 ≤ tolerance name)).map (scored name) :=
    List.filter_map
  have unscored : (·.2) ∘ scored name = id := rfl
  calc suggest name known
      = ((((known.map (scored name)).filter fun e => decide (e.1 ≤ tolerance name)).mergeSort
          precedes).take 3).map (·.2) := rfl
    _ = (((ranking name known).map (scored name)).take 3).map (·.2) := by
        rw [near, ranking, List.map_mergeSort (f := scored name) fun _ _ _ _ => rfl]
    _ = (ranking name known).take 3 := by
        rw [← List.map_take, List.map_map, unscored, List.map_id]

theorem ranking_perm (name : String) (known : List String) :
    (ranking name known).Perm (known.filter fun k => decide ((scored name k).1 ≤ tolerance name)) :=
  List.mergeSort_perm _ _

theorem pairwise_ranking (name : String) (known : List String) :
    (ranking name known).Pairwise fun a b =>
      (scored name a).1 < (scored name b).1 ∨ (scored name a).1 = (scored name b).1 ∧ a ≤ b := by
  have sorted : (ranking name known).Pairwise fun a b =>
      precedes (scored name a) (scored name b) = true :=
    List.pairwise_mergeSort
      (fun a b c => precedes_trans (scored name a) (scored name b) (scored name c))
      (fun a b => precedes_total (scored name a) (scored name b)) _
  exact sorted.imp precedes_iff.1

/-- The suggestions and what is left out behind them are the known names within the tolerance, as often
as each is known: nearer ones first and equally near ones alphabetically. There are three suggestions
where there are so many names, and otherwise nothing is left out. -/
theorem suggest_nearest (name : String) (known : List String) :
    ∃ distance : String → Nat,
      (∀ k, IsLeast {n | Edits n name.toList k.toList} (distance k)) ∧
        let near := known.filter fun k => decide (distance k ≤ if name.length ≤ 3 then 1 else 2)
        ∃ omitted : List String,
          (suggest name known ++ omitted).Perm near ∧
            (suggest name known ++ omitted).Pairwise
              (fun a b => distance a < distance b ∨ distance a = distance b ∧ a ≤ b) ∧
            (suggest name known).length = min 3 near.length := by
  have whole : suggest name known ++ (ranking name known).drop 3 = ranking name known := by
    rw [suggest_eq, List.take_append_drop]
  refine ⟨fun k => (scored name k).1, fun k => isLeast_editDistance _ _,
    (ranking name known).drop 3, ?_, ?_, ?_⟩
  · rw [whole]
    exact ranking_perm name known
  · rw [whole]
    exact pairwise_ranking name known
  · rw [suggest_eq, List.length_take, (ranking_perm name known).length_eq]
    rfl

end Figment
