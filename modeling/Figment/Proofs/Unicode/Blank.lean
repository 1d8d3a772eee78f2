import Figment.Proofs.Span
import Figment.Unicode.Blank
import Mathlib.Data.List.DropRight
/-!
White space at the ends of a text.

What is trimmed off is white space only, white space that is added is trimmed off again, and a text
with something else at both ends is left as it is.
-/

namespace Figment.Unicode

/-- The code points of a run, one by one. -/
def Run.codes (r : Run) : List Nat :=
  List.range' r.first ((r.last - r.first) / r.step + 1) r.step

theorem Run.mem_codes {r : Run} {n : Nat} (h : r.contains n = true) : n ∈ r.codes := by
  simp only [contains, Bool.and_eq_true, decide_eq_true_eq, beq_iff_eq] at h
  obtain ⟨⟨least, most⟩, steps⟩ := h
  refine List.mem_range'.2 ⟨(n - r.first) / r.step, ?_, ?_⟩
  · exact Nat.lt_succ_of_le (Nat.div_le_div_right (by omega))
  · have whole := Nat.div_add_mod (n - r.first) r.step
    omega

/-- What holds of every code point in a table holds of the characters in the table. -/
theorem forall_of_inTable {table : List Run} {p : Char → Prop}
    (h : ∀ n ∈ table.flatMap Run.codes, p (Char.ofNat n)) {c : Char} (hc : inTable table c = true) :
    p c := by
  obtain ⟨r, mem, hit⟩ := List.any_eq_true.1 hc
  simpa using h c.toNat (List.mem_flatMap.2 ⟨r, mem, Run.mem_codes hit⟩)

theorem isBlank_of_isAlphanum {c : Char} (h : c.isAlphanum = true) : isBlank c = false := by
  have none : ∀ n ∈ blankRuns.flatMap Run.codes, (Char.ofNat n).isAlphanum = false := by
    decide +kernel
  apply Bool.eq_false_iff.2
  intro blank
  rw [@forall_of_inTable _ (fun c => c.isAlphanum = false) none c blank] at h
  cases h

theorem trim_eq (s : List Char) : trim s = (s.dropWhile isBlank).rdropWhile isBlank :=
  rfl

theorem trim_append {front back : List Char} (ne : back ≠ [])
    (first : ∀ c ∈ back.head?, isBlank c = false) (last : ∀ c ∈ back.getLast?, isBlank c = false) :
    trim (front ++ back) = front.dropWhile isBlank ++ back := by
  have left : (front ++ back).dropWhile isBlank = front.dropWhile isBlank ++ back := by
    rw [List.dropWhile_append]
    split
    · next blank => rw [List.isEmpty_iff.1 blank, dropWhile_eq_self first, List.nil_append]
    · rfl
  rw [trim, left, List.reverse_append, dropWhile_eq_self, List.reverse_append, List.reverse_reverse,
    List.reverse_reverse]
  intro c hc
  rw [List.head?_append_of_ne_nil _ (by simpa using ne), List.head?_reverse] at hc
  exact last c hc

theorem trim_eq_self {s : List Char} (h : ∀ c ∈ s, isBlank c = false) : trim s = s := by
  by_cases ne : s = []
  · rw [ne]
    rfl
  · exact @trim_append [] s ne (fun c hc => h c (List.mem_of_mem_head? hc))
      fun c hc => h c (List.mem_of_mem_getLast? hc)

theorem trim_blanks {before after : List Char} (hb : ∀ c ∈ before, isBlank c = true)
    (ha : ∀ c ∈ after, isBlank c = true) (s : List Char) :
    trim (before ++ (s ++ after)) = trim s := by
  have gone : after.dropWhile isBlank = [] := List.dropWhile_eq_nil_iff.2 ha
  rw [trim, List.dropWhile_append_of_pos hb, List.dropWhile_append, trim]
  split
  · next blank => rw [List.isEmpty_iff.1 blank, gone]
  · rw [List.reverse_append, List.dropWhile_append_of_pos fun c hc => ha c (List.mem_reverse.1 hc)]

theorem exists_trim (s : List Char) :
    ∃ before after, (∀ c ∈ before, isBlank c = true) ∧ (∀ c ∈ after, isBlank c = true) ∧
      s = before ++ (trim s ++ after) := by
  refine ⟨s.takeWhile isBlank, (s.dropWhile isBlank).rtakeWhile isBlank, ?_, ?_, ?_⟩
  · exact fun c => List.mem_takeWhile_imp
  · exact fun c => List.mem_rtakeWhile_imp
  · rw [trim_eq, List.rdropWhile_append_rtakeWhile, List.takeWhile_append_dropWhile]

theorem trim_map {f : Char → Char} (h : ∀ c, isBlank (f c) = isBlank c) (s : List Char) :
    trim (s.map f) = (trim s).map f := by
  have same : isBlank ∘ f = isBlank := funext h
  rw [trim, List.dropWhile_map, same, ← List.map_reverse, List.dropWhile_map, same,
    ← List.map_reverse, trim]

end Figment.Unicode
