import Figment.Pattern.Basic
import Mathlib.Computability.Language
/-!
The language of a pattern: which strings it describes, said without any generator.

A class denotes characters, an atom denotes strings, a piece so many of them as its bounds allow, a
run one after the other, and a pattern what one of its alternatives denotes. `candidates` is shown
to list exactly the characters that a class denotes.
-/

namespace Figment

/-- Printable ASCII. -/
def IsPrintable (c : Char) : Prop :=
  ' ' ≤ c ∧ c ≤ '~'

/-- The characters that an item adds to a class: all of a range, and those of a shorthand that are
printable or one of the two blanks besides the space. -/
def ClassItem.Adds : ClassItem → Char → Prop
  | range first last, c => first ≤ c ∧ c ≤ last
  | shorthand s, c => s.contains c = true ∧ (IsPrintable c ∨ c = '\t' ∨ c = '\n')

/-- The characters that a negated class loses to an item. -/
def ClassItem.Removes : ClassItem → Char → Prop
  | range first last, c => first ≤ c ∧ c ≤ last
  | shorthand s, c => s.contains c = true

/-- The characters of a class. -/
def CharClass.Denotes (k : CharClass) (c : Char) : Prop :=
  if k.negated then IsPrintable c ∧ ∀ item ∈ k.items, ¬ item.Removes c
  else ∃ item ∈ k.items, item.Adds c

mutual

/-- The strings of one copy of an atom. -/
def Atom.language : Atom → Language Char
  | .literal c => {[c]}
  | .set k => {s | ∃ c, k.Denotes c ∧ s = [c]}
  | .any => {s | ∃ c, IsPrintable c ∧ s = [c]}
  | .anchor => 1
  | .group p => Pattern.language p

/-- The strings of a piece: copies of its atom, each chosen on its own. -/
def Piece.language : Piece → Language Char
  | .mk atom least most => {s | ∃ n, least.toNat ≤ n ∧ n ≤ most.toNat ∧ s ∈ atom.language ^ n}

def Pattern.runLanguage : List Piece → Language Char
  | [] => 1
  | p :: ps => p.language * Pattern.runLanguage ps

def Pattern.language : Pattern → Language Char
  | [] => 0
  | ps :: rest => Pattern.runLanguage ps + Pattern.language rest

end

theorem mem_charsBetween {first last : Nat} {c : Char} :
    c ∈ charsBetween first last ↔ first ≤ c.toNat ∧ c.toNat ≤ last := by
  rw [charsBetween, List.mem_filterMap]
  constructor
  · rintro ⟨n, hn, hc⟩
    rw [List.mem_range'_1] at hn
    by_cases valid : n.isValidChar
    · rw [dif_pos valid] at hc
      obtain rfl := Option.some.inj hc
      change first ≤ n ∧ n ≤ last
      omega
    · rw [dif_neg valid] at hc
      cases hc
  · intro h
    refine ⟨c.toNat, ?_, ?_⟩
    · rw [List.mem_range'_1]
      omega
    · exact dif_pos c.valid

theorem mem_printable {c : Char} : c ∈ printable ↔ IsPrintable c :=
  mem_charsBetween

theorem mem_dropRepeats {c : Char} {cs : List Char} : c ∈ dropRepeats cs ↔ c ∈ cs := by
  induction cs with
  | nil => rfl
  | cons d rest ih =>
    change c ∈ (if (dropRepeats rest).head? = some d then dropRepeats rest
      else d :: dropRepeats rest) ↔ _
    split
    · next repeated =>
      rw [List.mem_cons, ih]
      refine ⟨.inr, ?_⟩
      rintro (rfl | later)
      · exact ih.1 (List.mem_of_head? repeated)
      · exact later
    · rw [List.mem_cons, List.mem_cons, ih]

theorem mem_members {item : ClassItem} {c : Char} : c ∈ item.members ↔ item.Adds c := by
  cases item with
  | range first last => exact mem_charsBetween
  | shorthand s =>
    rw [ClassItem.members, List.mem_filter, List.mem_cons, List.mem_cons, mem_printable]
    unfold ClassItem.Adds
    tauto

theorem contains_iff {item : ClassItem} {c : Char} : item.contains c = true ↔ item.Removes c := by
  cases item with
  | range first last => simp [ClassItem.contains, ClassItem.Removes]
  | shorthand s => rfl

theorem mem_candidates {k : CharClass} {c : Char} : c ∈ k.candidates ↔ k.Denotes c := by
  unfold CharClass.candidates CharClass.Denotes
  split
  · simp only [List.mem_filter, mem_printable, CharClass.mentions, Bool.not_eq_true',
      List.any_eq_false, contains_iff]
  · simp only [mem_dropRepeats, List.mem_mergeSort, List.mem_flatMap, mem_members]

theorem candidates_eq_nil_iff {k : CharClass} : k.candidates = [] ↔ ¬ ∃ c, k.Denotes c := by
  simp only [List.eq_nil_iff_forall_not_mem, mem_candidates, not_exists]

theorem toArray_candidates_ne {k : CharClass} (h : ∃ c, k.Denotes c) :
    k.candidates.toArray ≠ #[] := by
  simpa using mt candidates_eq_nil_iff.1 (not_not_intro h)

end Figment
