import Figment.Placeholder
import Figment.Proofs.Random.Outcomes
import Mathlib.Data.List.Forall2
/-!
What can come out of a template.

The characters of a template are replaced one by one, so its texts are those that have its length and
hold, at every place, something that may stand for the character there. No source gives another text,
and each of these comes from some script: the scripts for its characters, one after the other.
-/

namespace Figment

namespace Draw

variable {α β : Type} {d : Draw α}

/-- What comes out of the draw are the values with the property: one of them from every source, and
each of them from some script. -/
def Outcomes (d : Draw α) (P : α → Prop) : Prop :=
  (∀ s, P (d s).1) ∧ ∀ a, P a → ∃ script, (d (Source.scripted script)).1 = a

/-- The same in a form that goes along with sequencing: whatever follows the script, it leads to the
value. -/
structure Gives (d : Draw α) (P : α → Prop) : Prop where
  always : d.Always P
  can : ∀ a, P a → d.Can a

theorem Gives.outcomes {P : α → Prop} (h : d.Gives P) : d.Outcomes P :=
  ⟨h.always, fun a ha => (h.can a ha).scripted⟩

theorem Gives.congr {P Q : α → Prop} (h : d.Gives P) (same : ∀ a, P a ↔ Q a) : d.Gives Q :=
  ⟨h.always.mono fun a => (same a).1, fun a ha => h.can a ((same a).2 ha)⟩

theorem gives_pure (a : α) : Gives (pure a) (· = a) := by
  refine ⟨always_pure rfl, ?_⟩
  rintro _ rfl
  exact can_pure _

theorem Gives.bind {f : α → Draw β} {P : α → Prop} {Q : α → β → Prop} (h : d.Gives P)
    (hf : ∀ a, P a → (f a).Gives (Q a)) : (d >>= f).Gives fun b => ∃ a, P a ∧ Q a b := by
  constructor
  · exact h.always.bind fun a ha => (hf a ha).always.mono fun b hb => ⟨a, ha, hb⟩
  · rintro b ⟨a, ha, hb⟩
    exact (h.can a ha).bind ((hf a ha).can b hb)

/-- A draw for each member of a list. -/
theorem gives_mapM {f : α → Draw β} {R : α → β → Prop} (h : ∀ a, (f a).Gives (R a)) (as : List α) :
    (as.mapM f).Gives (List.Forall₂ R as) := by
  induction as with
  | nil =>
    rw [List.mapM_nil]
    exact (gives_pure []).congr fun bs => by rw [List.forall₂_nil_left_iff]
  | cons a as ih =>
    rw [List.mapM_cons]
    refine ((h a).bind fun b _ => ih.bind fun bs _ => gives_pure (b :: bs)).congr fun cs => ?_
    simp only [List.forall₂_cons_left_iff, exists_and_left]

theorem gives_uniform {width n : Nat} (pos : 0 < n) (few : n ≤ 2 ^ (32 * width)) :
    (uniform width n).Gives (· < n) :=
  ⟨always_uniform pos, fun _ hv => can_uniform hv few⟩

/-- A character that is counted on from the first one of a range. -/
theorem gives_ofNat {first n : Nat} (last : Nat) {p : Char → Bool} (pos : 0 < n) (ascii : last < 128)
    (size : first + n = last + 1)
    (range : ∀ c, p c = true ↔ first ≤ c.toNat ∧ c.toNat ≤ last) :
    (do return Char.ofNat (first + (← uniform 1 n))).Gives fun c => p c = true := by
  refine ((gives_uniform pos (by omega)).bind fun i _ => gives_pure (Char.ofNat (first + i))).congr
    fun c => ?_
  rw [range]
  constructor
  · rintro ⟨i, less, rfl⟩
    have valid : (first + i).isValidChar := .inl (by omega)
    have code : (Char.ofNat (first + i)).toNat = first + i := by
      rw [Char.ofNat, dif_pos valid]
      rfl
    omega
  · rintro ⟨least, most⟩
    refine ⟨c.toNat - first, by omega, ?_⟩
    rw [Nat.add_sub_cancel' least, Char.ofNat_toNat]

end Draw

namespace Placeholder

open Draw (Gives)

theorem gives_digit : digit.Gives fun c => c.isDigit = true := by
  refine Draw.gives_ofNat 57 (by decide) (by decide) rfl fun c => ?_
  exact Bool.and_eq_true_iff.trans (and_congr decide_eq_true_iff decide_eq_true_iff)

theorem gives_lowercase : lowercase.Gives fun c => c.isLower = true := by
  refine Draw.gives_ofNat 122 (by decide) (by decide) rfl fun c => ?_
  exact Bool.and_eq_true_iff.trans (and_congr decide_eq_true_iff decide_eq_true_iff)

theorem gives_uppercase : uppercase.Gives fun c => c.isUpper = true :=
  Draw.gives_ofNat 90 (by decide) (by decide) rfl fun _ => decide_eq_true_iff

/-- Both sides of a coin come up: that of the pair of words zero, and that of the pair 2^63. -/
theorem gives_coin : coin.Gives fun _ => True := by
  have side {x : Nat} (few : x < 2 ^ (32 * 2)) : coin.Can (decide (x < Nat.pow 2 63)) :=
    Draw.can_tally.bind ((Draw.can_words few).bind (Draw.can_pure _))
  refine ⟨Draw.always_true coin, fun heads _ => ?_⟩
  cases heads with
  | false => exact side (x := 2 ^ 63) (by decide)
  | true => exact side (x := 0) (by decide)

/-- The ASCII letters of one case, or of both if none is given. -/
def IsLetter (upper : Option Bool) (c : Char) : Prop :=
  match upper with
  | some true => c.isUpper
  | some false => c.isLower
  | none => c.isUpper ∨ c.isLower

theorem gives_letter (upper : Option Bool) : (letter upper).Gives (IsLetter upper) := by
  have ofCase (b : Bool) : (if b then uppercase else lowercase).Gives (IsLetter (some b)) := by
    cases b with
    | false => exact gives_lowercase
    | true => exact gives_uppercase
  cases upper with
  | some b => exact ofCase b
  | none =>
    refine (gives_coin.bind fun b _ => ofCase b).congr fun c => ?_
    simp [IsLetter, or_comm]

/-- A digit may stand for a number sign, and every other character for itself. -/
def Numerified (c d : Char) : Prop :=
  if c = '#' then d.isDigit = true else d = c

/-- A letter may stand for a question mark. -/
def Letterified (upper : Option Bool) (c d : Char) : Prop :=
  if c = '?' then IsLetter upper d else d = c

def Bothified (upper : Option Bool) (c d : Char) : Prop :=
  if c = '#' then d.isDigit = true else if c = '?' then IsLetter upper d else d = c

/-- ASCII letters may stand for the letters of their case in any alphabet, and digits for digits. -/
def Examplified (c d : Char) : Prop :=
  if Unicode.isUppercase c then d.isUpper = true
  else if Unicode.isLowercase c then d.isLower = true
  else if c.isDigit then d.isDigit = true
  else d = c

theorem gives_numerify (template : List Char) :
    (numerify template).Gives (List.Forall₂ Numerified template) := by
  refine Draw.gives_mapM (fun c => ?_) template
  unfold Numerified
  split_ifs
  · exact gives_digit
  · exact Draw.gives_pure c

theorem gives_letterify (upper : Option Bool) (template : List Char) :
    (letterify upper template).Gives (List.Forall₂ (Letterified upper) template) := by
  refine Draw.gives_mapM (fun c => ?_) template
  unfold Letterified
  split_ifs
  · exact gives_letter upper
  · exact Draw.gives_pure c

theorem gives_bothify (upper : Option Bool) (template : List Char) :
    (bothify upper template).Gives (List.Forall₂ (Bothified upper) template) := by
  refine Draw.gives_mapM (fun c => ?_) template
  unfold Bothified
  split_ifs
  · exact gives_digit
  · exact gives_letter upper
  · exact Draw.gives_pure c

theorem gives_examplify (template : List Char) :
    (examplify template).Gives (List.Forall₂ Examplified template) := by
  refine Draw.gives_mapM (fun c => ?_) template
  unfold Examplified
  split_ifs
  · exact gives_uppercase
  · exact gives_lowercase
  · exact gives_digit
  · exact Draw.gives_pure c

/-- The texts that come out of a template are as long as it is, and differ from it only where a
placeholder stands, which every character of its kind can take the place of. -/
theorem template_outcomes (upper : Option Bool) (template : List Char) :
    (numerify template).Outcomes (List.Forall₂ Numerified template) ∧
      (letterify upper template).Outcomes (List.Forall₂ (Letterified upper) template) ∧
      (bothify upper template).Outcomes (List.Forall₂ (Bothified upper) template) ∧
      (examplify template).Outcomes (List.Forall₂ Examplified template) :=
  ⟨(gives_numerify template).outcomes, (gives_letterify upper template).outcomes,
    (gives_bothify upper template).outcomes, (gives_examplify template).outcomes⟩

end Placeholder

end Figment
