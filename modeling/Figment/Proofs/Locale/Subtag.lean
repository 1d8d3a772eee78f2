import Mathlib
import Figment.Locale
/-!
The subtags of a locale.

Subtags are read without regard to case: what is read are the letters and digits that are there, in
the case that is normal for the kind of subtag. The three kinds that may follow a language do not
meet, so a subtag never has two readings in one place.
-/

namespace Figment.Locale

theorem isDigit_eq_false_of_isAlpha {c : Char} (h : c.isAlpha = true) : c.isDigit = false := by
  apply Bool.eq_false_iff.2
  intro digit
  simp only [Char.isAlpha, Char.isUpper, Char.isLower, Char.isDigit, Bool.or_eq_true,
    Bool.and_eq_true, decide_eq_true_eq, ge_iff_le, UInt32.le_iff_toNat_le] at h digit
  change (65 ≤ c.toNat ∧ c.toNat ≤ 90) ∨ (97 ≤ c.toNat ∧ c.toNat ≤ 122) at h
  change 48 ≤ c.toNat ∧ c.toNat ≤ 57 at digit
  omega

theorem toLower_eq_self {c : Char} (h : c.isAlpha = false) : c.toLower = c := by
  apply Char.toLower_eq_of_not_isUpper
  rw [(Bool.or_eq_false_iff.1 h).1]
  exact Bool.false_ne_true

theorem toLower_eq_iff {c d : Char} (h : d.isAlpha = false) : c.toLower = d ↔ c = d := by
  constructor
  · intro eq
    have other : c.isAlpha = false := by rw [← Char.isAlpha_toLower_eq_isAlpha, eq, h]
    rwa [toLower_eq_self other] at eq
  · rintro rfl
    exact toLower_eq_self h

/-- A property that is the same for all letters does not depend on case. -/
theorem apply_toLower {α : Type} {f : Char → α} {a : α} (h : ∀ c : Char, c.isAlpha = true → f c = a)
    (c : Char) : f c.toLower = f c := by
  cases alpha : c.isAlpha with
  | true => rw [h c alpha, h c.toLower (by rw [Char.isAlpha_toLower_eq_isAlpha, alpha])]
  | false => rw [toLower_eq_self alpha]

theorem isDigit_toLower (c : Char) : c.toLower.isDigit = c.isDigit :=
  apply_toLower (fun _ => isDigit_eq_false_of_isAlpha) c

theorem isAlphanum_toLower (c : Char) : c.toLower.isAlphanum = c.isAlphanum := by
  rw [Char.isAlphanum, Char.isAlphanum, Char.isAlpha_toLower_eq_isAlpha, isDigit_toLower]

theorem isAlphanum_of_isAlpha {c : Char} (h : c.isAlpha = true) : c.isAlphanum = true := by
  rw [Char.isAlphanum, h, Bool.true_or]

theorem isAlphanum_of_isDigit {c : Char} (h : c.isDigit = true) : c.isAlphanum = true := by
  rw [Char.isAlphanum, h, Bool.or_true]

/-- A reader of subtags to which case does not matter, and which finds what is there up to case. -/
structure CaseBlind (reader : List Char → Option (List Char)) : Prop where
  lower : ∀ s, reader (s.map Char.toLower) = reader s
  spells : ∀ {s t}, reader s = some t → t.map Char.toLower = s.map Char.toLower
  plain : ∀ {s t}, reader s = some t → ∀ c ∈ s, c.isAlphanum = true

/-- What has been read is in its normal form, and is read as it is. -/
theorem CaseBlind.settled {reader : List Char → Option (List Char)} (h : CaseBlind reader)
    {s t : List Char} (read : reader s = some t) : reader t = some t := by
  rw [← h.lower, h.spells read, h.lower, read]

section Lists

variable {reader : List Char → Option (List Char)} (h : CaseBlind reader) {ss ts : List (List Char)}
  (reads : List.Forall₂ (fun s t => reader s = some t) ss ts)

include h reads

theorem CaseBlind.settled_all : ∀ t ∈ ts, reader t = some t := by
  induction reads with
  | nil => exact fun _ ht => absurd ht List.not_mem_nil
  | cons read _ ih => exact List.forall_mem_cons.2 ⟨h.settled read, ih⟩

theorem CaseBlind.spells_all :
    ts.map (List.map Char.toLower) = ss.map (List.map Char.toLower) := by
  induction reads with
  | nil => rfl
  | cons read _ ih => rw [List.map_cons, List.map_cons, h.spells read, ih]

theorem CaseBlind.plain_all : ∀ s ∈ ss, ∀ c ∈ s, c.isAlphanum = true := by
  induction reads with
  | nil => exact fun _ hs => absurd hs List.not_mem_nil
  | cons read _ ih => exact List.forall_mem_cons.2 ⟨h.plain read, ih⟩

end Lists

theorem rel_iff_forall₂_toList {α β : Type} {r : α → β → Prop} {a : Option α} {b : Option β} :
    Option.Rel r a b ↔ List.Forall₂ r a.toList b.toList := by
  cases a <;> cases b <;> simp

theorem caseBlind_language : CaseBlind language? where
  lower s := by simp [language?, Function.comp_def]
  spells {s t} h := by
    unfold language? at h
    split at h <;> cases h
    simp
  plain {s t} h c hc := by
    unfold language? at h
    split at h
    · next shape => exact isAlphanum_of_isAlpha (List.all_eq_true.1 shape.2 c hc)
    · cases h

theorem caseBlind_script : CaseBlind script? where
  lower s := by simp [script?, Function.comp_def, ← List.map_take, ← List.map_drop]
  spells {s t} h := by
    unfold script? at h
    split at h <;> cases h
    simp only [List.map_append, List.map_map, Function.comp_def, Char.toLower_toUpper_eq_toLower,
      Char.toLower_toLower_eq_toLower]
    rw [← List.map_append, List.take_append_drop]
  plain {s t} h c hc := by
    unfold script? at h
    split at h
    · next shape => exact isAlphanum_of_isAlpha (List.all_eq_true.1 shape.2 c hc)
    · cases h

theorem caseBlind_region : CaseBlind region? where
  lower s := by simp [region?, Function.comp_def, isDigit_toLower]
  spells {s t} h := by
    unfold region? at h
    split at h <;> cases h
    simp
  plain {s t} h c hc := by
    unfold region? at h
    split at h
    · next shape =>
      rcases shape with ⟨_, letters⟩ | ⟨_, digits⟩
      · exact isAlphanum_of_isAlpha (List.all_eq_true.1 letters c hc)
      · exact isAlphanum_of_isDigit (List.all_eq_true.1 digits c hc)
    · cases h

theorem caseBlind_variant : CaseBlind variant? where
  lower s := by cases s <;> simp [variant?, Function.comp_def, isDigit_toLower, isAlphanum_toLower]
  spells {s t} h := by
    unfold variant? at h
    split at h <;> cases h
    simp
  plain {s t} h c hc := by
    unfold variant? at h
    split at h
    · next shape => exact List.all_eq_true.1 shape.1 c hc
    · cases h

theorem script?_of_region {s r : List Char} (h : region? s = some r) : script? s = none := by
  unfold region? at h
  split at h
  · next shape =>
    have short : s.length ≠ 4 := by omega
    exact if_neg fun other => short other.1
  · cases h

theorem region?_of_variant {s v : List Char} (h : variant? s = some v) : region? s = none := by
  unfold variant? at h
  split at h
  · next shape =>
    have long : 4 ≤ s.length := by omega
    exact if_neg fun other => by omega
  · cases h

theorem script?_of_variant {s v : List Char} (h : variant? s = some v) : script? s = none := by
  unfold variant? at h
  split at h
  · next shape =>
    refine if_neg fun ⟨four, letters⟩ => ?_
    rcases shape.2 with long | ⟨_, digit⟩
    · omega
    · cases s with
      | nil => cases four
      | cons c rest =>
        have letter : c.isAlpha = true := List.all_eq_true.1 letters c List.mem_cons_self
        simp [isDigit_eq_false_of_isAlpha letter] at digit
  · cases h

end Figment.Locale
