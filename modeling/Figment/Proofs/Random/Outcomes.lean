import Figment.Random.Choice
import Mathlib.Tactic.Ring
/-!
What can come out of a draw.

`Draw.Always` says that a draw gives values of a kind from every source, `Draw.Can` that some finite
script of words leads to a value, whatever follows the script. Both go along with sequencing, so the
outcomes of a generator are found by following its text. The basic choices are settled here: each
gives exactly the values that it is meant to give.
-/

namespace Figment

/-- The words that the source gives next are those of the script. -/
def Source.Begins (s : Source) (script : List UInt32) : Prop :=
  ∀ (i : Nat) (h : i < script.length), s.word (s.used + i) = script[i]

theorem Source.begins_scripted (script : List UInt32) : (Source.scripted script).Begins script := by
  intro i h
  simp [Source.scripted, h]

theorem Source.Begins.left {s : Source} {script more : List UInt32} (h : s.Begins (script ++ more)) :
    s.Begins script := by
  intro i hi
  rw [h i (by simp; omega), List.getElem_append_left hi]

/-- Behind the first part of a script the source begins with the second part. -/
theorem Source.Begins.right {s t : Source} {script more : List UInt32}
    (h : s.Begins (script ++ more)) (hw : t.word = s.word) (hu : t.used = s.used + script.length) :
    t.Begins more := by
  intro i hi
  have at_i := h (script.length + i) (by simp; omega)
  rw [hw, hu, Nat.add_assoc, at_i, List.getElem_append_right (Nat.le_add_right _ _)]
  simp

namespace Draw

variable {α β : Type}

/-- From every source the draw gives a value with the property. -/
def Always (d : Draw α) (P : α → Prop) : Prop :=
  ∀ s, P (d s).1

/-- From a source that begins with the script, the draw gives the value and uses up the script. -/
def Follows (d : Draw α) (script : List UInt32) (a : α) : Prop :=
  ∀ s : Source, s.Begins script →
    (d s).1 = a ∧ (d s).2.word = s.word ∧ (d s).2.used = s.used + script.length

/-- Some script leads to the value. -/
def Can (d : Draw α) (a : α) : Prop :=
  ∃ script, d.Follows script a

theorem Can.scripted {d : Draw α} {a : α} (h : d.Can a) :
    ∃ script, (d (Source.scripted script)).1 = a := by
  obtain ⟨script, h⟩ := h
  exact ⟨script, (h _ (Source.begins_scripted script)).1⟩

theorem Always.mono {d : Draw α} {P Q : α → Prop} (h : d.Always P) (imp : ∀ a, P a → Q a) :
    d.Always Q :=
  fun s => imp _ (h s)

theorem always_pure {a : α} {P : α → Prop} (h : P a) : Always (pure a) P :=
  fun _ => h

theorem always_true (d : Draw α) : d.Always fun _ => True :=
  fun _ => trivial

theorem Always.bind {d : Draw α} {f : α → Draw β} {P : α → Prop} {Q : β → Prop}
    (h : d.Always P) (hf : ∀ a, P a → (f a).Always Q) : (d >>= f).Always Q :=
  fun s => hf _ (h s) (d s).2

theorem Always.map {d : Draw α} {f : α → β} {Q : β → Prop} (h : d.Always fun a => Q (f a)) :
    (f <$> d).Always Q :=
  fun s => h s

theorem can_pure (a : α) : Can (pure a) a :=
  ⟨[], fun _ _ => ⟨rfl, rfl, rfl⟩⟩

theorem Can.bind {d : Draw α} {f : α → Draw β} {a : α} {b : β} (h : d.Can a) (hf : (f a).Can b) :
    (d >>= f).Can b := by
  obtain ⟨first, h⟩ := h
  obtain ⟨second, hf⟩ := hf
  refine ⟨first ++ second, fun s hs => ?_⟩
  obtain ⟨value, word, used⟩ := h s hs.left
  have later := hf (d s).2 (hs.right word used)
  change (f (d s).1 (d s).2).1 = b ∧ (f (d s).1 (d s).2).2.word = s.word ∧
    (f (d s).1 (d s).2).2.used = s.used + (first ++ second).length
  rw [value]
  refine ⟨later.1, later.2.1.trans word, ?_⟩
  rw [later.2.2, used, List.length_append, Nat.add_assoc]

theorem Can.map {d : Draw α} {f : α → β} {a : α} (h : d.Can a) : (f <$> d).Can (f a) := by
  obtain ⟨script, h⟩ := h
  exact ⟨script, fun s hs => ⟨congrArg f (h s hs).1, (h s hs).2⟩⟩

theorem can_tally : tally.Can () :=
  ⟨[], fun _ _ => ⟨rfl, rfl, rfl⟩⟩

theorem can_word (w : UInt32) : word.Can w := by
  refine ⟨[w], fun s hs => ⟨?_, rfl, rfl⟩⟩
  exact hs 0 Nat.zero_lt_one

theorem always_words (n : Nat) : (words n).Always (· < 2 ^ (32 * n)) := by
  intro s
  induction n generalizing s with
  | zero => exact Nat.one_pos
  | succ n ih =>
    have low := (s.word s.used).toNat_lt
    have high := ih s.advance
    rw [words_succ]
    calc (s.word s.used).toNat + 2 ^ 32 * (words n s.advance).1
        < 2 ^ 32 * ((words n s.advance).1 + 1) := by omega
      _ ≤ 2 ^ 32 * 2 ^ (32 * n) := Nat.mul_le_mul_left _ high
      _ = 2 ^ (32 * (n + 1)) := by rw [← Nat.pow_add]; congr 1; omega

/-- Every number with so many words is read off the words that are its digits. -/
theorem can_words {n x : Nat} (h : x < 2 ^ (32 * n)) : (words n).Can x := by
  induction n generalizing x with
  | zero =>
    obtain rfl : x = 0 := by omega
    exact can_pure 0
  | succ n ih =>
    have high : x / 2 ^ 32 < 2 ^ (32 * n) := by
      apply Nat.div_lt_of_lt_mul
      rwa [← Nat.pow_add, Nat.add_comm 32, ← Nat.mul_succ]
    have digits : (UInt32.ofNat x).toNat + 2 ^ 32 * (x / 2 ^ 32) = x := by
      rw [UInt32.toNat_ofNat']
      exact Nat.mod_add_div x (2 ^ 32)
    have run := (can_word (.ofNat x)).bind
      (f := fun low => do return low.toNat + 2 ^ 32 * (← words n))
      ((ih high).bind (can_pure ((UInt32.ofNat x).toNat + 2 ^ 32 * (x / 2 ^ 32))))
    rwa [digits] at run

/-- A unit scaled to the bound, with what a second unit can add to it, stays below the bound. -/
theorem scaled_lt {units n x y : Nat} (hx : x < units) (hy : y < units) (hn : 0 < n) :
    x * n + y * n / units < units * n := by
  have small : y * n / units < n := by
    apply Nat.div_lt_of_lt_mul
    exact Nat.mul_lt_mul_of_pos_right hy hn
  calc x * n + y * n / units < x * n + n := by omega
    _ = (x + 1) * n := by ring
    _ ≤ units * n := Nat.mul_le_mul_right n hx

theorem always_uniform {width n : Nat} (hn : 0 < n) : (uniform width n).Always (· < n) := by
  have first {x : Nat} (hx : x < 2 ^ (32 * width)) : x * n / 2 ^ (32 * width) < n := by
    apply Nat.div_lt_of_lt_mul
    exact Nat.mul_lt_mul_of_pos_right hx hn
  refine (always_true tally).bind fun _ _ => (always_words width).bind fun x hx => ?_
  simp only [Nat.pow_eq]
  split
  · refine (always_words width).bind fun y hy => always_pure ?_
    split
    · -- the fractions of both units together make up one more
      next carry =>
      have bound := scaled_lt hx hy hn
      have split_x := Nat.div_add_mod (x * n) (2 ^ (32 * width))
      by_contra above
      have := Nat.mul_le_mul_left (2 ^ (32 * width)) (Nat.not_lt.1 above)
      rw [Nat.mul_add, Nat.mul_one] at this
      omega
    · exact first hx
  · exact always_pure (first hx)

/-- The least unit that, scaled to the bound, reaches a value has this value as its whole part. -/
theorem least_unit {units n v : Nat} (hv : v < n) (hn : n ≤ units) :
    ∃ x < units, x * n / units = v := by
  have pos : 0 < n := Nat.zero_lt_of_lt hv
  refine ⟨(v * units + (n - 1)) / n, ?_, ?_⟩
  · apply Nat.div_lt_of_lt_mul
    have := Nat.mul_le_mul_right units (Nat.succ_le_of_lt hv)
    rw [Nat.succ_mul] at this
    omega
  · have whole := Nat.div_add_mod (v * units + (n - 1)) n
    have rest := Nat.mod_lt (v * units + (n - 1)) pos
    rw [Nat.mul_comm n] at whole
    apply Nat.div_eq_of_lt_le
    · omega
    · rw [Nat.succ_mul]
      omega

theorem can_uniform {width n v : Nat} (hv : v < n) (hn : n ≤ 2 ^ (32 * width)) :
    (uniform width n).Can v := by
  obtain ⟨x, hx, value⟩ := least_unit hv hn
  refine can_tally.bind ((can_words hx).bind ?_)
  simp only [Nat.pow_eq]
  split
  · -- a second unit of zero adds nothing to the fraction
    refine (can_words (x := 0) (Nat.two_pow_pos _)).bind ?_
    have fraction := Nat.mod_lt (x * n) (Nat.two_pow_pos (32 * width))
    rw [Nat.zero_mul, Nat.zero_div, Nat.add_zero, if_neg (Nat.not_le.2 fraction), value]
    exact can_pure v
  · rw [value]
    exact can_pure v

theorem always_below {n : Nat} (hn : 0 < n) : (below n).Always (· < n) :=
  always_uniform hn

theorem can_below {n v : Nat} (hv : v < n) : (below n).Can v := by
  refine can_uniform hv (Nat.le_of_lt (Nat.lt_log2_self.trans_le ?_))
  exact Nat.pow_le_pow_right Nat.two_pos (by omega)

theorem always_repetition {least most : UInt32} (h : least ≤ most) :
    (repetition least most).Always fun n => least.toNat ≤ n ∧ n ≤ most.toNat := by
  have le := UInt32.le_iff_toNat_le.1 h
  rw [repetition, if_neg (UInt32.not_lt.2 h)]
  refine ((always_uniform (Nat.succ_pos _)).mono fun a ha => ?_).map
  omega

theorem can_repetition {least most : UInt32} {n : Nat} (hl : least.toNat ≤ n)
    (hm : n ≤ most.toNat) : (repetition least most).Can n := by
  have bound := most.toNat_lt
  have le : least ≤ most := UInt32.le_iff_toNat_le.2 (hl.trans hm)
  have run : (uniform 1 (most.toNat - least.toNat + 1)).Can (n - least.toNat) :=
    can_uniform (by omega) (by omega)
  rw [repetition, if_neg (UInt32.not_lt.2 le)]
  simpa only [Nat.add_sub_cancel' hl] using run.map (f := (least.toNat + ·))

theorem always_unbiased {threshold n : Nat} (hn : 0 < n) (fuel : Nat) :
    (unbiased threshold n fuel).Always (· < n) := by
  induction fuel with
  | zero => exact always_pure (Nat.sub_one_lt hn.ne')
  | succ fuel ih =>
    intro s
    have small : (s.word s.used).toNat * n / 2 ^ 32 < n := by
      apply Nat.div_lt_of_lt_mul
      exact Nat.mul_lt_mul_of_pos_right (s.word s.used).toNat_lt hn
    have step : (unbiased threshold n (fuel + 1) s) =
        (if threshold ≤ (s.word s.used).toNat * n % 2 ^ 32 then
          (pure ((s.word s.used).toNat * n / 2 ^ 32) : Draw Nat)
        else unbiased threshold n fuel) s.advance := rfl
    rw [step]
    split
    · exact small
    · exact ih s.advance

/-- The least word that brings the number to a character, with a fraction that is not refused. -/
theorem can_unbiased {v fuel : Nat} (hv : v < 95) :
    (unbiased (2 ^ 32 % 95) 95 (fuel + 1)).Can v := by
  obtain ⟨w, hw⟩ : ∃ w, w = (v * 2 ^ 32 + 100) / 95 := ⟨_, rfl⟩
  have same : (UInt32.ofNat w).toNat = w := by
    rw [UInt32.toNat_ofNat']
    omega
  obtain ⟨fraction, whole, least, most⟩ :
      ∃ f, w * 95 = 2 ^ 32 * v + f ∧ 6 ≤ f ∧ f ≤ 100 :=
    ⟨w * 95 - 2 ^ 32 * v, by omega, by omega, by omega⟩
  have small : fraction < 2 ^ 32 := by omega
  have kept : 2 ^ 32 % 95 ≤ w * 95 % 2 ^ 32 := by
    rw [whole, Nat.mul_add_mod, Nat.mod_eq_of_lt small]
    exact least
  have value : w * 95 / 2 ^ 32 = v := by
    rw [whole, Nat.mul_add_div (Nat.two_pow_pos 32), Nat.div_eq_of_lt small, Nat.add_zero]
  refine (can_word (.ofNat w)).bind ?_
  simp only [Nat.pow_eq]
  rw [same, if_pos kept, value]
  exact can_pure v

theorem always_printable : printable.Always fun c => ' ' ≤ c ∧ c ≤ '~' := by
  refine (always_true tally).bind fun _ _ => (always_unbiased (by decide) _).bind fun n hn => ?_
  have valid : (0x20 + n).isValidChar := .inl (by omega)
  have code : (Char.ofNat (0x20 + n)).toNat = 0x20 + n := by
    rw [Char.ofNat, dif_pos valid]
    rfl
  have bounds : 32 ≤ (Char.ofNat (0x20 + n)).toNat ∧ (Char.ofNat (0x20 + n)).toNat ≤ 126 := by omega
  exact always_pure bounds

theorem can_printable {c : Char} (h : ' ' ≤ c ∧ c ≤ '~') : printable.Can c := by
  have bounds : 32 ≤ c.toNat ∧ c.toNat ≤ 126 := h
  have offset : c.toNat - 32 < 95 := by omega
  have fuel : maxRefusals = (maxRefusals - 1) + 1 := rfl
  refine can_tally.bind ((fuel ▸ can_unbiased offset).bind ?_)
  rw [show 0x20 + (c.toNat - 32) = c.toNat by omega, Char.ofNat_toNat]
  exact can_pure c

theorem always_member? {items : Array α} (h : items ≠ #[]) :
    (member? items).Always fun a => ∃ x ∈ items, a = some x := by
  rw [member?, if_neg (by simpa using h)]
  refine (always_below (Array.size_pos_iff.2 h)).bind fun i hi => always_pure ?_
  exact ⟨items[i], Array.getElem_mem hi, Array.getElem?_eq_getElem hi⟩

theorem can_member? {items : Array α} {x : α} (h : x ∈ items) : (member? items).Can (some x) := by
  obtain ⟨i, hi, rfl⟩ := Array.getElem_of_mem h
  rw [member?, if_neg (by simpa using Array.ne_empty_of_mem h)]
  refine (can_below hi).bind ?_
  rw [Array.getElem?_eq_getElem hi]
  exact can_pure _

end Draw

end Figment
