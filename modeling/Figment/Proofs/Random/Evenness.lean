import Figment.Proofs.Random.Outcomes
import Mathlib.Data.Set.Card
import Mathlib.Order.Interval.Finset.Nat
/-!
How evenly numbers are drawn.

A number below a bound is read off one unit of words, or off two where the first does not decide it.
Either way it is the whole part of both units, read as one number and scaled to the bound. So the values
divide the numbers of two units among them as evenly as can be: no value has two numbers more than
another one. This holds up to the largest bound that a unit allows, and so for whole numbers between any
two limits of 64 bits.
-/

namespace Figment

namespace Draw

variable {α : Type}

/-- The next two units as one number, the first of them being its high part. -/
def twoUnits (width : Nat) : Draw Nat := do
  let high ← words width
  let low ← words width
  return high * 2 ^ (32 * width) + low

/-- What the words read do not depend on is how many choices were made before. -/
theorem fst_words_congr {n : Nat} {s t : Source} (word : s.word = t.word) (used : s.used = t.used) :
    (words n s).1 = (words n t).1 := by
  induction n generalizing s t with
  | zero => rfl
  | succ n ih =>
    have rest : (words n s.advance).1 = (words n t.advance).1 := ih word (congrArg (· + 1) used)
    rw [words_succ, words_succ, rest, word, used]

theorem always_twoUnits (width : Nat) : (twoUnits width).Always (· < 2 ^ (2 * (32 * width))) := by
  refine (always_words width).bind fun high hhigh => (always_words width).bind fun low hlow =>
    always_pure ?_
  calc high * 2 ^ (32 * width) + low
      < (high + 1) * 2 ^ (32 * width) := by rw [Nat.succ_mul high]; omega
    _ ≤ 2 ^ (32 * width) * 2 ^ (32 * width) := Nat.mul_le_mul_right _ hhigh
    _ = 2 ^ (2 * (32 * width)) := by rw [← Nat.pow_add, Nat.two_mul]

theorem can_twoUnits {width x : Nat} (h : x < 2 ^ (2 * (32 * width))) : (twoUnits width).Can x := by
  have high : x / 2 ^ (32 * width) < 2 ^ (32 * width) := by
    apply Nat.div_lt_of_lt_mul
    rwa [← Nat.pow_add, ← Nat.two_mul]
  have low : x % 2 ^ (32 * width) < 2 ^ (32 * width) := Nat.mod_lt x (Nat.two_pow_pos _)
  have run := (can_words high).bind (f := fun high => do
      return high * 2 ^ (32 * width) + (← words width))
    ((can_words low).bind (can_pure (x / 2 ^ (32 * width) * 2 ^ (32 * width) + x % 2 ^ (32 * width))))
  rwa [Nat.div_add_mod'] at run

theorem carry_eq {units fraction finer : Nat} (h : fraction < units) (h' : finer < units) :
    (fraction + finer) / units = if units ≤ fraction + finer then 1 else 0 := by
  split_ifs with carry
  · exact Nat.div_eq_of_lt_le (by omega) (by omega)
  · exact Nat.div_eq_of_lt (by omega)

/-- A first unit that leaves no room for a carry is not changed by a second one, and where a second one
is read its carry is that of both units together. -/
theorem scaled_units {units n x y : Nat} (pos : 0 < n) (hn : n ≤ units) (hy : y < units) :
    (if units - n < x * n % units then
      if units ≤ x * n % units + y * n / units then x * n / units + 1 else x * n / units
    else x * n / units) = (x * units + y) * n / (units * units) := by
  have some_units : 0 < units := Nat.zero_lt_of_lt hy
  have fraction : x * n % units < units := Nat.mod_lt _ some_units
  have finer : y * n / units < n := Nat.div_lt_of_lt_mul (Nat.mul_lt_mul_of_pos_right hy pos)
  have whole : (x * units + y) * n / (units * units) =
      x * n / units + (x * n % units + y * n / units) / units := by
    have apart : (x * units + y) * n = units * (x * n) + y * n := by ring
    rw [apart, ← Nat.div_div_eq_div_mul, Nat.mul_add_div some_units]
    conv_lhs => rw [← Nat.div_add_mod (x * n) units, Nat.add_assoc]
    rw [Nat.mul_add_div some_units]
  rw [whole, carry_eq fraction (by omega)]
  split_ifs with room carry carry
  · rfl
  · rfl
  · omega
  · rfl

/-- Whether or not the second unit is read, the number is what both units together are scaled to. -/
theorem fst_uniform {width n : Nat} (pos : 0 < n) (h : n ≤ 2 ^ (32 * width)) (s : Source) :
    (uniform width n s).1 = (twoUnits width s).1 * n / 2 ^ (2 * (32 * width)) := by
  have high : (words width (tally s).2).1 = (words width s).1 := fst_words_congr rfl rfl
  have low : (words width (words width (tally s).2).2).1 = (words width (words width s).2).1 := by
    apply fst_words_congr <;> rw [snd_words, snd_words] <;> rfl
  have both : (twoUnits width s).1 =
      (words width s).1 * 2 ^ (32 * width) + (words width (words width s).2).1 := rfl
  have second : (words width (words width s).2).1 < 2 ^ (32 * width) := always_words width _
  rw [both, Nat.two_mul, Nat.pow_add, ← scaled_units pos h second, ← high, ← low]
  change ((if 2 ^ (32 * width) - n < (words width (tally s).2).1 * n % 2 ^ (32 * width) then _
    else _ : Draw Nat) (words width (tally s).2).2).1 = _
  by_cases room : 2 ^ (32 * width) - n < (words width (tally s).2).1 * n % 2 ^ (32 * width)
  · rw [if_pos room, if_pos room]
    rfl
  · rw [if_neg room, if_neg room]
    rfl

/-- The numbers of two units that begin a source from which the draw gives the value. -/
def preimages (d : ExceptT Failure Draw α) (width : Nat) (a : α) : Set Nat :=
  {x | ∃ s, (twoUnits width s).1 = x ∧ (d.run s).1 = .ok a}

/-- The draw gives one of `n` values, as evenly as two units of words allow: the value is that whose
number is the whole part of both units scaled to `n`, each value is reached, and the numbers of units
that lead to two values differ at most by one. -/
structure Even (d : ExceptT Failure Draw α) (width n : Nat) (value : Nat → α) : Prop where
  scaled : ∀ s, (d.run s).1 =
    .ok (value ((twoUnits width s).1 * n / 2 ^ (2 * (32 * width))))
  reached : ∀ v < n, ∃ script, (d.run (Source.scripted script)).1 = .ok (value v)
  shared : ∀ v < n, ∀ v' < n,
    (preimages d width (value v)).ncard ≤ (preimages d width (value v')).ncard + 1

/-- The least number that is scaled to `v` or more. -/
def leastScaled (total n v : Nat) : Nat :=
  (v * total + (n - 1)) / n

theorem leastScaled_le_iff {total n v x : Nat} (pos : 0 < n) :
    leastScaled total n v ≤ x ↔ v * total ≤ x * n := by
  rw [leastScaled, Nat.div_le_iff_le_mul_add_pred pos, Nat.mul_comm n]
  omega

/-- The numbers scaled to a value stand in a row. -/
theorem scaled_eq_iff {total n v x : Nat} (pos : 0 < n) (ht : 0 < total) :
    x * n / total = v ↔ x ∈ Finset.Ico (leastScaled total n v) (leastScaled total n (v + 1)) := by
  rw [Finset.mem_Ico, leastScaled_le_iff pos, ← Nat.not_le, leastScaled_le_iff pos, Nat.not_le,
    Nat.div_eq_iff ht, Nat.succ_mul]
  omega

/-- The rows of two values differ in length at most by one. -/
theorem card_scaled_le {total n : Nat} (pos : 0 < n) (v v' : Nat) :
    leastScaled total n (v + 1) - leastScaled total n v ≤
      leastScaled total n (v' + 1) - leastScaled total n v' + 1 := by
  have near (u : Nat) : u * total ≤ leastScaled total n u * n ∧
      leastScaled total n u * n < u * total + n := by
    refine ⟨(leastScaled_le_iff pos).1 le_rfl, ?_⟩
    have whole := Nat.div_mul_le_self (u * total + (n - 1)) n
    rw [leastScaled]
    omega
  have step (u : Nat) : (u + 1) * total = u * total + total := Nat.succ_mul u total
  have row (u : Nat) : (leastScaled total n (u + 1) - leastScaled total n u) * n =
      leastScaled total n (u + 1) * n - leastScaled total n u * n := Nat.sub_mul _ _ n
  by_contra more
  have longer := Nat.mul_le_mul_right n (Nat.succ_le_of_lt (Nat.not_le.1 more))
  rw [row, Nat.succ_mul, Nat.succ_mul, row] at longer
  have := near v
  have := near (v + 1)
  have := near v'
  have := near (v' + 1)
  have := step v
  have := step v'
  omega

section

variable {d : ExceptT Failure Draw α} {width n : Nat} {value : Nat → α} (pos : 0 < n)
  (scaled : ∀ s, (d.run s).1 = .ok (value ((twoUnits width s).1 * n / 2 ^ (2 * (32 * width)))))
include pos scaled

theorem preimages_eq (inj : ∀ v < n, ∀ v' < n, value v = value v' → v = v') {v : Nat} (hv : v < n) :
    preimages d width (value v) =
      Finset.Ico (leastScaled (2 ^ (2 * (32 * width))) n v)
        (leastScaled (2 ^ (2 * (32 * width))) n (v + 1)) := by
  have total : 0 < 2 ^ (2 * (32 * width)) := Nat.two_pow_pos _
  ext x
  rw [Finset.mem_coe, ← scaled_eq_iff pos total]
  constructor
  · rintro ⟨s, rfl, run⟩
    have small : (twoUnits width s).1 * n / 2 ^ (2 * (32 * width)) < n :=
      Nat.div_lt_of_lt_mul (Nat.mul_lt_mul_of_pos_right (always_twoUnits width s) pos)
    rw [scaled] at run
    exact inj _ small v hv (Except.ok.inj run)
  · intro here
    have below : x < 2 ^ (2 * (32 * width)) := by
      rw [← here, Nat.div_lt_iff_lt_mul total, Nat.mul_comm n] at hv
      exact Nat.lt_of_mul_lt_mul_right hv
    obtain ⟨script, formed⟩ := (can_twoUnits below).scripted
    exact ⟨_, formed, by rw [scaled, formed, here]⟩

theorem even_of_scaled (inj : ∀ v < n, ∀ v' < n, value v = value v' → v = v')
    (few : n ≤ 2 ^ (2 * (32 * width))) : Even d width n value := by
  refine ⟨scaled, fun v hv => ?_, fun v hv v' hv' => ?_⟩
  · obtain ⟨x, below, here⟩ := least_unit hv few
    obtain ⟨script, formed⟩ := (can_twoUnits below).scripted
    exact ⟨script, by rw [scaled, formed, here]⟩
  · rw [preimages_eq pos scaled inj hv, preimages_eq pos scaled inj hv', Set.ncard_coe_finset,
      Set.ncard_coe_finset, Nat.card_Ico, Nat.card_Ico]
    exact card_scaled_le pos v v'

end

theorem Even.exists_value {d : ExceptT Failure Draw α} {width n : Nat} {value : Nat → α}
    (h : Even d width n value) (pos : 0 < n) (s : Source) : ∃ v < n, (d.run s).1 = .ok (value v) :=
  ⟨_, Nat.div_lt_of_lt_mul (Nat.mul_lt_mul_of_pos_right (always_twoUnits width s) pos), h.scaled s⟩

theorem even_between {least limit : Int} (range : least < limit) (span : limit - least ≤ 2 ^ 64) :
    Even (between least limit) 2 (limit - least).toNat fun v => least + v := by
  have run (s : Source) : ((between least limit).run s).1 =
      .ok (least + (uniform 2 (limit - least).toNat s).1) := by
    rw [between, if_neg (Int.not_le.2 range)]
    rfl
  refine even_of_scaled (by omega) (fun s => ?_) (fun v _ v' _ same => by omega) (by omega)
  rw [run, fst_uniform (by omega) (by omega)]

/-- Bounds that fit into one word are drawn from single words, larger ones from pairs. -/
theorem even_number {bound : Nat} (pos : 0 < bound) (h : bound < 2 ^ 64) :
    Even (number bound) (if bound < 2 ^ 32 then 1 else 2) bound id := by
  have width : bound.log2 / 32 + 1 = if bound < 2 ^ 32 then 1 else 2 := by
    have log {k : Nat} : bound.log2 < k ↔ bound < 2 ^ k := Nat.log2_lt pos.ne'
    have most := log.2 h
    split_ifs with small
    · have := log.2 small
      omega
    · have := mt log.1 small
      omega
  have few : bound ≤ 2 ^ (32 * if bound < 2 ^ 32 then 1 else 2) := by
    split_ifs <;> omega
  have run (s : Source) : ((number bound).run s).1 =
      .ok (uniform (if bound < 2 ^ 32 then 1 else 2) bound s).1 := by
    rw [number, if_neg pos.ne', below, width]
    rfl
  refine even_of_scaled pos (fun s => ?_) (fun v _ v' _ same => same) (few.trans ?_)
  · rw [run, fst_uniform pos few]
    rfl
  · exact Nat.pow_le_pow_right Nat.two_pos (by omega)

/-- A whole number between two limits of 64 bits, whatever their distance, is one of them without any
wrapping around, and a number below a bound of 64 bits is below it. Both are drawn as evenly as two units
of words allow. -/
theorem bounded_numbers_even {least limit : Int64} {bound : UInt64} (range : least < limit)
    (pos : 0 < bound) :
    (∀ s, ∃ r : Int64, ((between least.toInt limit.toInt).run s).1 = .ok r.toInt ∧
      least ≤ r ∧ r < limit) ∧
    Even (between least.toInt limit.toInt) 2 (limit.toInt - least.toInt).toNat
      (fun v => least.toInt + v) ∧
    (∀ s, ∃ r : UInt64, ((number bound.toNat).run s).1 = .ok r.toNat ∧ r < bound) ∧
    Even (number bound.toNat) (if bound.toNat < 2 ^ 32 then 1 else 2) bound.toNat id := by
  have lower := least.le_toInt
  have upper := limit.toInt_lt
  have less := Int64.lt_iff_toInt_lt.1 range
  have positive := UInt64.lt_iff_toNat_lt.1 pos
  have integers := even_between less (by omega)
  have naturals := even_number positive bound.toNat_lt
  refine ⟨fun s => ?_, integers, fun s => ?_, naturals⟩
  · obtain ⟨v, hv, run⟩ := integers.exists_value (by omega) s
    have same : (Int64.ofInt (least.toInt + v)).toInt = least.toInt + v :=
      Int64.toInt_ofInt_of_le (by omega) (by omega)
    refine ⟨.ofInt (least.toInt + v), by rw [same, run], ?_, ?_⟩
    · rw [Int64.le_iff_toInt_le, same]
      omega
    · rw [Int64.lt_iff_toInt_lt, same]
      omega
  · obtain ⟨v, hv, run⟩ := naturals.exists_value positive s
    have same : (UInt64.ofNat v).toNat = v := UInt64.toNat_ofNat_of_lt' (hv.trans bound.toNat_lt)
    exact ⟨.ofNat v, by rw [same, run]; rfl, UInt64.lt_iff_toNat_lt.2 (same.symm ▸ hv)⟩

/-- All whole numbers of 64 bits but the greatest, and the least bound that takes pairs of words. -/
theorem bounded_numbers_even_full_span :
    Int64.minValue < Int64.maxValue ∧ (0 : UInt64) < 4294967296 ∧
      ((between Int64.minValue.toInt Int64.maxValue.toInt).run
        (Source.scripted (List.replicate 4 4294967295))).1 = .ok 9223372036854775806 ∧
      ∀ s, ∃ r : UInt64, ((number 4294967296).run s).1 = .ok r.toNat ∧ r < 4294967296 := by
  have range : Int64.minValue < Int64.maxValue := by decide
  have pos : (0 : UInt64) < 4294967296 := by decide
  obtain ⟨-, integers, naturals, -⟩ := bounded_numbers_even range pos
  refine ⟨range, pos, ?_, naturals⟩
  have units : (twoUnits 2 (Source.scripted (List.replicate 4 4294967295))).1 = 2 ^ 128 - 1 := by
    decide +kernel
  rw [integers.scaled, units]
  rfl

end Draw

end Figment
