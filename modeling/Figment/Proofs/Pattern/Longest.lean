import Figment.Proofs.Pattern.Language
import Figment.Proofs.Pattern.Generation
/-!
The longest string of a pattern.

`extent` is the length of the longest string without the cap that `longest` puts on every sum and
product. No string of the language is longer, and in a well-formed pattern some string is as long.
What is generated is bounded by it in every pattern, even if a choice in it has no members.
-/

namespace Figment

mutual

def Atom.extent : Atom → Nat
  | .literal _ => 1
  | .set _ => 1
  | .any => 1
  | .anchor => 0
  | .group p => Pattern.extent p

def Piece.extent : Piece → Nat
  | .mk a _ most => a.extent * most.toNat

def Pattern.runExtent : List Piece → Nat
  | [] => 0
  | p :: ps => p.extent + Pattern.runExtent ps

def Pattern.extent : Pattern → Nat
  | [] => 0
  | ps :: rest => max (Pattern.runExtent ps) (Pattern.extent rest)

end

theorem saturate_add (m n : Nat) : saturate (saturate m + saturate n) = saturate (m + n) := by
  unfold saturate
  omega

/-- A factor that was cut off stays cut off, unless the other one is zero. -/
theorem saturate_mul (m n : Nat) : saturate (saturate m * n) = saturate (m * n) := by
  cases n with
  | zero => rfl
  | succ n =>
    unfold saturate
    by_cases h : m ≤ lengthCap
    · rw [Nat.min_eq_left h]
    · have capped := Nat.le_mul_of_pos_right lengthCap (Nat.succ_pos n)
      have whole := Nat.le_mul_of_pos_right m (Nat.succ_pos n)
      rw [Nat.min_eq_right (Nat.le_of_not_le h), Nat.min_eq_right capped,
        Nat.min_eq_right ((Nat.le_of_not_le h).trans whole)]

theorem saturate_max (m n : Nat) : max (saturate m) (saturate n) = saturate (max m n) := by
  unfold saturate
  omega

mutual

theorem Atom.longest_eq : (a : Atom) → a.longest = saturate a.extent
  | .literal _ => rfl
  | .set _ => rfl
  | .any => rfl
  | .anchor => rfl
  | .group p => Pattern.longest_eq p

theorem Piece.longest_eq : (p : Piece) → p.longest = saturate p.extent
  | .mk a _ most => by rw [Piece.longest, Atom.longest_eq a, saturate_mul, Piece.extent]

theorem Pattern.longestRun_eq : (ps : List Piece) →
    Pattern.longestRun ps = saturate (Pattern.runExtent ps)
  | [] => rfl
  | p :: ps => by
    rw [Pattern.longestRun, Piece.longest_eq p, Pattern.longestRun_eq ps, saturate_add,
      Pattern.runExtent]

theorem Pattern.longest_eq : (p : Pattern) → Pattern.longest p = saturate (Pattern.extent p)
  | [] => rfl
  | ps :: rest => by
    rw [Pattern.longest, Pattern.longestRun_eq ps, Pattern.longest_eq rest, saturate_max,
      Pattern.extent]

end

theorem length_le_of_mem_pow {L : Language Char} {bound : Nat}
    (h : ∀ s ∈ L, s.length ≤ bound) {n : Nat} {s : List Char} (hs : s ∈ L ^ n) :
    s.length ≤ bound * n := by
  induction n generalizing s with
  | zero =>
    rw [pow_zero, Language.mem_one] at hs
    rw [hs]
    exact Nat.zero_le _
  | succ n ih =>
    rw [pow_succ', Language.mem_mul] at hs
    obtain ⟨first, hfirst, rest, hrest, rfl⟩ := hs
    have one := h first hfirst
    have more := ih hrest
    rw [List.length_append, Nat.mul_succ]
    omega

mutual

theorem Atom.length_le_extent : (a : Atom) → (s : List Char) → s ∈ a.language →
    s.length ≤ a.extent
  | .literal _, s, h => by
    obtain rfl : s = _ := h
    exact Nat.le_refl 1
  | .set _, s, h => by
    obtain ⟨c, -, rfl⟩ := h
    exact Nat.le_refl 1
  | .any, s, h => by
    obtain ⟨c, -, rfl⟩ := h
    exact Nat.le_refl 1
  | .anchor, s, h => by
    obtain rfl : s = [] := h
    exact Nat.le_refl 0
  | .group p, s, h => Pattern.length_le_extent p s h

theorem Piece.length_le_extent : (p : Piece) → (s : List Char) → s ∈ p.language →
    s.length ≤ p.extent
  | .mk a _ _, _, ⟨_, _, most, h⟩ =>
    (length_le_of_mem_pow (Atom.length_le_extent a) h).trans (Nat.mul_le_mul_left _ most)

theorem Pattern.length_le_runExtent : (ps : List Piece) → (s : List Char) →
    s ∈ Pattern.runLanguage ps → s.length ≤ Pattern.runExtent ps
  | [], s, h => by
    obtain rfl : s = [] := h
    exact Nat.le_refl 0
  | p :: ps, s, h => by
    rw [Pattern.runLanguage, Language.mem_mul] at h
    obtain ⟨first, hfirst, rest, hrest, rfl⟩ := h
    rw [List.length_append]
    exact Nat.add_le_add (Piece.length_le_extent p first hfirst)
      (Pattern.length_le_runExtent ps rest hrest)

theorem Pattern.length_le_extent : (p : Pattern) → (s : List Char) → s ∈ Pattern.language p →
    s.length ≤ Pattern.extent p
  | [], _, h => absurd h (Language.notMem_zero _)
  | ps :: rest, s, h => by
    rw [Pattern.language, Language.mem_add] at h
    rcases h with here | later
    · exact (Pattern.length_le_runExtent ps s here).trans (Nat.le_max_left _ _)
    · exact (Pattern.length_le_extent rest s later).trans (Nat.le_max_right _ _)

end

theorem exists_mem_pow_length {L : Language Char} {s : List Char} (hs : s ∈ L) (n : Nat) :
    ∃ t ∈ L ^ n, t.length = s.length * n := by
  induction n with
  | zero => exact ⟨[], by rw [pow_zero]; exact Language.nil_mem_one, rfl⟩
  | succ n ih =>
    obtain ⟨t, ht, length⟩ := ih
    refine ⟨s ++ t, ?_, ?_⟩
    · rw [pow_succ']
      exact Language.append_mem_mul hs ht
    · rw [List.length_append, length, Nat.mul_succ, Nat.add_comm]

mutual

theorem Atom.exists_length_eq : (a : Atom) → a.WellFormed →
    ∃ s ∈ a.language, s.length = a.extent
  | .literal c, _ => ⟨[c], rfl, rfl⟩
  | .set _, ⟨c, h⟩ => ⟨[c], ⟨c, h, rfl⟩, rfl⟩
  | .any, _ => ⟨[' '], ⟨' ', by unfold IsPrintable; decide, rfl⟩, rfl⟩
  | .anchor, _ => ⟨[], rfl, rfl⟩
  | .group p, h => Pattern.exists_length_eq p h.1 h.2

theorem Piece.exists_length_eq : (p : Piece) → p.WellFormed →
    ∃ s ∈ p.language, s.length = p.extent
  | .mk a _ most, h => by
    obtain ⟨s, hs, length⟩ := Atom.exists_length_eq a h.2
    obtain ⟨t, ht, copies⟩ := exists_mem_pow_length hs most.toNat
    exact ⟨t, ⟨most.toNat, UInt32.le_iff_toNat_le.1 h.1, Nat.le_refl _, ht⟩,
      by rw [copies, length, Piece.extent]⟩

theorem Pattern.exists_length_eq_run : (ps : List Piece) → Pattern.RunWellFormed ps →
    ∃ s ∈ Pattern.runLanguage ps, s.length = Pattern.runExtent ps
  | [], _ => ⟨[], rfl, rfl⟩
  | p :: ps, h => by
    obtain ⟨s, hs, first⟩ := Piece.exists_length_eq p h.1
    obtain ⟨t, ht, rest⟩ := Pattern.exists_length_eq_run ps h.2
    exact ⟨s ++ t, Language.append_mem_mul hs ht,
      by rw [List.length_append, first, rest, Pattern.runExtent]⟩

theorem Pattern.exists_length_eq : (p : Pattern) → p ≠ [] → Pattern.RunsWellFormed p →
    ∃ s ∈ Pattern.language p, s.length = Pattern.extent p
  | [], ne, _ => absurd rfl ne
  | [ps], _, h => by
    obtain ⟨s, hs, length⟩ := Pattern.exists_length_eq_run ps h.1
    exact ⟨s, Or.inl hs, by rw [length, Pattern.extent, Pattern.extent, Nat.max_zero]⟩
  | ps :: next :: rest, _, h => by
    obtain ⟨s, hs, here⟩ := Pattern.exists_length_eq_run ps h.1
    obtain ⟨t, ht, later⟩ := Pattern.exists_length_eq (next :: rest) (List.cons_ne_nil _ _) h.2
    rcases Nat.le_total (Pattern.extent (next :: rest)) (Pattern.runExtent ps) with le | le
    · exact ⟨s, Or.inl hs, here.trans (Nat.max_eq_left le).symm⟩
    · exact ⟨t, Or.inr ht, later.trans (Nat.max_eq_right le).symm⟩

end

/-- Below the cap, `longest` bounds a pattern as its longest string does. -/
theorem Pattern.longest_le_iff {p : Pattern} (h : p.WellFormed) {bound : Nat}
    (small : bound < lengthCap) :
    Pattern.longest p ≤ bound ↔ ∀ s ∈ p.language, s.length ≤ bound := by
  have uncapped : Pattern.longest p ≤ bound ↔ Pattern.extent p ≤ bound := by
    rw [Pattern.longest_eq, saturate]
    omega
  rw [uncapped]
  constructor
  · intro le s hs
    exact (Pattern.length_le_extent p s hs).trans le
  · intro all
    obtain ⟨s, hs, length⟩ := Pattern.exists_length_eq p h.1 h.2
    exact length ▸ all s hs

theorem Draw.always_times_length_le {d : Draw (List Char)} {bound : Nat}
    (h : d.Always (·.length ≤ bound)) (n : Nat) : (times n d).Always (·.length ≤ bound * n) :=
  (always_times (L := {s | s.length ≤ bound}) h n).mono fun _ => length_le_of_mem_pow fun _ le => le

theorem Draw.always_repetition_le (least most : UInt32) :
    (repetition least most).Always (· ≤ most.toNat) := by
  by_cases h : least ≤ most
  · exact (always_repetition h).mono fun _ bounds => bounds.2
  · rw [repetition, if_pos (UInt32.not_le.1 h)]
    exact always_pure (Nat.zero_le _)

/-- A pattern without alternatives generates the empty string. -/
theorem Pattern.always_generate_length_le {p : Pattern} {bound : Nat}
    (h : ∀ n, (generateNth p n).Always (·.length ≤ bound)) :
    (generate p).Always (·.length ≤ bound) := by
  by_cases ne : p = []
  · rw [ne]
    exact Draw.always_pure (Nat.zero_le bound)
  · exact always_generate (L := {s | s.length ≤ bound}) ne fun n _ => h n

mutual

/-- Whether or not its choices have members, an atom generates nothing longer than its extent. -/
theorem Atom.always_length_le : (a : Atom) → (n : Nat) →
    (a.copies n).Always (·.length ≤ a.extent * n)
  | .literal _, n => Draw.always_pure (by rw [List.length_replicate, Atom.extent, Nat.one_mul])
  | .set k, n =>
    Draw.always_times_length_le (d := Option.toList <$> Draw.member? k.candidates.toArray)
      (Draw.Always.map fun _ => Option.length_toList_le) n
  | .any, n =>
    Draw.always_times_length_le (d := ([·]) <$> Draw.printable)
      (Draw.Always.map fun _ => Nat.le_refl 1) n
  | .anchor, n => Draw.always_pure (Nat.zero_le _)
  | .group p, n =>
    Draw.always_times_length_le
      (Pattern.always_generate_length_le fun i => Pattern.always_nth_length_le p i) n

theorem Piece.always_length_le : (p : Piece) → p.generate.Always (·.length ≤ p.extent)
  | .mk a least most =>
    (Draw.always_repetition_le least most).bind fun n le =>
      (Atom.always_length_le a n).mono fun _ length => length.trans (Nat.mul_le_mul_left _ le)

theorem Pattern.always_run_length_le : (ps : List Piece) →
    (Pattern.generateRun ps).Always (·.length ≤ Pattern.runExtent ps)
  | [] => Draw.always_pure (Nat.le_refl 0)
  | p :: ps =>
    (Piece.always_length_le p).bind fun s first =>
      (Pattern.always_run_length_le ps).bind fun t rest =>
        Draw.always_pure (by
          rw [List.length_append]
          exact Nat.add_le_add first rest)

theorem Pattern.always_nth_length_le : (p : Pattern) → (n : Nat) →
    (Pattern.generateNth p n).Always (·.length ≤ Pattern.extent p)
  | [], _ => Draw.always_pure (Nat.le_refl 0)
  | ps :: _, 0 => (Pattern.always_run_length_le ps).mono fun _ le => le.trans (Nat.le_max_left _ _)
  | _ :: rest, n + 1 =>
    (Pattern.always_nth_length_le rest n).mono fun _ le => le.trans (Nat.le_max_right _ _)

end

/-- The lengths of what the pattern generates, from one source or another. -/
def Pattern.lengths (p : Pattern) : Set Nat :=
  {n | ∃ source, (p.generate source).1.length = n}

theorem Pattern.isGreatest_extent {p : Pattern} (h : p.WellFormed) :
    IsGreatest p.lengths (Pattern.extent p) := by
  constructor
  · obtain ⟨s, mem, length⟩ := Pattern.exists_length_eq p h.1 h.2
    obtain ⟨source, rfl⟩ := (Pattern.generates_iff_mem_language h).2 mem
    exact ⟨source, length⟩
  · rintro _ ⟨source, rfl⟩
    exact Pattern.always_generate_length_le (Pattern.always_nth_length_le p) source

/-- In a well-formed pattern `longest` is the length of the longest string that is generated, cut off
at the cap, and some source gives that string. In any other pattern nothing longer is generated, unless
`longest` is the cap. -/
theorem Pattern.longest_eq_greatest (p : Pattern) :
    (p.WellFormed → ∃ n, IsGreatest p.lengths n ∧ Pattern.longest p = min n lengthCap) ∧
      (Pattern.longest p ≠ lengthCap → ∀ n ∈ p.lengths, n ≤ Pattern.longest p) := by
  rw [Pattern.longest_eq, saturate]
  constructor
  · intro h
    exact ⟨Pattern.extent p, Pattern.isGreatest_extent h, rfl⟩
  · rintro uncapped _ ⟨source, rfl⟩
    have bound := Pattern.always_generate_length_le (Pattern.always_nth_length_le p) source
    omega

/-- A group that could be longer than the cap, but is repeated no times, and a class behind it. -/
def unusedGroup : Pattern :=
  let long (a : Atom) : Piece := .mk a 0 4294967295
  let nested := [[long (.group [[long (.group [[long .any]])]])]]
  [[.mk (.group nested) 0 0, .mk (.set ⟨false, [.range 'a' 'c']⟩) 2 3], [.mk .anchor 1 1]]

theorem Pattern.longest_eq_greatest_unused :
    unusedGroup.WellFormed ∧ IsGreatest unusedGroup.lengths 3 := by
  have formed : unusedGroup.WellFormed := by
    refine ⟨List.cons_ne_nil _ _, ⟨⟨by decide, ?_⟩, ⟨by decide, ?_⟩, trivial⟩,
      ⟨⟨by decide, trivial⟩, trivial⟩, trivial⟩
    · simp [Atom.WellFormed, Pattern.RunsWellFormed, Pattern.RunWellFormed, Piece.WellFormed]
    · exact ⟨'a', .range 'a' 'c', List.mem_singleton_self _, by decide, by decide⟩
  obtain ⟨n, greatest, length⟩ := (Pattern.longest_eq_greatest unusedGroup).1 formed
  have three : Pattern.longest unusedGroup = 3 := by decide +kernel
  have same : n = 3 := by
    rw [three, lengthCap, Nat.pow_eq] at length
    omega
  exact ⟨formed, same ▸ greatest⟩

end Figment
