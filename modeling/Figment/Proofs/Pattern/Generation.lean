import Figment.Pattern.Generate
import Figment.Proofs.Pattern.Language
import Figment.Proofs.Random.Outcomes
/-!
What a pattern generates.

A pattern is well formed if its bounds are in order, its classes denote something, and it has an
alternative wherever one is chosen. The generator of a well-formed pattern gives strings of its
language from every source; and every string of the language of any pattern comes from some script.
-/

namespace Figment

mutual

def Atom.WellFormed : Atom → Prop
  | .literal _ => True
  | .set k => ∃ c, k.Denotes c
  | .any => True
  | .anchor => True
  | .group p => p ≠ [] ∧ Pattern.RunsWellFormed p

def Piece.WellFormed : Piece → Prop
  | .mk atom least most => least ≤ most ∧ atom.WellFormed

def Pattern.RunWellFormed : List Piece → Prop
  | [] => True
  | p :: ps => p.WellFormed ∧ Pattern.RunWellFormed ps

def Pattern.RunsWellFormed : List (List Piece) → Prop
  | [] => True
  | ps :: rest => Pattern.RunWellFormed ps ∧ Pattern.RunsWellFormed rest

end

/-- Nothing in the pattern leaves a choice without a member. -/
def Pattern.WellFormed (p : Pattern) : Prop :=
  p ≠ [] ∧ Pattern.RunsWellFormed p

namespace Draw

variable {d : Draw (List Char)} {L : Language Char}

theorem times_zero (d : Draw (List Char)) : times 0 d = pure [] := rfl

theorem times_succ (n : Nat) (d : Draw (List Char)) :
    times (n + 1) d = do return (← d) ++ (← times n d) := by
  simp [times, List.replicate_succ, List.mapM_cons]

theorem always_times (h : d.Always (· ∈ L)) (n : Nat) : (times n d).Always (· ∈ L ^ n) := by
  induction n with
  | zero =>
    rw [times_zero, pow_zero]
    exact always_pure Language.nil_mem_one
  | succ n ih =>
    rw [times_succ, pow_succ']
    exact h.bind fun s hs => ih.bind fun t ht => always_pure (Language.append_mem_mul hs ht)

theorem can_times (h : ∀ s ∈ L, d.Can s) {n : Nat} {s : List Char} (hs : s ∈ L ^ n) :
    (times n d).Can s := by
  induction n generalizing s with
  | zero =>
    rw [pow_zero, Language.mem_one] at hs
    rw [times_zero, hs]
    exact can_pure []
  | succ n ih =>
    rw [pow_succ', Language.mem_mul] at hs
    obtain ⟨first, hfirst, rest, hrest, rfl⟩ := hs
    rw [times_succ]
    exact (h first hfirst).bind ((ih hrest).bind (can_pure _))

/-- A list of members of a class, drawn one at a time. -/
theorem always_memberOf {k : CharClass} (h : ∃ c, k.Denotes c) :
    (Option.toList <$> member? k.candidates.toArray).Always (· ∈ (Atom.set k).language) := by
  refine ((always_member? (toArray_candidates_ne h)).mono ?_).map
  rintro a ⟨c, hc, rfl⟩
  rw [List.mem_toArray, mem_candidates] at hc
  exact ⟨c, hc, rfl⟩

theorem can_memberOf {k : CharClass} {s : List Char} (h : s ∈ (Atom.set k).language) :
    (Option.toList <$> member? k.candidates.toArray).Can s := by
  obtain ⟨c, hc, rfl⟩ := h
  have mem : c ∈ k.candidates.toArray := by rwa [List.mem_toArray, mem_candidates]
  exact (can_member? mem).map

end Draw

theorem mem_literal_language_pow {c : Char} {n : Nat} {s : List Char} :
    s ∈ (Atom.literal c).language ^ n ↔ s = List.replicate n c := by
  induction n generalizing s with
  | zero => rw [pow_zero, Language.mem_one]; rfl
  | succ n ih =>
    rw [pow_succ', Language.mem_mul]
    constructor
    · rintro ⟨first, rfl, rest, hrest, rfl⟩
      rw [ih.1 hrest]
      rfl
    · rintro rfl
      exact ⟨[c], rfl, _, ih.2 rfl, rfl⟩

namespace Pattern

/-- An alternative is chosen by its number. -/
theorem always_generate {p : Pattern} {L : Language Char} (ne : p ≠ [])
    (h : ∀ n < p.length, (generateNth p n).Always (· ∈ L)) : (generate p).Always (· ∈ L) := by
  rw [generate, if_neg (by simpa using ne)]
  exact (Draw.always_below (List.length_pos_iff.2 ne)).bind h

theorem can_generate {p : Pattern} {s : List Char} {n : Nat} (hn : n < p.length)
    (h : (generateNth p n).Can s) : (generate p).Can s := by
  have ne : p ≠ [] := List.length_pos_iff.1 (Nat.zero_lt_of_lt hn)
  rw [generate, if_neg (by simpa using ne)]
  exact (Draw.can_below hn).bind h

end Pattern

mutual

theorem Atom.always_copies : (a : Atom) → a.WellFormed → (n : Nat) →
    (a.copies n).Always (· ∈ a.language ^ n)
  | .literal _, _, _ => Draw.always_pure (mem_literal_language_pow.2 rfl)
  | .set _, h, n => Draw.always_times (Draw.always_memberOf h) n
  | .any, _, n =>
    Draw.always_times (Draw.always_printable.mono fun c hc => ⟨c, hc, rfl⟩).map n
  | .anchor, _, n => Draw.always_pure (by rw [Atom.language, one_pow]; exact Language.nil_mem_one)
  | .group p, h, n =>
    Draw.always_times (Pattern.always_generate h.1 fun i hi => Pattern.always_generateNth p h.2 i hi) n

theorem Piece.always_generate : (p : Piece) → p.WellFormed → p.generate.Always (· ∈ p.language)
  | .mk a _ _, h =>
    (Draw.always_repetition h.1).bind fun n hn =>
      (Atom.always_copies a h.2 n).mono fun _ hs => ⟨n, hn.1, hn.2, hs⟩

theorem Pattern.always_generateRun : (ps : List Piece) → Pattern.RunWellFormed ps →
    (Pattern.generateRun ps).Always (· ∈ Pattern.runLanguage ps)
  | [], _ => Draw.always_pure Language.nil_mem_one
  | p :: ps, h =>
    (Piece.always_generate p h.1).bind fun _ hs =>
      (Pattern.always_generateRun ps h.2).bind fun _ ht =>
        Draw.always_pure (Language.append_mem_mul hs ht)

theorem Pattern.always_generateNth : (p : Pattern) → Pattern.RunsWellFormed p →
    (n : Nat) → n < p.length → (Pattern.generateNth p n).Always (· ∈ Pattern.language p)
  | [], _, _, hn => absurd hn (Nat.not_lt_zero _)
  | ps :: _, h, 0, _ => (Pattern.always_generateRun ps h.1).mono fun _ hs => Or.inl hs
  | _ :: rest, h, n + 1, hn =>
    (Pattern.always_generateNth rest h.2 n (Nat.lt_of_succ_lt_succ hn)).mono fun _ hs => Or.inr hs

end

theorem Pattern.always_generate_language {p : Pattern} (h : p.WellFormed) :
    p.generate.Always (· ∈ p.language) :=
  always_generate h.1 fun n hn => always_generateNth p h.2 n hn

mutual

theorem Atom.can_copies : (a : Atom) → (n : Nat) → (s : List Char) → s ∈ a.language ^ n →
    (a.copies n).Can s
  | .literal _, n, s, h => by
    rw [mem_literal_language_pow.1 h]
    exact Draw.can_pure _
  | .set _, _, _, h => Draw.can_times (fun _ => Draw.can_memberOf) h
  | .any, _, _, h => by
    refine Draw.can_times (fun t ht => ?_) h
    obtain ⟨c, hc, rfl⟩ := ht
    exact (Draw.can_printable hc).map
  | .anchor, n, s, h => by
    rw [Atom.language, one_pow, Language.mem_one] at h
    rw [h]
    exact Draw.can_pure []
  | .group p, _, _, h => by
    refine Draw.can_times (fun t ht => ?_) h
    obtain ⟨i, hi, run⟩ := Pattern.can_generateNth p t ht
    exact Pattern.can_generate hi run

theorem Piece.can_generate : (p : Piece) → (s : List Char) → s ∈ p.language → p.generate.Can s
  | .mk a _ _, s, ⟨n, least, most, h⟩ =>
    (Draw.can_repetition least most).bind (Atom.can_copies a n s h)

theorem Pattern.can_generateRun : (ps : List Piece) → (s : List Char) →
    s ∈ Pattern.runLanguage ps → (Pattern.generateRun ps).Can s
  | [], s, h => by
    rw [Pattern.runLanguage, Language.mem_one] at h
    rw [h]
    exact Draw.can_pure []
  | p :: ps, s, h => by
    rw [Pattern.runLanguage, Language.mem_mul] at h
    obtain ⟨first, hfirst, rest, hrest, rfl⟩ := h
    exact (Piece.can_generate p first hfirst).bind
      ((Pattern.can_generateRun ps rest hrest).bind (Draw.can_pure _))

theorem Pattern.can_generateNth : (p : Pattern) → (s : List Char) →
    s ∈ Pattern.language p → ∃ n < p.length, (Pattern.generateNth p n).Can s
  | [], _, h => absurd h (Language.notMem_zero _)
  | ps :: rest, s, h => by
    rw [Pattern.language, Language.mem_add] at h
    rcases h with here | later
    · exact ⟨0, Nat.zero_lt_succ _, Pattern.can_generateRun ps s here⟩
    · obtain ⟨n, hn, run⟩ := Pattern.can_generateNth rest s later
      exact ⟨n + 1, Nat.succ_lt_succ hn, run⟩

end

theorem Pattern.can_generate_language {p : Pattern} {s : List Char} (h : s ∈ p.language) :
    p.generate.Can s := by
  obtain ⟨n, hn, run⟩ := can_generateNth p s h
  exact can_generate hn run

/-- The strings that a well-formed pattern generates are those of its language. -/
theorem Pattern.generates_iff_mem_language {p : Pattern} (h : p.WellFormed) {s : List Char} :
    (∃ source, (p.generate source).1 = s) ↔ s ∈ p.language := by
  constructor
  · rintro ⟨source, rfl⟩
    exact always_generate_language h source
  · intro hs
    obtain ⟨script, run⟩ := (can_generate_language hs).scripted
    exact ⟨_, run⟩

end Figment
