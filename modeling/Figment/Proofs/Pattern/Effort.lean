import Figment.Proofs.Pattern.Longest
import Figment.Proofs.Pattern.Reading
import Figment.Proofs.Random.Choices
/-!
How many choices a pattern takes.

Each run of a pattern makes one choice of an alternative, one choice of a number of copies for every
piece, and what the copies take. The limit on the length of what is generated bounds all of that,
except for groups that generate nothing: they may be repeated at will, and every repetition of such
a group makes its choices again.
-/

namespace Figment

mutual

/-- The greatest number of choices that one copy of an atom takes. -/
def Atom.effort : Atom → Nat
  | .literal _ => 0
  | .set _ => 1
  | .any => 1
  | .anchor => 0
  | .group p => 1 + Pattern.effort p

def Piece.effort : Piece → Nat
  | .mk a _ most => 1 + a.effort * most.toNat

def Pattern.runEffort : List Piece → Nat
  | [] => 0
  | p :: ps => p.effort + Pattern.runEffort ps

/-- The greatest number of choices that an alternative takes once it is chosen. -/
def Pattern.effort : Pattern → Nat
  | [] => 0
  | ps :: rest => max (Pattern.runEffort ps) (Pattern.effort rest)

end

mutual

/-- The least number of choices that one copy of an atom takes. -/
def Atom.leastEffort : Atom → Nat
  | .literal _ => 0
  | .set _ => 1
  | .any => 1
  | .anchor => 0
  | .group p => 1 + Pattern.leastEffort p

def Piece.leastEffort : Piece → Nat
  | .mk a least _ => 1 + a.leastEffort * least.toNat

def Pattern.runLeastEffort : List Piece → Nat
  | [] => 0
  | p :: ps => p.leastEffort + Pattern.runLeastEffort ps

def Pattern.leastEffort : Pattern → Nat
  | [] => 0
  | [ps] => Pattern.runLeastEffort ps
  | ps :: next :: rest => min (Pattern.runLeastEffort ps) (Pattern.leastEffort (next :: rest))

end

theorem Draw.Chooses.times {d : Draw (List Char)} {fewest most : Nat} (h : d.Chooses fewest most)
    (n : Nat) : (times n d).Chooses (fewest * n) (most * n) := by
  induction n with
  | zero => exact Draw.chooses_pure []
  | succ n ih =>
    rw [Draw.times_succ, Nat.mul_succ, Nat.mul_succ, Nat.add_comm _ fewest, Nat.add_comm _ most]
    refine h.bind (Draw.always_true d) fun s _ => ?_
    exact ih.bind_zero fun t => Draw.chooses_pure (s ++ t)

theorem Pattern.chooses_generate {p : Pattern} {fewest most : Nat} (ne : p ≠ [])
    (h : ∀ n < p.length, (generateNth p n).Chooses fewest most) :
    (generate p).Chooses (1 + fewest) (1 + most) := by
  rw [generate, if_neg (by simpa using ne)]
  exact (Draw.chooses_below p.length).bind (Draw.always_below (List.length_pos_iff.2 ne)) h

mutual

theorem Atom.chooses_copies : (a : Atom) → a.WellFormed → (n : Nat) →
    (a.copies n).Chooses (a.leastEffort * n) (a.effort * n)
  | .literal c, _, n => by
    rw [Atom.leastEffort, Atom.effort, Nat.zero_mul]
    exact Draw.chooses_pure (List.replicate n c)
  | .set _, h, n =>
    ((Draw.chooses_member? (toArray_candidates_ne h)).map (f := Option.toList)).times n
  | .any, _, n => (Draw.chooses_printable.map (f := ([·]))).times n
  | .anchor, _, n => by
    rw [Atom.leastEffort, Atom.effort, Nat.zero_mul]
    exact Draw.chooses_pure []
  | .group p, h, n =>
    (Pattern.chooses_generate h.1 fun i hi => Pattern.chooses_generateNth p h.2 i hi).times n

theorem Piece.chooses_generate : (p : Piece) → p.WellFormed →
    p.generate.Chooses p.leastEffort p.effort
  | .mk a _ _, h =>
    (Draw.chooses_repetition h.1).bind (Draw.always_repetition h.1) fun n hn =>
      (Atom.chooses_copies a h.2 n).mono (Nat.mul_le_mul_left _ hn.1) (Nat.mul_le_mul_left _ hn.2)

theorem Pattern.chooses_generateRun : (ps : List Piece) → Pattern.RunWellFormed ps →
    (Pattern.generateRun ps).Chooses (Pattern.runLeastEffort ps) (Pattern.runEffort ps)
  | [], _ => Draw.chooses_pure []
  | p :: ps, h =>
    (Piece.chooses_generate p h.1).bind (Draw.always_true _) fun s _ =>
      (Pattern.chooses_generateRun ps h.2).bind_zero fun t => Draw.chooses_pure (s ++ t)

theorem Pattern.chooses_generateNth : (p : Pattern) → Pattern.RunsWellFormed p →
    (n : Nat) → n < p.length →
    (Pattern.generateNth p n).Chooses (Pattern.leastEffort p) (Pattern.effort p)
  | [], _, _, hn => absurd hn (Nat.not_lt_zero _)
  | [ps], h, 0, _ =>
    (Pattern.chooses_generateRun ps h.1).mono (Nat.le_refl _) (Nat.le_max_left _ _)
  | [_], _, _ + 1, hn => absurd (Nat.lt_of_succ_lt_succ hn) (Nat.not_lt_zero _)
  | ps :: _ :: _, h, 0, _ =>
    (Pattern.chooses_generateRun ps h.1).mono (Nat.min_le_left _ _) (Nat.le_max_left _ _)
  | _ :: next :: rest, h, n + 1, hn =>
    (Pattern.chooses_generateNth (next :: rest) h.2 n (Nat.lt_of_succ_lt_succ hn)).mono
      (Nat.min_le_right _ _) (Nat.le_max_right _ _)

end

/-- A choice of an alternative comes first. -/
theorem Pattern.WellFormed.chooses {p : Pattern} (h : p.WellFormed) :
    (Pattern.generate p).Chooses (1 + Pattern.leastEffort p) (1 + Pattern.effort p) :=
  Pattern.chooses_generate h.1 (Pattern.chooses_generateNth p h.2)

/-- A group that generates the empty string and no other. -/
def Atom.isIdle : Atom → Bool
  | .group p => Pattern.extent p == 0
  | _ => false

mutual

def Atom.idle : Atom → Nat
  | .literal _ => 1
  | .set _ => 1
  | .any => 1
  | .anchor => 1
  | .group p => Pattern.idle p

def Piece.idle : Piece → Nat
  | .mk a _ most => a.idle * if a.isIdle then max 1 most.toNat else 1

def Pattern.runIdle : List Piece → Nat
  | [] => 1
  | p :: ps => max p.idle (Pattern.runIdle ps)

/-- How often a group that generates nothing may be repeated for one repetition of anything else: the
largest product of the upper bounds of such groups within each other. A bound of zero counts as one. -/
def Pattern.idle : Pattern → Nat
  | [] => 1
  | ps :: rest => max (Pattern.runIdle ps) (Pattern.idle rest)

end

mutual

theorem Atom.idle_pos : (a : Atom) → 1 ≤ a.idle
  | .literal _ => Nat.le_refl 1
  | .set _ => Nat.le_refl 1
  | .any => Nat.le_refl 1
  | .anchor => Nat.le_refl 1
  | .group p => Pattern.idle_pos p

theorem Piece.idle_pos : (p : Piece) → 1 ≤ p.idle
  | .mk a _ most => by
    refine Nat.mul_pos (Atom.idle_pos a) ?_
    split
    · exact Nat.le_max_left 1 most.toNat
    · exact Nat.one_pos

theorem Pattern.runIdle_pos : (ps : List Piece) → 1 ≤ Pattern.runIdle ps
  | [] => Nat.le_refl 1
  | _ :: ps => (Pattern.runIdle_pos ps).trans (Nat.le_max_right _ _)

theorem Pattern.idle_pos : (p : Pattern) → 1 ≤ Pattern.idle p
  | [] => Nat.le_refl 1
  | _ :: rest => (Pattern.idle_pos rest).trans (Nat.le_max_right _ _)

end

mutual

/-- The number of pieces and groups. -/
def Atom.size : Atom → Nat
  | .literal _ => 0
  | .set _ => 0
  | .any => 0
  | .anchor => 0
  | .group p => 1 + Pattern.size p

def Piece.size : Piece → Nat
  | .mk a _ _ => 1 + a.size

def Pattern.runSize : List Piece → Nat
  | [] => 0
  | p :: ps => p.size + Pattern.runSize ps

def Pattern.size : Pattern → Nat
  | [] => 0
  | ps :: rest => Pattern.runSize ps + Pattern.size rest

end

theorem Pattern.ClassText.length_pos {s : List Char} {k : CharClass} (h : ClassText s k) :
    1 ≤ s.length := by
  cases h with
  | positive _ _ _ _ => simp
  | negated _ _ _ => simp

theorem Pattern.EscapeText.size_eq {c : Char} {a : Atom} (h : EscapeText c a) : a.size = 0 := by
  cases h with
  | shorthand k => rfl
  | boundary _ => rfl
  | character _ _ _ _ _ _ => rfl

mutual

theorem Pattern.AtomText.size_lt {s : List Char} {a : Atom} : AtomText s a → 1 + a.size ≤ s.length
  | .group h => by
    have inner := h.size_le
    rw [Atom.size, List.length_append, List.length_cons, List.length_singleton]
    omega
  | .unnumbered h => by
    have inner := h.size_le
    rw [Atom.size, List.length_append, List.length_cons, List.length_cons, List.length_cons,
      List.length_singleton]
    omega
  | .set h => h.length_pos
  | .start => Nat.le_refl 1
  | .finish => Nat.le_refl 1
  | .any => Nat.le_refl 1
  | .escape h => by
    rw [h.size_eq]
    exact Nat.le_succ 1
  | .literal _ => Nat.le_refl 1

theorem Pattern.PieceText.size_le {s : List Char} {p : Piece} : PieceText s p → p.size ≤ s.length
  | .once h => h.size_lt
  | .repeated h _ => by
    rw [List.length_append]
    exact h.size_lt.trans (Nat.le_add_right _ _)

theorem Pattern.RunText.size_le {s : List Char} {ps : List Piece} :
    RunText s ps → Pattern.runSize ps ≤ s.length
  | .nil => Nat.le_refl 0
  | .cons h t => by
    rw [List.length_append]
    exact Nat.add_le_add h.size_le t.size_le

theorem Pattern.PatternText.size_le {s : List Char} {p : Pattern} :
    PatternText s p → Pattern.size p ≤ s.length
  | .one h => h.size_le
  | .more h t => by
    rw [List.length_append]
    exact Nat.add_le_add h.size_le (t.size_le.trans (Nat.le_succ _))

end

/-- So many choices suffice for `size` pieces and groups that generate at most `extent` characters,
if groups that generate nothing are repeated at most `idle` times. -/
def allowance (size extent idle : Nat) : Nat :=
  (size * max 1 extent + extent) * idle

theorem allowance_mono {size size' extent extent' idle idle' : Nat} (hs : size ≤ size')
    (he : extent ≤ extent') (hi : idle ≤ idle') :
    allowance size extent idle ≤ allowance size' extent' idle' := by
  refine Nat.mul_le_mul (Nat.add_le_add (Nat.mul_le_mul hs ?_) he) hi
  omega

theorem allowance_add (size size' extent extent' idle idle' : Nat) :
    allowance size extent idle + allowance size' extent' idle' ≤
      allowance (size + size') (extent + extent') (max idle idle') := by
  calc allowance size extent idle + allowance size' extent' idle'
      ≤ (size * max 1 (extent + extent') + extent) * max idle idle' +
          (size' * max 1 (extent + extent') + extent') * max idle idle' := by
        unfold allowance
        gcongr <;> omega
    _ = allowance (size + size') (extent + extent') (max idle idle') := by
        unfold allowance
        ring

theorem succ_allowance_le {size extent idle : Nat} (pos : 1 ≤ idle) :
    1 + allowance size extent idle ≤ allowance (1 + size) extent idle := by
  have one : 1 ≤ max 1 extent * idle := Nat.mul_pos (Nat.le_max_left 1 extent) pos
  calc 1 + allowance size extent idle ≤ max 1 extent * idle + allowance size extent idle :=
        Nat.add_le_add_right one _
    _ = allowance (1 + size) extent idle := by
        unfold allowance
        ring

/-- Copies of what generates something are paid for by what they generate. -/
theorem allowance_mul_le {size extent idle : Nat} (pos : 1 ≤ extent) (n : Nat) :
    allowance size extent idle * n ≤ allowance size (extent * n) idle := by
  have stretched : max 1 extent * n ≤ max 1 (extent * n) := by
    rw [Nat.max_eq_right pos]
    exact Nat.le_max_right _ _
  calc allowance size extent idle * n = (size * (max 1 extent * n) + extent * n) * idle := by
        unfold allowance
        ring
    _ ≤ allowance size (extent * n) idle := by
        unfold allowance
        gcongr

theorem allowance_zero_mul_le (size idle n : Nat) :
    allowance size 0 idle * n ≤ allowance size 0 (idle * max 1 n) := by
  unfold allowance
  rw [Nat.mul_assoc]
  gcongr
  exact Nat.le_max_right 1 n

theorem Atom.effort_eq_zero_or_extent_pos {a : Atom} (busy : ¬ a.isIdle = true) :
    a.effort = 0 ∨ 1 ≤ a.extent := by
  cases a with
  | literal _ => exact .inl rfl
  | set _ => exact .inr (Nat.le_refl 1)
  | any => exact .inr (Nat.le_refl 1)
  | anchor => exact .inl rfl
  | group p =>
    rw [isIdle, beq_iff_eq] at busy
    exact .inr (Nat.pos_of_ne_zero busy)

theorem Atom.extent_of_isIdle {a : Atom} (idle : a.isIdle = true) : a.extent = 0 := by
  cases a with
  | group p => exact eq_of_beq idle
  | literal _ => cases idle
  | set _ => cases idle
  | any => cases idle
  | anchor => cases idle

theorem Atom.copies_effort_le {a : Atom} (h : a.effort ≤ allowance a.size a.extent a.idle) (n : Nat) :
    a.effort * n ≤
      allowance a.size (a.extent * n) (a.idle * if a.isIdle then max 1 n else 1) := by
  have copies := Nat.mul_le_mul_right n h
  by_cases idle : a.isIdle = true
  · rw [extent_of_isIdle idle] at copies
    rw [if_pos idle, extent_of_isIdle idle, Nat.zero_mul]
    exact copies.trans (allowance_zero_mul_le a.size a.idle n)
  · -- what generates nothing and is no group takes no choices
    rw [if_neg idle, Nat.mul_one]
    rcases effort_eq_zero_or_extent_pos idle with none | some
    · rw [none, Nat.zero_mul]
      exact Nat.zero_le _
    · exact copies.trans (allowance_mul_le some n)

mutual

theorem Atom.effort_le : (a : Atom) → a.effort ≤ allowance a.size a.extent a.idle
  | .literal _ => Nat.zero_le _
  | .set _ => Nat.le_refl 1
  | .any => Nat.le_refl 1
  | .anchor => Nat.zero_le _
  | .group p =>
    (Nat.add_le_add_left (Pattern.effort_le p) 1).trans (succ_allowance_le (Pattern.idle_pos p))

theorem Piece.effort_le : (p : Piece) → p.effort ≤ allowance p.size p.extent p.idle
  | .mk a least most =>
    (Nat.add_le_add_left (Atom.copies_effort_le (Atom.effort_le a) most.toNat) 1).trans
      (succ_allowance_le (Piece.idle_pos (.mk a least most)))

theorem Pattern.runEffort_le : (ps : List Piece) → Pattern.runEffort ps ≤
    allowance (Pattern.runSize ps) (Pattern.runExtent ps) (Pattern.runIdle ps)
  | [] => Nat.zero_le _
  | p :: ps =>
    (Nat.add_le_add (Piece.effort_le p) (Pattern.runEffort_le ps)).trans
      (allowance_add _ _ _ _ _ _)

theorem Pattern.effort_le : (p : Pattern) → Pattern.effort p ≤
    allowance (Pattern.size p) (Pattern.extent p) (Pattern.idle p)
  | [] => Nat.zero_le _
  | ps :: rest =>
    Nat.max_le.2 ⟨
      (Pattern.runEffort_le ps).trans
        (allowance_mono (Nat.le_add_right _ _) (Nat.le_max_left _ _) (Nat.le_max_left _ _)),
      (Pattern.effort_le rest).trans
        (allowance_mono (Nat.le_add_left _ _) (Nat.le_max_right _ _) (Nat.le_max_right _ _))⟩

end

namespace Pattern

/-- A pattern that is read takes no more choices than its text and the limit on the length allow, for
each time that a group which generates nothing is repeated. -/
theorem effort_lt_of_read {text : String} {p : Pattern} (h : read text = .ok p) :
    1 + effort p ≤ (text.length + 1) * (maxExpansion + 1) * idle p := by
  obtain ⟨written, short⟩ := read_eq_ok_iff.1 h
  have extent_le : extent p ≤ maxExpansion := by
    rw [longest_eq, saturate] at short
    have uncapped : maxExpansion < lengthCap := by decide
    omega
  have size_le : size p ≤ text.length := written.size_le
  have positive : max 1 maxExpansion = maxExpansion := by decide
  calc 1 + effort p ≤ idle p + allowance (size p) (extent p) (idle p) :=
        Nat.add_le_add (idle_pos p) (effort_le p)
    _ ≤ idle p + allowance text.length maxExpansion (idle p) :=
        Nat.add_le_add_left (allowance_mono size_le extent_le (Nat.le_refl _)) _
    _ = ((text.length + 1) * maxExpansion + 1) * idle p := by
        rw [allowance, positive]
        ring
    _ ≤ (text.length + 1) * (maxExpansion + 1) * idle p := by
        gcongr
        rw [Nat.mul_succ]
        omega

/-- A pattern that is read gives a string and makes at most so many choices as its text and the limit
on the length allow, times the repetitions of groups that generate nothing. -/
theorem regexify_choices_le (text : String) (p : Pattern) (source : Source)
    (accepted : read text = .ok p) :
    ∃ s after, regexify text source = (.ok s, after) ∧
      after.choices ≤ source.choices + (text.length + 1) * (maxExpansion + 1) * idle p := by
  refine ⟨(generate p source).1, (generate p source).2, regexify_of_read accepted source, ?_⟩
  have bound := ((wellFormed_of_read accepted).chooses source).2
  exact bound.trans (Nat.add_le_add_left (effort_lt_of_read accepted) _)

/-- A digit in a repeated group, and a repeated group that generates nothing. -/
theorem regexify_choices_le_digits :
    ∃ s after, regexify "(\\d-)\x7b3\x7d(|$)\x7b2\x7d" (.scripted [1, 7]) = (.ok s, after) ∧
      after.choices ≤ 16 * (maxExpansion + 1) * 2 := by
  have accepted : read "(\\d-)\x7b3\x7d(|$)\x7b2\x7d" = .ok
      [[.mk (.group [[.mk (.set ⟨false, [.shorthand .digit]⟩) 1 1, .mk (.literal '-') 1 1]]) 3 3,
        .mk (.group [[], [.mk .anchor 1 1]]) 2 2]] := by
    refine read_eq_ok_iff.2 ⟨?_, by decide⟩
    have digits : PatternText ['\\', 'd', '-'] _ :=
      .one (.cons (.once (.escape (.shorthand .digit))) (.cons (.once (.literal (by decide))) .nil))
    have nothing : PatternText ['|', '$'] _ := .more .nil (.one (.cons (.once .finish) .nil))
    have three : NumberText ['3'] 3 := ⟨by decide, by simp, rfl⟩
    have two : NumberText ['2'] 2 := ⟨by decide, by simp, rfl⟩
    exact .one (.cons (.repeated (.group digits) (.greedy (.exactly three (by decide))))
      (.cons (.repeated (.group nothing) (.greedy (.exactly two (by decide)))) .nil))
  obtain ⟨s, after, drawn, bound⟩ := regexify_choices_le _ _ (.scripted [1, 7]) accepted
  exact ⟨s, after, drawn, bound.trans (by decide)⟩

/-- Two anchors in a repeated group, in another repeated group. -/
def anchors : Pattern :=
  [[.mk (.group [[.mk (.group [[.mk .anchor 1 1, .mk .anchor 1 1]]) 635 635]]) 980 980]]

theorem read_anchors : read "((^^)\x7b635\x7d)\x7b980\x7d" = .ok anchors := by
  refine read_eq_ok_iff.2 ⟨?_, by decide⟩
  have both : PatternText ['^', '^'] _ := .one (.cons (.once .start) (.cons (.once .start) .nil))
  have inner : NumberText ['6', '3', '5'] 635 := ⟨by decide, by simp, rfl⟩
  have outer : NumberText ['9', '8', '0'] 980 := ⟨by decide, by simp, rfl⟩
  have group := PieceText.repeated (.group both) (.greedy (.exactly inner (by decide)))
  exact .one (.cons (.repeated (.group (.one (.cons group .nil)))
    (.greedy (.exactly outer (by decide)))) .nil)

/-- Groups that generate nothing take more choices than the length of the text and the limit on the
length of what is generated allow. -/
theorem regexify_choices_exceed :
    ∃ s after, regexify "((^^)\x7b635\x7d)\x7b980\x7d" (.scripted [1, 1, 1, 1]) =
        (.ok s, after) ∧
      ("((^^)\x7b635\x7d)\x7b980\x7d".length + 1) * (maxExpansion + 1) < after.choices := by
  refine ⟨_, _, regexify_of_read read_anchors _, ?_⟩
  have fewest := ((wellFormed_of_read read_anchors).chooses (.scripted [1, 1, 1, 1])).1
  have least : leastEffort anchors = 1868861 := by decide
  have limit : ("((^^)\x7b635\x7d)\x7b980\x7d".length + 1) * (maxExpansion + 1) = 1700017 := by
    decide
  rw [least] at fewest
  rw [limit]
  omega

end Pattern

end Figment
