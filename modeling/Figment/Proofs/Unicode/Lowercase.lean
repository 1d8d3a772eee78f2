import Figment.Unicode.Lowering
/-!
Lowercase forms are in lower case already.

The runs of capitals and the runs of their lowercase forms do not meet: where one lies between the
ends of another, both take every second code point, one the even and the other the odd ones. A text
in which no capital sigma ends a word is lowercased character by character. A lowercased text is left
as it is when it is lowercased again. A word in ASCII letters without a k is the lowercase form of those
texts only that spell it in ASCII letters; a k is the form of the Kelvin sign too.
-/

namespace Figment.Unicode

/-- The lowercase form of the last character of the run. -/
def Shift.imageLast (s : Shift) : Nat :=
  s.image + (s.run.last - s.run.first)

/-- Whether the run takes every second code point, or one only. -/
def Run.isSpaced (r : Run) : Bool :=
  Nat.beq r.step 2 || Nat.beq r.first r.last

/-- Whether the lowercase forms lie in front of a run, behind it, or in its gaps. -/
def Shift.avoids (s : Shift) (r : Run) : Bool :=
  Nat.blt s.imageLast r.first || Nat.blt r.last s.image ||
    (s.run.isSpaced && (r.isSpaced && Nat.beq ((s.image + r.first) % 2) 1))

theorem Run.contains_iff {r : Run} {n : Nat} :
    r.contains n = true ↔ r.first ≤ n ∧ n ≤ r.last ∧ (n - r.first) % r.step = 0 := by
  simp [Run.contains, and_assoc]

theorem Run.isSpaced_iff {r : Run} : r.isSpaced = true ↔ r.step = 2 ∨ r.first = r.last := by
  simp [Run.isSpaced]

theorem Run.even_of_isSpaced {r : Run} (h : r.isSpaced = true) {n : Nat}
    (hn : r.contains n = true) : (n - r.first) % 2 = 0 := by
  obtain ⟨least, most, steps⟩ := Run.contains_iff.1 hn
  rcases Run.isSpaced_iff.1 h with two | one
  · rw [two] at steps
    exact steps
  · have zero : n - r.first = 0 := by omega
    rw [zero]

theorem Shift.not_contains_of_avoids {s : Shift} {r : Run} (h : s.avoids r = true) {n : Nat}
    (hn : s.run.contains n = true) : r.contains (s.image + (n - s.run.first)) = false := by
  apply Bool.eq_false_iff.2
  intro hit
  obtain ⟨least, most, _⟩ := Run.contains_iff.1 hn
  obtain ⟨above, below, _⟩ := Run.contains_iff.1 hit
  simp only [avoids, Bool.or_eq_true, Bool.and_eq_true, Nat.blt_eq, Nat.beq_eq] at h
  rcases h with (front | behind) | ⟨spaced, spaced', odd⟩
  · unfold imageLast at front
    omega
  · omega
  · have even := Run.even_of_isSpaced spaced hn
    have even' := Run.even_of_isSpaced spaced' hit
    omega

theorem lowerShifts_avoid {s t : Shift} (hs : s ∈ lowerShifts) (ht : t ∈ lowerShifts) :
    s.avoids t.run = true := by
  have all : (lowerShifts.all fun s => lowerShifts.all fun t => s.avoids t.run) = true := by
    decide +kernel
  exact List.all_eq_true.1 (List.all_eq_true.1 all s hs) t ht

/-- No lowercase form is a point, an underscore or the capital I with a dot above. -/
theorem lowerShifts_avoid_single : ∀ s ∈ lowerShifts,
    s.avoids ⟨46, 46, 1⟩ = true ∧ s.avoids ⟨95, 95, 1⟩ = true ∧
      s.avoids ⟨304, 304, 1⟩ = true := by
  have all : (lowerShifts.all fun s => decide (s.avoids ⟨46, 46, 1⟩ = true ∧
      s.avoids ⟨95, 95, 1⟩ = true ∧ s.avoids ⟨304, 304, 1⟩ = true)) = true := by
    decide +kernel
  exact fun s mem => of_decide_eq_true (List.all_eq_true.1 all s mem)

/-- All lowercase forms are characters. -/
theorem lowerShifts_valid : ∀ s ∈ lowerShifts,
    s.imageLast < 0xd800 ∨ 0xdfff < s.image ∧ s.imageLast < 0x110000 := by
  have all : (lowerShifts.all fun s => decide (s.imageLast < 0xd800 ∨
      0xdfff < s.image ∧ s.imageLast < 0x110000)) = true := by
    decide +kernel
  exact fun s mem => of_decide_eq_true (List.all_eq_true.1 all s mem)

/-- A character that the mapping changes lies on one of the runs, and its form is the image. -/
theorem lowerChar_cases (c : Char) :
    c = '\u0130' ∨ lowerChar c = [c] ∨ ∃ s ∈ lowerShifts, ∃ d : Char,
      s.run.contains c.toNat = true ∧ d.toNat = s.image + (c.toNat - s.run.first) ∧
        lowerChar c = [d] := by
  by_cases dotted : c = '\u0130'
  · exact .inl dotted
  · refine .inr ?_
    rw [lowerChar, if_neg dotted]
    cases found : lowerShifts.findSome? (·.target? c.toNat) with
    | none => exact .inl rfl
    | some n =>
      obtain ⟨s, mem, target⟩ := List.exists_of_findSome?_eq_some found
      unfold Shift.target? at target
      split at target
      · next contained =>
        cases target
        have valid : (s.image + (c.toNat - s.run.first)).isValidChar := by
          have range := lowerShifts_valid s mem
          obtain ⟨least, most, _⟩ := Run.contains_iff.1 contained
          unfold Shift.imageLast at range
          unfold Nat.isValidChar
          omega
        have code : (Char.ofNat (s.image + (c.toNat - s.run.first))).toNat =
            s.image + (c.toNat - s.run.first) := by
          rw [Char.ofNat, dif_pos valid]
          rfl
        exact .inr ⟨s, mem, Char.ofNat _, contained, code, rfl⟩
      · cases target

theorem lowerChar_dotted : lowerChar '\u0130' = ['i', '\u0307'] := rfl

theorem lowerChar_capitalSigma : lowerChar '\u03a3' = ['\u03c3'] := by
  decide +kernel

/-- A character on none of the runs is mapped to itself. -/
theorem lowerChar_of_not_contains {c : Char} (undotted : c ≠ '\u0130')
    (h : ∀ s ∈ lowerShifts, s.run.contains c.toNat = false) : lowerChar c = [c] := by
  have fixed : lowerShifts.findSome? (·.target? c.toNat) = none := by
    apply List.findSome?_eq_none_iff.2
    intro s mem
    rw [Shift.target?, h s mem]
    rfl
  rw [lowerChar, if_neg undotted, fixed]
  rfl

/-- What the dotted capital I and the sigmas are mapped to, the underscore and the point. -/
def plainChars : List Char :=
  ['i', '\u0307', '\u03c2', '\u03c3', '_', '.']

theorem lowerChar_plain {c : Char} (h : c ∈ plainChars) : lowerChar c = [c] := by
  have missed : (plainChars.all fun d => lowerShifts.all fun s => !s.run.contains d.toNat) = true := by
    decide +kernel
  have undotted : '\u0130' ∉ plainChars := by decide
  refine lowerChar_of_not_contains (fun eq => undotted (eq ▸ h)) fun s mem => ?_
  simpa using List.all_eq_true.1 (List.all_eq_true.1 missed c h) s mem

theorem lowerChar_of_mem_lowerChar {c d : Char} (h : d ∈ lowerChar c) : lowerChar d = [d] := by
  rcases lowerChar_cases c with rfl | same | ⟨s, mem, e, contained, code, form⟩
  · apply lowerChar_plain
    rw [lowerChar_dotted] at h
    exact List.mem_append_left _ h
  · rw [same] at h
    rw [List.mem_singleton.1 h, same]
  · rw [form] at h
    rw [List.mem_singleton.1 h]
    -- No run holds a form, so that the form is mapped to itself.
    have other (r : Run) (avoided : s.avoids r = true) : r.contains e.toNat = false := by
      rw [code]
      exact Shift.not_contains_of_avoids avoided contained
    have undotted : e ≠ '\u0130' := by
      rintro rfl
      have missed := other ⟨304, 304, 1⟩ (lowerShifts_avoid_single s mem).2.2
      revert missed
      decide
    exact lowerChar_of_not_contains undotted fun t ht => other t.run (lowerShifts_avoid mem ht)

/-- Where no run of lowercase forms goes, a character is the form of nothing else. -/
theorem eq_of_mem_lowerChar {c d : Char}
    (avoided : ∀ s ∈ lowerShifts, s.avoids ⟨d.toNat, d.toNat, 1⟩ = true)
    (undotted : d ∉ lowerChar '\u0130') (h : d ∈ lowerChar c) : c = d := by
  rcases lowerChar_cases c with rfl | same | ⟨s, mem, e, contained, code, form⟩
  · exact absurd h undotted
  · rw [same] at h
    exact (List.mem_singleton.1 h).symm
  · rw [form] at h
    have missed := Shift.not_contains_of_avoids (avoided s mem) contained
    rw [← code, ← List.mem_singleton.1 h] at missed
    simp [Run.contains] at missed

theorem lowerChar_underscore : lowerChar '_' = ['_'] :=
  lowerChar_plain (by decide)

theorem eq_underscore_of_mem_lowerChar {c : Char} (h : '_' ∈ lowerChar c) : c = '_' :=
  eq_of_mem_lowerChar (fun s mem => (lowerShifts_avoid_single s mem).2.1)
    (by rw [lowerChar_dotted]; decide) h

theorem filter_lowerChar {c : Char} (h : c ≠ '_') :
    (lowerChar c).filter (· ≠ '_') = lowerChar c := by
  apply List.filter_eq_self.2
  intro d hd
  apply decide_eq_true
  rintro rfl
  exact h (eq_underscore_of_mem_lowerChar hd)

theorem lowerChar_point : lowerChar '.' = ['.'] :=
  lowerChar_plain (by decide)

theorem eq_point_of_mem_lowerChar {c : Char} (h : '.' ∈ lowerChar c) : c = '.' :=
  eq_of_mem_lowerChar (fun s mem => (lowerShifts_avoid_single s mem).1)
    (by rw [lowerChar_dotted]; decide) h

theorem capitalSigma_not_mem_lowerChar (c : Char) : '\u03a3' ∉ lowerChar c := by
  intro h
  have fixed := lowerChar_of_mem_lowerChar h
  rw [lowerChar_capitalSigma] at fixed
  revert fixed
  decide

theorem flatMap_lowerChar_of_fixed {s : List Char} (h : ∀ c ∈ s, lowerChar c = [c]) :
    s.flatMap lowerChar = s := by
  induction s with
  | nil => rfl
  | cons c s ih =>
    rw [List.flatMap_cons, h c List.mem_cons_self, ih fun d hd => h d (List.mem_cons_of_mem c hd)]
    rfl

theorem flatMap_lowerChar_lowerChar (c : Char) : (lowerChar c).flatMap lowerChar = lowerChar c :=
  flatMap_lowerChar_of_fixed fun _ => lowerChar_of_mem_lowerChar

/-- The lowercase form of a text in which a rule says what becomes of a capital sigma, from what stands
before it, read backwards, and behind it. -/
def lowerWith (sigma : List Char → List Char → Char) (before : List Char) : List Char → List Char
  | [] => []
  | c :: rest =>
    (if c = '\u03a3' then [sigma before rest] else lowerChar c) ++ lowerWith sigma (c :: before) rest

theorem lowerAfter_eq_lowerWith (before s : List Char) :
    lowerAfter before s = lowerWith lowerSigma before s := by
  induction s generalizing before with
  | nil => rfl
  | cons c s ih => rw [lowerAfter, lowerWith, ih]

theorem flatMap_eq_lowerWith (before s : List Char) :
    s.flatMap lowerChar = lowerWith (fun _ _ => '\u03c3') before s := by
  induction s generalizing before with
  | nil => rfl
  | cons c s ih =>
    rw [List.flatMap_cons, lowerWith, ih (c :: before)]
    by_cases capital : c = '\u03a3'
    · rw [if_pos capital, capital, lowerChar_capitalSigma]
    · rw [if_neg capital]

/-- Two rules give one text exactly if they agree on every capital sigma in it. -/
theorem lowerWith_eq_iff {f g : List Char → List Char → Char} (before s : List Char) :
    lowerWith f before s = lowerWith g before s ↔
      ∀ u v, s = u ++ '\u03a3' :: v → f (u.reverse ++ before) v = g (u.reverse ++ before) v := by
  induction s generalizing before with
  | nil => simp [lowerWith]
  | cons c s ih =>
    have head : (if c = '\u03a3' then [f before s] else lowerChar c) =
        (if c = '\u03a3' then [g before s] else lowerChar c) ↔
          (c = '\u03a3' → f before s = g before s) := by
      by_cases capital : c = '\u03a3'
      · simp [capital]
      · simp [capital]
    -- Either way a character has as many forms, so that the texts agree form by form.
    have same : (if c = '\u03a3' then [f before s] else lowerChar c).length =
        (if c = '\u03a3' then [g before s] else lowerChar c).length := by
      by_cases capital : c = '\u03a3'
      · simp [capital]
      · simp [capital]
    rw [lowerWith, lowerWith]
    constructor
    · intro eq u v split
      obtain ⟨here, later⟩ := List.append_inj eq same
      cases u with
      | nil =>
        obtain ⟨rfl, rfl⟩ := List.cons.inj split
        exact head.1 here rfl
      | cons d u =>
        obtain ⟨rfl, rfl⟩ := List.cons.inj split
        simpa using (ih (c :: before)).1 later u v rfl
    · intro agree
      have here := head.2 fun capital => agree [] s (by rw [capital]; rfl)
      have later := (ih (c :: before)).2 fun u v split => by
        simpa using agree (c :: u) v (by rw [split]; rfl)
      rw [here, later]

/-- A text is lowercased character by character exactly if no capital sigma takes its final form. -/
theorem lowerAfter_eq_flatMap_iff (before s : List Char) :
    lowerAfter before s = s.flatMap lowerChar ↔
      ∀ u v, s = u ++ '\u03a3' :: v → lowerSigma (u.reverse ++ before) v = '\u03c3' := by
  rw [lowerAfter_eq_lowerWith, flatMap_eq_lowerWith before, lowerWith_eq_iff]

theorem lowerChar_of_mem_lowerAfter {before s : List Char} {c : Char}
    (h : c ∈ lowerAfter before s) : lowerChar c = [c] := by
  induction s generalizing before with
  | nil => cases h
  | cons d s ih =>
    rw [lowerAfter, List.mem_append] at h
    rcases h with here | later
    · by_cases capital : d = '\u03a3'
      · rw [if_pos capital, List.mem_singleton, lowerSigma] at here
        apply lowerChar_plain
        split at here
        · rw [here]
          decide
        · rw [here]
          decide
      · rw [if_neg capital] at here
        exact lowerChar_of_mem_lowerChar here
    · exact ih later

theorem lowerAfter_of_fixed {s : List Char} (h : ∀ c ∈ s, lowerChar c = [c])
    (before : List Char) : lowerAfter before s = s := by
  have whole : lowerAfter before s = s.flatMap lowerChar := by
    apply (lowerAfter_eq_flatMap_iff before s).2
    intro u v split
    have fixed := h '\u03a3' (by rw [split]; simp)
    rw [lowerChar_capitalSigma] at fixed
    exact absurd fixed (by decide)
  rw [whole, flatMap_lowerChar_of_fixed h]

theorem lower_eq_self_iff {s : String} : lower s = s ↔ ∀ c ∈ s.toList, lowerChar c = [c] := by
  constructor
  · intro h c mem
    rw [← h, lower, String.toList_ofList] at mem
    exact lowerChar_of_mem_lowerAfter mem
  · intro h
    rw [lower, lowerAfter_of_fixed h, String.ofList_toList]

@[simp] theorem lower_lower (s : String) : lower (lower s) = lower s := by
  apply lower_eq_self_iff.2
  intro c mem
  rw [lower, String.toList_ofList] at mem
  exact lowerChar_of_mem_lowerAfter mem

theorem point_mem_lowerAfter_iff {before s : List Char} : '.' ∈ lowerAfter before s ↔ '.' ∈ s := by
  induction s generalizing before with
  | nil => rfl
  | cons c s ih =>
    have here : '.' ∈ (if c = '\u03a3' then [lowerSigma before s] else lowerChar c) ↔ '.' = c := by
      by_cases capital : c = '\u03a3'
      · rw [if_pos capital, capital, lowerSigma]
        split
        · decide
        · decide
      · rw [if_neg capital]
        constructor
        · intro mem
          exact (eq_point_of_mem_lowerChar mem).symm
        · rintro rfl
          rw [lowerChar_point]
          exact List.mem_singleton_self '.'
    rw [lowerAfter, List.mem_append, here, ih, List.mem_cons]

theorem point_mem_lower_iff {s : String} : '.' ∈ (lower s).toList ↔ '.' ∈ s.toList := by
  rw [lower, String.toList_ofList]
  exact point_mem_lowerAfter_iff

/-- One run holds the ASCII capitals, and no other one reaches a lowercase ASCII letter, apart from k, the
form of the Kelvin sign. -/
theorem lowerShifts_avoid_ascii : ∀ s ∈ lowerShifts, s = ⟨⟨65, 90, 1⟩, 97⟩ ∨
    128 ≤ s.run.first ∧ s.avoids ⟨97, 106, 1⟩ = true ∧ s.avoids ⟨108, 122, 1⟩ = true := by
  have all : (lowerShifts.all fun s => decide (s = ⟨⟨65, 90, 1⟩, 97⟩ ∨
      128 ≤ s.run.first ∧ s.avoids ⟨97, 106, 1⟩ = true ∧ s.avoids ⟨108, 122, 1⟩ = true)) = true := by
    decide +kernel
  exact fun s mem => of_decide_eq_true (List.all_eq_true.1 all s mem)

theorem lowerChar_of_isAscii {c : Char} (h : c.toNat < 128) : lowerChar c = [c.toLower] := by
  by_cases capital : 65 ≤ c.toNat ∧ c.toNat ≤ 90
  · have all : ((List.range' 65 26).all fun n =>
        decide (lowerChar (.ofNat n) = [(Char.ofNat n).toLower])) = true := by
      decide +kernel
    have mem : c.toNat ∈ List.range' 65 26 := by
      rw [List.mem_range'_1]
      omega
    have here := of_decide_eq_true (List.all_eq_true.1 all c.toNat mem)
    rwa [Char.ofNat_toNat] at here
  · have same : c.toLower = c := dif_neg capital
    have undotted : c ≠ '\u0130' := by
      rintro rfl
      revert h
      decide
    rw [same]
    refine lowerChar_of_not_contains undotted fun s mem => Bool.eq_false_iff.2 fun contained => ?_
    obtain ⟨least, most, _⟩ := Run.contains_iff.1 contained
    rcases lowerShifts_avoid_ascii s mem with rfl | ⟨beyond, _⟩
    · exact capital ⟨least, most⟩
    · omega

/-- Whether a character is a lowercase ASCII letter other than k. -/
def isPlainLetter (c : Char) : Bool :=
  c.isLower && c ≠ 'k'

theorem isPlainLetter_iff {c : Char} : isPlainLetter c = true ↔
    97 ≤ c.toNat ∧ c.toNat ≤ 106 ∨ 108 ≤ c.toNat ∧ c.toNat ≤ 122 := by
  have other : c = 'k' ↔ c.toNat = 107 := by
    constructor
    · rintro rfl
      rfl
    · intro code
      rw [← Char.ofNat_toNat c, code]
  have range : c.isLower = true ↔ 97 ≤ c.toNat ∧ c.toNat ≤ 122 := by
    change (decide (97 ≤ c.toNat) && decide (c.toNat ≤ 122)) = true ↔ _
    rw [Bool.and_eq_true, decide_eq_true_eq, decide_eq_true_eq]
  simp only [isPlainLetter, Bool.and_eq_true, decide_eq_true_eq, range, ne_eq, other]
  omega

/-- A character beyond ASCII has no such letter as its form, the dotted capital I apart. -/
theorem isAscii_of_mem_lowerChar {c d : Char} (letter : isPlainLetter d = true)
    (undotted : c ≠ '\u0130') (h : d ∈ lowerChar c) : c.toNat < 128 := by
  have range := isPlainLetter_iff.1 letter
  rcases lowerChar_cases c with dotted | same | ⟨s, mem, e, contained, code, form⟩
  · exact absurd dotted undotted
  · rw [same] at h
    rw [← List.mem_singleton.1 h]
    omega
  · rw [form] at h
    rw [← List.mem_singleton.1 h] at code
    rcases lowerShifts_avoid_ascii s mem with rfl | ⟨_, low, high⟩
    · have most : c.toNat ≤ 90 := (Run.contains_iff.1 contained).2.1
      omega
    · have outside {r : Run} (avoided : s.avoids r = true) :
          ¬(r.first ≤ d.toNat ∧ d.toNat ≤ r.last ∧ (d.toNat - r.first) % r.step = 0) := by
        rw [← Run.contains_iff, Bool.not_eq_true, code]
        exact Shift.not_contains_of_avoids avoided contained
      rcases range with ⟨least, most⟩ | ⟨least, most⟩
      · exact absurd ⟨least, most, Nat.mod_one _⟩ (outside low)
      · exact absurd ⟨least, most, Nat.mod_one _⟩ (outside high)

theorem isAscii_of_toLower {c : Char} (h : isPlainLetter c.toLower = true) : c.toNat < 128 := by
  apply Nat.lt_of_not_le
  intro beyond
  have same : c.toLower = c := dif_neg fun capital => by
    have most : c.toNat ≤ 90 := capital.2
    omega
  rw [same, isPlainLetter_iff] at h
  omega

/-- A character beyond ASCII has a form in which not every character is such a letter. -/
theorem isAscii_of_lowerForm {c : Char} {before after : List Char}
    (h : ∀ d ∈ if c = '\u03a3' then [lowerSigma before after] else lowerChar c,
      isPlainLetter d = true) :
    c.toNat < 128 := by
  by_cases capital : c = '\u03a3'
  · rw [if_pos capital] at h
    have letter := h _ (List.mem_singleton_self _)
    rw [lowerSigma] at letter
    split at letter
    · cases letter
    · cases letter
  · rw [if_neg capital] at h
    by_cases dotted : c = '\u0130'
    · rw [dotted, lowerChar_dotted] at h
      cases h '\u0307' (by decide)
    · obtain ⟨d, mem⟩ : ∃ d, d ∈ lowerChar c := by
        rw [lowerChar, if_neg dotted]
        exact ⟨_, List.mem_singleton_self _⟩
      exact isAscii_of_mem_lowerChar (h d mem) dotted mem

/-- A word of such letters is the lowercase form of the texts that spell it in ASCII letters. -/
theorem lowerAfter_eq_iff {word : List Char} (letters : ∀ c ∈ word, isPlainLetter c = true)
    (before s : List Char) : lowerAfter before s = word ↔ s.map Char.toLower = word := by
  induction s generalizing before word with
  | nil => rfl
  | cons c s ih =>
    by_cases ascii : c.toNat < 128
    · have form : (if c = '\u03a3' then [lowerSigma before s] else lowerChar c) = [c.toLower] := by
        rw [if_neg, lowerChar_of_isAscii ascii]
        rintro rfl
        revert ascii
        decide
      rw [lowerAfter, form, List.map_cons]
      cases word with
      | nil => simp
      | cons d word =>
        rw [List.singleton_append, List.cons.injEq, List.cons.injEq,
          ih (fun e mem => letters e (List.mem_cons_of_mem d mem))]
    · constructor
      · rintro rfl
        rw [lowerAfter] at letters
        exact absurd (isAscii_of_lowerForm fun d mem => letters d (List.mem_append_left _ mem)) ascii
      · rintro rfl
        exact absurd (isAscii_of_toLower (letters _ List.mem_cons_self)) ascii

theorem lower_eq_iff {word : String} (letters : ∀ c ∈ word.toList, isPlainLetter c = true)
    {s : String} : lower s = word ↔ s.toList.map Char.toLower = word.toList := by
  rw [← lowerAfter_eq_iff letters [], lower, ← String.toList_inj, String.toList_ofList]

end Figment.Unicode
