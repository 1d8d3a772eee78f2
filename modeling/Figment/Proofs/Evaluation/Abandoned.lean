import Figment.Proofs.Evaluation.Failures
/-!
What a failed evaluation leaves open.

Nothing is closed after a failure. The directives and categories in which it arose stay open, on top
of all that was open before, so that an evaluation that goes on from there finds fewer levels and
another category. Only a failure that arises before anything has been opened leaves the trail as it
was.
-/

namespace Figment

/-- All that is open on the first trail is open on the second one, which may have more on top. -/
structure Trail.Extends (t u : Trail) : Prop where
  limit : u.limit = t.limit
  running : t.running <:+ u.running
  categories : t.categories <:+ u.categories

namespace Trail

theorem extends_refl (t : Trail) : Extends t t :=
  ⟨rfl, List.suffix_refl _, List.suffix_refl _⟩

/-- Something is open on the second trail in addition to all that is open on the first one. -/
def Deeper (t u : Trail) : Prop :=
  (∃ label, label :: t.running <:+ u.running) ∨ ∃ category, category :: t.categories <:+ u.categories

theorem Deeper.ne {t u : Trail} (h : Deeper t u) : u ≠ t := by
  rintro rfl
  rcases h with ⟨label, longer⟩ | ⟨category, longer⟩
  · exact Nat.not_succ_le_self _ longer.length_le
  · exact Nat.not_succ_le_self _ longer.length_le

end Trail

namespace Eval

open Trail

variable {g : Generator}

theorem admits_extends (g : Generator) : Admits g fun t _ u => Extends t u where
  tooDeep t _ := extends_refl t
  badTemplate t _ _ := extends_refl t
  refusal t _ _ := extends_refl t
  missing t _ _ _ := extends_refl t
  nothing t _ _ := extends_refl t
  opened _ label _ _ h := ⟨h.limit, (List.suffix_cons label _).trans h.running, h.categories⟩
  entered _ key _ _ h :=
    ⟨h.limit, h.running, (List.suffix_cons (Tree.category key) _).trans h.categories⟩

theorem fails_extends (subject : Subject) : Fails (fun t _ u => Extends t u) (subject.evaluate g) :=
  fails_evaluate (admits_extends g) subject fun _ _ _ t => extends_refl t

theorem fails_same_of_zero (d : Directive) : Fails (fun t _ u => u = t) (directive g 0 d) := by
  intro p x q eq
  rw [directive_zero] at eq
  cases eq
  rfl

/-- A directive for which there is a level is open when it fails. -/
theorem fails_deeper_of_succ (levels : Nat) (d : Directive) :
    Fails (fun t _ u => t.depth < t.limit → Deeper t u) (directive g (levels + 1) d) := by
  intro p x q eq below
  rw [directive_succ, bind_of_ok (push_of_lt d.label below)] at eq
  have inner := fails_directive (admits_extends g) levels
  have keeps := keeps_directive g levels
  rcases bind_eq_error eq with failed | ⟨output, middle, _, closing⟩
  · have arguments := (fails_arguments keeps inner d.args).bind (keeps_arguments keeps d.args)
      fun args => (fails_raw (admits_extends g) keeps inner d args).bind (keeps_raw keeps d args)
        fun raw => fails_text (admits_extends g) keeps inner raw
    exact .inl ⟨d.label, (arguments _ x q failed).running⟩
  · cases closing

/-- Whether failures of the subject arise before anything is opened. -/
def Subject.Unopened (g : Generator) (t : Trail) : Subject → Prop
  | text s => t.limit ≤ t.depth ∨ ∃ e, Template.read s = .error e
  | template _ => t.limit ≤ t.depth
  | directive _ => t.limit ≤ t.depth
  | key k => g.lookup k = none ∨ g.lookup k = some []

/-- Evaluations that fail only where one of their directives does. -/
theorem same_or_deeper_of_directives {run : (Directive → Eval String) → Eval String}
    (passes : ∀ {R : Trail → Failure → Trail → Prop} {directive : Directive → Eval String},
      (∀ d, Keeps (directive d)) → (∀ d, Fails R (directive d)) → Fails R (run directive))
    {p q : Progress} {x : Failure} (h : withLevels g run p = (.error x, q)) :
    p.trail.limit ≤ p.trail.depth ∧ q.trail = p.trail ∨
      ¬ p.trail.limit ≤ p.trail.depth ∧ Deeper p.trail q.trail := by
  change run (directive g (p.trail.limit - p.trail.depth)) p = (.error x, q) at h
  rcases Nat.lt_or_ge p.trail.depth p.trail.limit with below | full
  · obtain ⟨levels, left⟩ : ∃ levels, p.trail.limit - p.trail.depth = levels + 1 :=
      Nat.exists_eq_succ_of_ne_zero (Nat.sub_ne_zero_of_lt below)
    rw [left] at h
    have deeper := passes (keeps_directive g (levels + 1)) (fails_deeper_of_succ levels) p x q h
    exact .inr ⟨Nat.not_le.2 below, deeper below⟩
  · rw [Nat.sub_eq_zero_of_le full] at h
    exact .inl ⟨full, passes (keeps_directive g 0) fails_same_of_zero p x q h⟩

theorem same_or_deeper_text {p q : Progress} {s : String} {x : Failure}
    (h : g.evalText s p = (.error x, q)) :
    (Subject.text s).Unopened g p.trail ∧ q.trail = p.trail ∨
      ¬ (Subject.text s).Unopened g p.trail ∧ Deeper p.trail q.trail := by
  change text (directive g (p.trail.limit - p.trail.depth)) s p = (.error x, q) at h
  rw [text] at h
  by_cases mark : Template.hasMark s.toList = true
  · rw [if_pos mark] at h
    cases read : Template.read s with
    | ok t =>
      rw [read] at h
      have unread : ¬ ∃ e, Template.read s = .error e := by
        rintro ⟨e, failed⟩
        rw [read] at failed
        cases failed
      rcases same_or_deeper_of_directives (fun hk hd => fails_template hk hd t) h
        with ⟨full, same⟩ | ⟨below, deeper⟩
      · exact .inl ⟨.inl full, same⟩
      · exact .inr ⟨not_or.2 ⟨below, unread⟩, deeper⟩
    | error e =>
      rw [read] at h
      cases h
      exact .inl ⟨.inr ⟨e, read⟩, rfl⟩
  · rw [if_neg mark] at h
    cases h

theorem same_or_deeper_key {p q : Progress} {k : String} {x : Failure}
    (h : g.resolveIn k p = (.error x, q)) :
    (Subject.key k).Unopened g p.trail ∧ q.trail = p.trail ∨
      ¬ (Subject.key k).Unopened g p.trail ∧ Deeper p.trail q.trail := by
  change resolve g (directive g (p.trail.limit - p.trail.depth)) k p = (.error x, q) at h
  rw [resolve, lookup_lower] at h
  cases found : g.lookup k with
  | none =>
    rw [found] at h
    cases h
    exact .inl ⟨.inl found, rfl⟩
  | some values =>
    rw [found] at h
    rcases bind_eq_error h with failed | ⟨picked, middle, drawn, h⟩
    · rw [draw_apply] at failed
      obtain ⟨nothing, rfl⟩ := Prod.mk.inj failed
      obtain ⟨rfl, _⟩ := Draw.eq_nil_of_pick (Prod.ext nothing rfl)
      exact .inl ⟨.inr found, rfl⟩
    · rw [draw_apply] at drawn
      obtain ⟨item, rfl⟩ := Prod.mk.inj drawn
      have opened : ¬ (Subject.key k).Unopened g p.trail := by
        rintro (absent | nothing)
        · rw [found] at absent
          cases absent
        · rw [found] at nothing
          cases nothing
          cases item
      rcases bind_eq_error h with entering | ⟨_, inside, entering, h⟩
      · cases entering
      · cases entering
        rcases bind_eq_error h with failed | ⟨output, last, _, leaving⟩
        · have inner := fails_text (admits_extends g) (keeps_directive g _)
            (fails_directive (admits_extends g) _) picked _ x q failed
          exact .inr ⟨opened, .inr ⟨Tree.category (Unicode.lower k), inner.categories⟩⟩
        · cases leaving

/-- What a failed evaluation leaves is the trail as it was, if nothing had been opened, and else a
trail with more on top. -/
theorem same_or_deeper {p q : Progress} {subject : Subject} {x : Failure}
    (h : subject.evaluate g p = (.error x, q)) :
    subject.Unopened g p.trail ∧ q.trail = p.trail ∨
      ¬ subject.Unopened g p.trail ∧ Deeper p.trail q.trail := by
  cases subject with
  | text s => exact same_or_deeper_text h
  | template t => exact same_or_deeper_of_directives (fun hk hd => fails_template hk hd t) h
  | directive d => exact same_or_deeper_of_directives (fun _ hd => hd d) h
  | key k => exact same_or_deeper_key h

/-- Whatever is open when an evaluation begins is open when it fails, in its place below all that the
evaluation has opened. The trail is as it was exactly if nothing had been opened yet. -/
theorem failed_evaluation_extends_trail (g : Generator) (subject : Subject) (p q : Progress)
    (x : Failure) (h : subject.evaluate g p = (.error x, q)) :
    p.trail.Extends q.trail ∧ (q.trail = p.trail ↔ subject.Unopened g p.trail) := by
  refine ⟨fails_extends subject p x q h, ?_⟩
  rcases same_or_deeper h with ⟨unopened, same⟩ | ⟨opened, deeper⟩
  · exact iff_of_true same unopened
  · exact iff_of_false deeper.ne opened

/-- A directive inside of another one, and a key that is missing at the start. -/
theorem failed_evaluation_extends_trail_nested :
    let start : Progress := ⟨⟨["Name.name"], ["name"], 3⟩, Source.scripted [], 1⟩
    ∃ q r, (Subject.text "#\x7bexamplify #\x7bnope\x7d\x7d").evaluate petGenerator start =
        (.error (.unknownBuiltin "nope" []), q) ∧
      (Subject.key "pet.nope").evaluate petGenerator start =
        (.error (.missingKey "pet.nope" ["en"]), r) ∧
      start.trail.Extends q.trail ∧ q.trail ≠ start.trail ∧ r.trail = start.trail := by
  intro start
  have nested : ((Subject.text "#\x7bexamplify #\x7bnope\x7d\x7d").evaluate petGenerator start).1 =
      .error (.unknownBuiltin "nope" []) := by
    decide +kernel
  have missing : ((Subject.key "pet.nope").evaluate petGenerator start).1 =
      .error (.missingKey "pet.nope" ["en"]) := by
    decide +kernel
  obtain ⟨extended, opened⟩ := failed_evaluation_extends_trail petGenerator
    (.text "#\x7bexamplify #\x7bnope\x7d\x7d") start _ _ (Prod.ext nested rfl)
  obtain ⟨_, unopened⟩ := failed_evaluation_extends_trail petGenerator (.key "pet.nope") start _ _
    (Prod.ext missing rfl)
  refine ⟨_, _, Prod.ext nested rfl, Prod.ext missing rfl, extended, ?_, ?_⟩
  · rw [ne_eq, opened]
    rintro (full | ⟨e, failed⟩)
    · exact absurd full (by decide)
    · have read : (Template.read "#\x7bexamplify #\x7bnope\x7d\x7d").toOption.isSome = true := by
        decide +kernel
      rw [failed] at read
      cases read
  · exact unopened.2 (.inl (by decide +kernel))

/-- Data with one value that cannot be evaluated, beside one that can. -/
def brokenPetGenerator : Generator where
  chain := ⟨["en"]⟩
  maxDepth := 2
  store := ⟨[("en", .table [
    ("pet", .table [("kind", .text "cat"), ("line", .text "#\x7bnope\x7d")])])]⟩
  registry := .empty
  instances := .empty

/-- After a failure, a bare name is found in the category that has stayed open, and directives that
were allowed before are too deep. -/
theorem failed_evaluation_misleads_fallback :
    let start : Progress := ⟨brokenPetGenerator.newTrail, Source.scripted [7, 7], 0⟩
    let failed := (Subject.key "pet.line").evaluate brokenPetGenerator start
    let kind := Subject.text "#\x7bkind\x7d"
    let digit := Subject.text "#\x7bnumerify #\x7bnumerify '#'\x7d\x7d"
    failed.1 = .error (.unknownBuiltin "nope" []) ∧ failed.2.trail = ⟨["nope"], ["pet"], 2⟩ ∧
      failed.2.trail ≠ start.trail ∧
      (kind.evaluate brokenPetGenerator start).1 = .error (.unknownBuiltin "kind" []) ∧
      (kind.evaluate brokenPetGenerator failed.2).1 = .ok "cat" ∧
      (digit.evaluate brokenPetGenerator start).1 = .ok "0" ∧
      (digit.evaluate brokenPetGenerator failed.2).1 =
        .error (.tooDeep 2 ["nope", "numerify", "numerify"]) := by
  decide +kernel

end Eval

end Figment
