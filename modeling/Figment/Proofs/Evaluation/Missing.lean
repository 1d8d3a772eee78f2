import Figment.Proofs.Evaluation.Failures
/-!
Which keys can be missing.

A key is read for a directive only after it has been found to have values. The two keys of the
football provider are the exception: they are named in its methods and read without being looked for.
So an evaluation never fails for another missing key, unless it starts with one. A directive that
stands for another missing key fails for a method or a builtin that is not known.
-/

namespace Figment

theorem Refusal.ne_missingKey {x : Failure} (h : Refusal x) (key : String) (locales : List String) :
    x ≠ .missingKey key locales := by
  cases h with
  | flag h =>
    rw [Builtin.eq_badArgument_of_flag h]
    exact nofun
  | placeholder h =>
    rw [Builtin.eq_badArgument_of_placeholder h]
    exact nofun
  | _ => exact nofun

namespace Eval

variable {g : Generator}

/-- A failure is not for a missing key, unless the key is one of those that are named in a method and
no locale of the chain has it. -/
def MissesNamed (g : Generator) (x : Failure) : Prop :=
  ∀ key locales, x = .missingKey key locales →
    (key = teamsKey ∨ key = leaguesKey) ∧ locales = g.chain.locales ∧ g.lookup key = none

theorem admits_missesNamed (g : Generator) : Admits g fun _ x _ => MissesNamed g x where
  tooDeep _ _ := nofun
  badTemplate _ _ _ := nofun
  refusal _ _ h key locales eq := absurd eq (h.ne_missingKey key locales)
  missing _ _ named absent := by
    rintro _ _ ⟨⟩
    exact ⟨named, rfl, absent⟩
  nothing _ _ _ := nofun
  opened _ _ _ _ h := h
  entered _ _ _ _ h := h

/-- No evaluation fails for a missing key that is not named in a method, if it does not start with a
missing key. -/
theorem missesNamed_of_evaluate {subject : Subject} {p q : Progress} {x : Failure}
    (start : ∀ k, subject = .key k → g.hasKey k = true)
    (h : subject.evaluate g p = (.error x, q)) : MissesNamed g x := by
  refine fails_evaluate (admits_missesNamed g) subject (fun k same absent => ?_) p x q h
  have known := start k same
  rw [Generator.hasKey, absent] at known
  cases known

theorem resolveIn_of_missing {k : String} (h : g.hasKey k = false) (p : Progress) :
    g.resolveIn k p = (.error (.missingKey (Unicode.lower k) g.chain.locales), p) := by
  have absent : g.lookup k = none :=
    Option.isNone_iff_eq_none.1 (Option.isSome_eq_false_iff.1 h)
  change resolve g (directive g (p.trail.limit - p.trail.depth)) k p = _
  rw [resolve, lookup_lower, absent]
  rfl

def methodKey? : Provider → String → Option String
  | .football, m =>
    if m = "team" ∨ m = "teams" then some teamsKey
    else if m = "league" ∨ m = "leagues" then some leaguesKey
    else some (footballCategory ++ "." ++ m)
  | .numbers, _ => none
  | .category name, m => some (name ++ "." ++ m)

/-- The key of the category at hand that a bare name stands for. A builtin stands for none. -/
def bareKey? (t : Trail) (name : String) (args : List String) : Option String :=
  if args = [] ∧ Builtin.ofName? name = none then t.category?.map (· ++ "." ++ name) else none

/-- The key that a directive stands for: that of a bare name, or the method in the category of its
provider. -/
def askedKey? (g : Generator) (t : Trail) (d : Directive) (args : List String) : Option String :=
  match d with
  | .builtin name _ => bareKey? t name args
  | .provider p m _ => (g.registry.get? p).bind (methodKey? · (Name.snake m))

theorem siblingKey?_eq_filter (t : Trail) (name : String) (args : List String) :
    siblingKey? g t name args = (bareKey? t name args).filter g.hasKey := by
  unfold siblingKey? bareKey?
  by_cases bare : args = [] ∧ Builtin.ofName? name = none
  · obtain ⟨rfl, unknown⟩ := bare
    cases inside : t.category? with
    | none => simp [unknown]
    | some category => simp [unknown, Option.filter]
  · have stays : (!args.isEmpty || (Builtin.ofName? name).isSome) = true := by
      rw [Bool.or_eq_true, Bool.not_eq_true', ← Bool.not_eq_true, List.isEmpty_iff,
        Option.isSome_iff_ne_none]
      exact not_and_or.1 bare
    rw [if_pos stays, if_neg bare]
    rfl

theorem eq_of_ofKey {name k key : String} {args : List String}
    (h : Call.ofKey name args k = .key key) : k = key := by
  unfold Call.ofKey at h
  split at h
  · cases h
    rfl
  · cases h

theorem eq_of_categoryCall {category method key : String} {args : List String}
    (h : categoryCall g category method args = .key key) : category ++ "." ++ method = key := by
  unfold categoryCall at h
  dsimp only at h
  split at h
  · exact eq_of_ofKey h
  · cases h

theorem methodKey?_of_methodCall {p : Provider} {method key : String} {args : List String}
    (h : methodCall g p method args = .key key) : methodKey? p method = some key := by
  cases p with
  | football =>
    unfold methodCall footballCall at h
    dsimp only at h
    rw [methodKey?]
    split at h
    · next team => rw [if_pos team, eq_of_ofKey h]
    · next noTeam =>
      rw [if_neg noTeam]
      split at h
      · next league => rw [if_pos league, eq_of_ofKey h]
      · next noLeague => rw [if_neg noLeague, eq_of_categoryCall h]
  | numbers => cases h
  | category name => exact congrArg some (eq_of_categoryCall h)

/-- A call reads no key but the one that its directive stands for. -/
theorem askedKey?_of_call {t : Trail} {d : Directive} {args : List String} {key : String}
    (h : call g t d args = .key key) : askedKey? g t d args = some key := by
  cases d with
  | builtin name written =>
    rw [call, siblingKey?_eq_filter] at h
    split at h
    · next sibling =>
      cases h
      exact (Option.filter_eq_some_iff.1 sibling).1
    · cases h
  | provider p m written =>
    rw [call, Registry.get] at h
    rw [askedKey?]
    cases registered : g.registry.get? p with
    | none =>
      rw [registered] at h
      cases h
    | some q =>
      rw [registered] at h
      exact methodKey?_of_methodCall h

/-- What is said of a directive that stands for a missing key. -/
inductive Reports : Failure → String → Prop
  | unknownMethod (category method : String) :
      Reports (.unknownMethod category method) (category ++ "." ++ method)
  | unknownBuiltin (category name : String) (suggestions : List String) :
      Reports (.unknownBuiltin name suggestions) (category ++ "." ++ name)

/-- The call fails, and says why a key is missing. -/
def Call.Refuses (c : Call) (key : String) : Prop :=
  ∃ x, Reports x key ∧ c = refuse x

theorem refuses_categoryCall {category method : String} {args : List String}
    (absent : g.hasKey (category ++ "." ++ method) = false) :
    (categoryCall g category method args).Refuses (category ++ "." ++ method) := by
  refine ⟨_, .unknownMethod category method, ?_⟩
  exact if_neg (Bool.not_eq_true _ ▸ absent)

theorem refuses_methodCall {p : Provider} {method key : String} {args : List String}
    (asked : methodKey? p method = some key) (absent : g.hasKey key = false)
    (teams : key ≠ teamsKey) (leagues : key ≠ leaguesKey) :
    (methodCall g p method args).Refuses key := by
  cases p with
  | football =>
    rw [methodKey?] at asked
    unfold methodCall footballCall
    split at asked
    · cases asked
      exact absurd rfl teams
    · split at asked
      · cases asked
        exact absurd rfl leagues
      · next noTeam noLeague =>
        cases asked
        dsimp only
        rw [if_neg noTeam, if_neg noLeague]
        exact refuses_categoryCall absent
  | numbers => cases asked
  | category name =>
    cases asked
    exact refuses_categoryCall absent

theorem refuses_call {t : Trail} {d : Directive} {args : List String} {key : String}
    (asked : askedKey? g t d args = some key) (absent : g.hasKey key = false)
    (teams : key ≠ teamsKey) (leagues : key ≠ leaguesKey) : (call g t d args).Refuses key := by
  cases d with
  | builtin name written =>
    change bareKey? t name args = some key at asked
    have noSibling : siblingKey? g t name args = none := by
      rw [siblingKey?_eq_filter, asked]
      exact Option.filter_some_neg (by simp [absent])
    unfold bareKey? at asked
    split at asked
    · next bare =>
      obtain ⟨rfl, unknown⟩ := bare
      obtain ⟨category, _, rfl⟩ := Option.map_eq_some_iff.1 asked
      refine ⟨_, .unknownBuiltin category name (suggest (Unicode.lower name) Builtin.names), ?_⟩
      rw [call, noSibling, Builtin.call, unknown]
      rfl
    · cases asked
  | provider p m written =>
    obtain ⟨q, registered, asked⟩ := Option.bind_eq_some_iff.1 asked
    rw [call, Registry.get, registered]
    exact refuses_methodCall asked absent teams leagues

/-- A key is read only after it has been found to have values, unless it is named in a method. -/
theorem known_of_call {t : Trail} {d : Directive} {args : List String} {key : String}
    (h : call g t d args = .key key) : g.hasKey key = true ∨ key = teamsKey ∨ key = leaguesKey := by
  by_contra unknown
  obtain ⟨absent, named⟩ := not_or.1 unknown
  obtain ⟨teams, leagues⟩ := not_or.1 named
  obtain ⟨x, _, refused⟩ :=
    refuses_call (askedKey?_of_call h) (Bool.not_eq_true _ ▸ absent) teams leagues
  rw [h] at refused
  cases refused

/-- An evaluation that comes to a failure fails with it. -/
theorem evaluate_of_reaches_failed {subject : Subject} {p q : Progress} {x : Failure}
    (h : p.trail.depth ≤ p.trail.limit)
    (reached : Reaches g ⟨subject.task, [], p⟩ ⟨.failed x, [], q⟩) :
    subject.evaluate g p = (.error x, q) := by
  have same := (runs_evaluate g subject h []).eq_of_final reached (step_settle g _) rfl
  rcases outcome : subject.evaluate g p with ⟨e | s, r⟩
  · rw [outcome] at same
    cases same
    rfl
  · rw [outcome] at same
    cases same

/-- In the course of an evaluation a directive is called that stands for a key which no locale has. -/
def Meets (g : Generator) (subject : Subject) (p : Progress) (key : String) : Prop :=
  g.hasKey key = false ∧ ∃ d args frames q,
    Reaches g ⟨subject.task, [], p⟩ ⟨.arguments d args [], frames, q⟩ ∧
      askedKey? g q.trail d args = some key

theorem reports_of_meets {subject : Subject} {p : Progress} {key : String}
    (h : p.trail.depth ≤ p.trail.limit) (met : Meets g subject p key) (teams : key ≠ teamsKey)
    (leagues : key ≠ leaguesKey) : ∃ x, Reports x key ∧ (subject.evaluate g p).1 = .error x := by
  obtain ⟨absent, d, args, frames, q, reached, asked⟩ := met
  obtain ⟨x, reports, refused⟩ := refuses_call asked absent teams leagues
  -- The refusal is the next step, and drops all frames at once.
  have last : step g ⟨.arguments d args [], frames, q⟩ = ⟨.failed x, [], q⟩ := by
    rw [step, refused]
    rfl
  have failed := reached.trans (reaches_of_step ⟨0, last⟩)
  exact ⟨x, reports, congrArg Prod.fst (evaluate_of_reaches_failed h failed)⟩

end Eval

namespace Generator

open Eval

variable {g : Generator}

theorem fresh_eq_error {α : Type} {e : Eval α} {source after : Source} {x : Failure}
    (h : g.fresh e source = (.error x, after)) :
    ∃ q, e ⟨g.newTrail, source, 0⟩ = (.error x, q) := by
  have failed : (e ⟨g.newTrail, source, 0⟩).1 = .error x := congrArg Prod.fst h
  exact ⟨_, Prod.ext failed rfl⟩

/-- What is said of missing keys. An evaluation of a text fails only for one of the two keys of the
football provider, and so does the one of a key that has values. A key that has none is refused in lower
case, before anything is drawn. A directive that stands for any other missing key is refused as an
unknown method or builtin; and no key is read for a directive but the one it stands for. -/
theorem missing_key_failures (g : Generator) (source : Source) :
    (∀ text key locales after,
      g.expression text source = (.error (.missingKey key locales), after) →
        key = teamsKey ∨ key = leaguesKey) ∧
    (∀ k, g.hasKey k = false →
      g.resolve k source = (.error (.missingKey (Unicode.lower k) g.chain.locales), source)) ∧
    (∀ k, g.hasKey k = true → ∀ key locales after,
      g.resolve k source = (.error (.missingKey key locales), after) →
        key = teamsKey ∨ key = leaguesKey) ∧
    (∀ subject key, Meets g subject ⟨g.newTrail, source, 0⟩ key → key ≠ teamsKey → key ≠ leaguesKey →
      ∃ x, Reports x key ∧ (g.fresh (subject.evaluate g) source).1 = .error x) ∧
    (∀ trail d args key, call g trail d args = .key key →
      askedKey? g trail d args = some key ∧
        (g.hasKey key = true ∨ key = teamsKey ∨ key = leaguesKey)) := by
  refine ⟨?text, ?absent, ?known, ?met, ?asked⟩
  case text =>
    intro text key locales after failed
    obtain ⟨q, failed⟩ := fresh_eq_error failed
    have misses := @missesNamed_of_evaluate g (.text text) _ _ _ nofun failed
    exact (misses key locales rfl).1
  case absent =>
    intro k absent
    rw [Generator.resolve, fresh_apply, resolveIn_of_missing absent]
  case known =>
    intro k known key locales after failed
    obtain ⟨q, failed⟩ := fresh_eq_error failed
    have start : ∀ k', Subject.key k = .key k' → g.hasKey k' = true := by
      rintro _ ⟨⟩
      exact known
    exact (missesNamed_of_evaluate start failed key locales rfl).1
  case met =>
    intro subject key met teams leagues
    exact reports_of_meets (Nat.zero_le _) met teams leagues
  case asked =>
    intro trail d args key called
    exact ⟨askedKey?_of_call called, known_of_call called⟩

/-- Data without football, in which one value asks for a team. -/
def petFanGenerator : Generator where
  chain := ⟨["en"]⟩
  maxDepth := 2
  store := ⟨[("en", .table [("pet", .table [("fan", .text "#\x7bEnglandFootball.team\x7d")])])]⟩
  registry := standardProviders.register "Pet" (.ofCategory "Pet")
  instances := .empty

/-- A team that is missing inside of a value, a key that is missing at the start, a method that is
missing in an argument, and one that is found. -/
theorem missing_key_failures_pet :
    let source := Source.scripted [0, 0]
    let inner := Directive.provider "Pet" "colour" []
    let outer := Subject.directive (.builtin "examplify" [.nested inner])
    (∃ key locales after,
      petFanGenerator.expression "#\x7bPet.fan\x7d" source = (.error (.missingKey key locales), after) ∧
        (key = teamsKey ∨ key = leaguesKey)) ∧
    petFanGenerator.resolve "PET.Colour" source =
      (.error (.missingKey "pet.colour" ["en"]), source) ∧
    (∃ key locales after,
      petFanGenerator.resolve "pet.fan" source = (.error (.missingKey key locales), after) ∧
        (key = teamsKey ∨ key = leaguesKey)) ∧
    Meets petFanGenerator outer ⟨petFanGenerator.newTrail, source, 0⟩ "pet.colour" ∧
    (∃ x, Reports x "pet.colour" ∧
      (petFanGenerator.fresh (outer.evaluate petFanGenerator) source).1 = .error x) ∧
    petFanGenerator.hasKey "pet.fan" = true ∧
    askedKey? petFanGenerator petFanGenerator.newTrail (.provider "Pet" "fan" []) [] =
      some "pet.fan" := by
  intro source inner outer
  obtain ⟨text, absent, known, met, asked⟩ := missing_key_failures petFanGenerator source
  have fan : (petFanGenerator.expression "#\x7bPet.fan\x7d" source).1 =
      .error (.missingKey teamsKey ["en"]) := by
    decide +kernel
  have value : (petFanGenerator.resolve "pet.fan" source).1 =
      .error (.missingKey teamsKey ["en"]) := by
    decide +kernel
  have found : petFanGenerator.hasKey "pet.fan" = true := by decide +kernel
  have called : call petFanGenerator petFanGenerator.newTrail (.provider "Pet" "fan" []) [] =
      .key "pet.fan" := by
    have registered : petFanGenerator.registry.get "Pet" = .ok (.category "pet") := by
      decide +kernel
    have snaked : Name.snake "fan" = "fan" := by decide +kernel
    have key : "pet" ++ "." ++ "fan" = "pet.fan" := rfl
    rw [call, registered, snaked]
    change categoryCall petFanGenerator "pet" "fan" [] = _
    rw [categoryCall, key, if_pos found]
    rfl
  have lower : Unicode.lower "PET.Colour" = "pet.colour" := by decide +kernel
  have colour : Meets petFanGenerator outer ⟨petFanGenerator.newTrail, source, 0⟩ "pet.colour" :=
    ⟨by decide +kernel, inner, [], _, _, ⟨3, rfl⟩, by decide +kernel⟩
  refine ⟨⟨_, _, _, Prod.ext fan rfl, text _ _ _ _ (Prod.ext fan rfl)⟩, ?_,
    ⟨_, _, _, Prod.ext value rfl, known "pet.fan" (by decide +kernel) _ _ _ (Prod.ext value rfl)⟩,
    colour, met outer "pet.colour" colour (by decide) (by decide), found,
    (asked petFanGenerator.newTrail (.provider "Pet" "fan" []) [] "pet.fan" called).1⟩
  rw [← lower]
  exact absent "PET.Colour" (by decide +kernel)

end Generator

end Figment
