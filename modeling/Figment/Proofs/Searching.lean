import Figment.Check
import Figment.Proofs.Template.Marks
import Figment.Proofs.Unicode.Lowercase
import Mathlib.Data.List.Nodup
/-!
The search of a value for problems.

The search keeps a stack of directives and goes through a template from its end, each directive coming
before those in its arguments. That is an order of all the places in the template at which a directive
stands. The search visits an initial part of it, up to the first directive that has a problem of its
own, and so passes a template exactly if every directive in it is fine.
-/

namespace Figment

theorem Argument.directive?_eq_some_iff {a : Argument} {d : Directive} :
    a.directive? = some d ↔ a = .nested d := by
  cases a with
  | literal text => simp [directive?]
  | nested e => simp [directive?]

theorem Directive.mem_inner {d e : Directive} : e ∈ d.inner ↔ .nested e ∈ d.args := by
  simp only [inner, List.mem_filterMap, Argument.directive?_eq_some_iff, exists_eq_right]

/-- What holds of a directive if it holds of those among its arguments holds of every directive. -/
theorem Directive.induct {P : Directive → Prop} (step : ∀ d, (∀ e, .nested e ∈ d.args → P e) → P d)
    (d : Directive) : P d :=
  step d fun e mem =>
    have : e.count < d.count := by
      rw [d.count_eq]
      exact Nat.lt_succ_of_le (count_le_countAll (mem_inner.2 mem))
    induct step e
termination_by d.count

/-- The directive at a place within another one. A place is given by the numbers of the arguments on the
way to it. -/
def Directive.at? : Directive → List Nat → Option Directive
  | d, [] => some d
  | d, i :: place => (d.args[i]?.bind Argument.directive?).bind (·.at? place)

mutual

/-- A directive and those in its arguments with their places, from the last argument to the first. -/
def Directive.places : Directive → List (List Nat × Directive)
  | .builtin name args => ([], .builtin name args) :: Argument.placesFrom 0 args
  | .provider p m args => ([], .provider p m args) :: Argument.placesFrom 0 args

/-- The directives in arguments with their places, the first argument having the number `i`. -/
def Argument.placesFrom (i : Nat) : List Argument → List (List Nat × Directive)
  | [] => []
  | a :: rest => Argument.placesFrom (i + 1) rest ++ a.places.map (.map (i :: ·) id)

def Argument.places : Argument → List (List Nat × Directive)
  | .literal _ => []
  | .nested d => d.places

end

theorem Directive.places_eq (d : Directive) : d.places = ([], d) :: Argument.placesFrom 0 d.args := by
  cases d with
  | builtin name args => rfl
  | provider p m args => rfl

theorem Argument.mem_placesFrom_iff {args : List Argument}
    (h : ∀ d, .nested d ∈ args → ∀ place e, (place, e) ∈ d.places ↔ d.at? place = some e) {i : Nat}
    {place : List Nat} {e : Directive} :
    (place, e) ∈ Argument.placesFrom i args ↔ ∃ j rest, place = (i + j) :: rest ∧
      (args[j]?.bind Argument.directive?).bind (·.at? rest) = some e := by
  induction args generalizing i with
  | nil => simp [Argument.placesFrom]
  | cons a args ih =>
    have here (rest : List Nat) :
        (rest, e) ∈ a.places ↔ a.directive?.bind (·.at? rest) = some e := by
      cases a with
      | literal text => simp [Argument.places, Argument.directive?]
      | nested d => exact h d List.mem_cons_self rest e
    have later : (place, e) ∈ Argument.placesFrom (i + 1) args ↔ _ :=
      ih fun d mem => h d (List.mem_cons_of_mem a mem)
    rw [Argument.placesFrom, List.mem_append, later, List.mem_map]
    constructor
    · rintro (⟨j, rest, rfl, found⟩ | ⟨⟨rest, f⟩, mem, pair⟩)
      · exact ⟨j + 1, rest, by rw [Nat.add_right_comm, Nat.add_assoc], found⟩
      · cases pair
        exact ⟨0, rest, rfl, (here rest).1 mem⟩
    · rintro ⟨j, rest, rfl, found⟩
      cases j with
      | zero => exact .inr ⟨(rest, e), (here rest).2 found, rfl⟩
      | succ j => exact .inl ⟨j, rest, by rw [Nat.add_right_comm, Nat.add_assoc], found⟩

theorem Directive.mem_places_iff (d : Directive) (place : List Nat) (e : Directive) :
    (place, e) ∈ d.places ↔ d.at? place = some e := by
  induction d using Directive.induct generalizing place e with
  | step d ih =>
    rw [d.places_eq, List.mem_cons, Argument.mem_placesFrom_iff ih]
    cases place with
    | nil => simp [Directive.at?, eq_comm]
    | cons i place => simp [Directive.at?]

/-- All places of directives in arguments begin with the number of an argument. -/
theorem Argument.exists_of_mem_placesFrom {i : Nat} {args : List Argument} {place : List Nat}
    (h : place ∈ (Argument.placesFrom i args).map (·.1)) : ∃ j rest, place = (i + j) :: rest := by
  obtain ⟨⟨place, e⟩, mem, rfl⟩ := List.mem_map.1 h
  obtain ⟨j, rest, rfl, -⟩ := (mem_placesFrom_iff fun d _ => d.mem_places_iff).1 mem
  exact ⟨j, rest, rfl⟩

theorem Argument.nodup_placesFrom {args : List Argument}
    (h : ∀ d, .nested d ∈ args → (d.places.map (·.1)).Nodup) (i : Nat) :
    ((Argument.placesFrom i args).map (·.1)).Nodup := by
  induction args generalizing i with
  | nil => exact List.nodup_nil
  | cons a args ih =>
    have here : (a.places.map (·.1)).Nodup := by
      cases a with
      | literal text => exact List.nodup_nil
      | nested d => exact h d List.mem_cons_self
    have firsts : (a.places.map (Prod.map (i :: ·) id)).map (·.1) =
        (a.places.map (·.1)).map (i :: ·) := by
      rw [List.map_map, List.map_map]
      rfl
    rw [Argument.placesFrom, List.map_append, List.nodup_append, firsts]
    refine ⟨ih (fun d mem => h d (List.mem_cons_of_mem a mem)) _, here.map List.cons_injective, ?_⟩
    -- A place in a later argument begins with a higher number.
    rintro later mem _ mem' rfl
    obtain ⟨j, rest, rfl⟩ := exists_of_mem_placesFrom mem
    obtain ⟨place, -, same⟩ := List.mem_map.1 mem'
    have number := (List.cons.inj same).1
    omega

theorem Directive.nodup_places (d : Directive) : (d.places.map (·.1)).Nodup := by
  induction d using Directive.induct with
  | step d ih =>
    rw [d.places_eq, List.map_cons, List.nodup_cons]
    refine ⟨fun mem => ?_, Argument.nodup_placesFrom ih 0⟩
    obtain ⟨j, rest, root⟩ := Argument.exists_of_mem_placesFrom mem
    cases root

/-- The directives at all places in the directives of a stack, in the order of the places. -/
def Directive.order (stack : List Directive) : List Directive :=
  stack.flatMap fun d => d.places.map (·.2)

theorem Argument.order_placesFrom (i : Nat) (args : List Argument) :
    (Argument.placesFrom i args).map (·.2) =
      Directive.order (args.filterMap Argument.directive?).reverse := by
  induction args generalizing i with
  | nil => rfl
  | cons a args ih =>
    have seconds : (a.places.map (Prod.map (i :: ·) id)).map (·.2) = a.places.map (·.2) := by
      rw [List.map_map]
      rfl
    rw [Argument.placesFrom, List.map_append, seconds, ih]
    cases a with
    | literal text => exact List.append_nil _
    | nested d =>
      have last : (Argument.nested d :: args).filterMap Argument.directive? =
          d :: args.filterMap Argument.directive? := rfl
      rw [last, List.reverse_cons, Directive.order, Directive.order, List.flatMap_append,
        List.flatMap_singleton]
      rfl

/-- A directive comes first, and those among its arguments come next, from the last to the first. -/
theorem Directive.order_cons (d : Directive) (rest : List Directive) :
    order (d :: rest) = d :: order (d.inner.reverse ++ rest) := by
  rw [order, List.flatMap_cons, d.places_eq, List.map_cons, Argument.order_placesFrom, List.cons_append,
    order, order, ← List.flatMap_append]
  rfl

/-- A segment as an argument. -/
def Segment.argument : Segment → Argument
  | .literal text => .literal text
  | .directive d => .nested d

@[simp] theorem Segment.directive?_argument (s : Segment) : s.argument.directive? = s.directive? := by
  cases s <;> rfl

namespace Template

/-- The directive at a place in a template. The first number is that of a segment. -/
def at? (t : Template) : List Nat → Option Directive
  | [] => none
  | i :: place => (t[i]?.bind Segment.directive?).bind (·.at? place)

/-- The directives in a template with their places, from the last segment to the first. -/
def places (t : Template) : List (List Nat × Directive) :=
  Argument.placesFrom 0 (t.map Segment.argument)

theorem mem_places_iff (t : Template) (place : List Nat) (d : Directive) :
    (place, d) ∈ t.places ↔ t.at? place = some d := by
  rw [places, Argument.mem_placesFrom_iff fun d _ => d.mem_places_iff]
  have segment (i : Nat) :
      (t.map Segment.argument)[i]?.bind Argument.directive? = t[i]?.bind Segment.directive? := by
    rw [List.getElem?_map, Option.bind_map]
    exact congrArg _ (funext Segment.directive?_argument)
  cases place with
  | nil => simp [at?]
  | cons i place => simp [at?, ← segment]

theorem nodup_places (t : Template) : (t.places.map (·.1)).Nodup :=
  Argument.nodup_placesFrom (fun d _ => d.nodup_places) 0

theorem order_places (t : Template) :
    t.places.map (·.2) = Directive.order t.directives.reverse := by
  rw [places, Argument.order_placesFrom, List.filterMap_map, directives]
  exact congrArg (fun f => Directive.order (List.filterMap f t).reverse)
    (funext Segment.directive?_argument)

theorem mem_order_iff (t : Template) (d : Directive) :
    d ∈ Directive.order t.directives.reverse ↔ ∃ place, t.at? place = some d := by
  rw [← t.order_places, List.mem_map]
  constructor
  · rintro ⟨⟨place, d⟩, mem, rfl⟩
    exact ⟨place, (t.mem_places_iff place d).1 mem⟩
  · rintro ⟨place, found⟩
    exact ⟨(place, d), (t.mem_places_iff place d).2 found, rfl⟩

/-- An initial part of the order stands at different places, and the whole of it at all places. -/
theorem exists_places_of_prefix (t : Template) {visited : List Directive}
    (h : visited <+: Directive.order t.directives.reverse) :
    ∃ places : List (List Nat), places.Nodup ∧ places.map t.at? = visited.map some ∧
      (visited = Directive.order t.directives.reverse →
        ∀ place, (t.at? place).isSome → place ∈ places) := by
  rw [← t.order_places] at h ⊢
  obtain ⟨shown, initial, rfl⟩ := List.prefix_map_iff.1 h
  refine ⟨shown.map (·.1), (initial.sublist.map _).nodup t.nodup_places, ?_, ?_⟩
  · rw [List.map_map, List.map_map]
    exact List.map_congr_left fun ⟨place, d⟩ mem =>
      (t.mem_places_iff place d).1 (initial.subset mem)
  · intro all place found
    have same : shown = t.places := by
      apply initial.eq_of_length
      rw [← List.length_map (·.2), all, List.length_map]
    obtain ⟨d, found⟩ := Option.isSome_iff_exists.1 found
    rw [same]
    exact List.mem_map_of_mem ((t.mem_places_iff place d).2 found)

end Template

namespace Check

variable {keys : List String} {key : String}

theorem search_cons_of_some {d : Directive} {message : String}
    (h : ownProblem? keys key d = some message) (rest : List Directive) :
    search keys key (d :: rest) = ⟨[d], some message⟩ := by
  rw [search, h]

theorem search_cons_of_none {d : Directive} (h : ownProblem? keys key d = none)
    (rest : List Directive) :
    search keys key (d :: rest) =
      ⟨d :: (search keys key (d.inner.reverse ++ rest)).visited,
        (search keys key (d.inner.reverse ++ rest)).problem?⟩ := by
  rw [search, h]

/-- What a search has gone through and what it says: an initial part of all that is there, the whole
of it if it says nothing, and the first problem in it. -/
structure Search.Covers (keys : List String) (key : String) (all : List Directive) (run : Search) :
    Prop where
  initial : run.visited <+: all
  first : run.problem? = run.visited.findSome? (ownProblem? keys key)
  whole : run.problem? = none → run.visited = all

/-- One step: a directive without a problem in front of what the rest of the search goes through. -/
theorem Search.Covers.cons {d : Directive} {all : List Directive} {run : Search}
    (fine : ownProblem? keys key d = none) (h : run.Covers keys key all) :
    (Search.mk (d :: run.visited) run.problem?).Covers keys key (d :: all) where
  initial := (List.prefix_cons_inj d).2 h.initial
  first := by
    rw [List.findSome?_cons, fine]
    exact h.first
  whole passed := by
    rw [h.whole passed]

theorem search_covers (stack : List Directive) :
    (search keys key stack).Covers keys key (Directive.order stack) := by
  induction stack using search.induct keys key with
  | case1 =>
    rw [search]
    exact ⟨List.prefix_rfl, rfl, fun _ => rfl⟩
  | case2 d rest own ih =>
    rw [search_cons_of_none own, Directive.order_cons]
    exact ih.cons own
  | case3 d rest message own =>
    rw [search_cons_of_some own, Directive.order_cons]
    refine ⟨⟨_, rfl⟩, ?_, ?_⟩
    · rw [List.findSome?_cons, own]
    · intro none
      cases none

theorem Search.Covers.problem?_eq_none_iff {all : List Directive} {run : Search}
    (h : run.Covers keys key all) :
    run.problem? = none ↔ ∀ d ∈ all, ownProblem? keys key d = none := by
  constructor
  · intro passed
    have nothing := h.first.symm.trans passed
    rwa [h.whole passed, List.findSome?_eq_none_iff] at nothing
  · intro fine
    rw [h.first, List.findSome?_eq_none_iff]
    exact fun d mem => fine d (h.initial.subset mem)

theorem directiveProblem?_bare (name : String) :
    directiveProblem? keys key (.builtin name []) = ownProblem? keys key (.builtin name []) := by
  rw [directiveProblem?]
  cases own : ownProblem? keys key (.builtin name []) with
  | some message => rw [search_cons_of_some own]
  | none =>
    rw [search_cons_of_none own]
    have last : (Directive.builtin name []).inner.reverse ++ [] = [] := rfl
    rw [last, search]

theorem isRegexify_iff {name : String} :
    isRegexify name = true ↔ Builtin.ofName? name = some .regexify := by
  have letters : Builtin.regexify.name.toList.all Unicode.isPlainLetter = true := by
    decide +kernel
  rw [Builtin.ofName?_eq_some_iff, Unicode.lower_eq_iff (List.all_eq_true.1 letters), isRegexify,
    decide_eq_true_iff]

theorem patternProblem?_eq_none_iff {args : List Argument} :
    patternProblem? args = none ↔
      ∀ text rest, args = .literal text :: rest → ∃ p, Pattern.read text = .ok p := by
  cases args with
  | nil => simp [patternProblem?]
  | cons a rest =>
    cases a with
    | nested d => simp [patternProblem?]
    | literal text =>
      cases read : Pattern.read text with
      | ok p => simp [patternProblem?, read]
      | error e => simp [patternProblem?, read]

/-- What may stand in a value at `key` of data with the keys `keys`: a reference to a provider; a known
generator, which has a pattern that is accepted if it is the one for patterns and its first argument is
quoted; the bare name of a sibling. -/
inductive Fine (keys : List String) (key : String) : Directive → Prop
  | provider (p m : String) (args : List Argument) : Fine keys key (.provider p m args)
  | known {name : String} {b : Builtin} {args : List Argument} (known : Builtin.ofName? name = some b)
      (pattern : b = .regexify → ∀ text rest, args = .literal text :: rest →
        ∃ p, Pattern.read text = .ok p) :
      Fine keys key (.builtin name args)
  | sibling {name : String} (unknown : Builtin.ofName? name = none)
      (mem : siblingKey key name ∈ keys) :
      Fine keys key (.builtin name [])

theorem ownProblem?_eq_none_iff {d : Directive} : ownProblem? keys key d = none ↔ Fine keys key d := by
  cases d with
  | provider p m args => exact ⟨fun _ => .provider p m args, fun _ => rfl⟩
  | builtin name args =>
    cases found : Builtin.ofName? name with
    | some b =>
      have regexify : isRegexify name = true ↔ b = .regexify := by
        rw [isRegexify_iff, found, Option.some.injEq]
      simp only [ownProblem?, found]
      constructor
      · intro fine
        refine .known found fun eq => patternProblem?_eq_none_iff.1 ?_
        rwa [if_pos (regexify.2 eq)] at fine
      · rintro (_ | ⟨known, pattern⟩ | ⟨unknown, mem⟩)
        · cases known.symm.trans found
          split
          · next named => exact patternProblem?_eq_none_iff.2 (pattern (regexify.1 named))
          · rfl
        · cases unknown.symm.trans found
    | none =>
      simp only [ownProblem?, found]
      constructor
      · intro fine
        split at fine
        · next bare =>
          obtain ⟨empty, mem⟩ := Bool.and_eq_true_iff.1 bare
          cases List.isEmpty_iff.1 empty
          exact .sibling found (of_decide_eq_true mem)
        · cases fine
      · rintro (_ | ⟨known, pattern⟩ | ⟨unknown, mem⟩)
        · cases known.symm.trans found
        · simp [mem]

theorem search_problem?_eq_none_iff {t : Template} :
    (search keys key t.directives.reverse).problem? = none ↔
      ∀ place d, t.at? place = some d → Fine keys key d := by
  rw [(search_covers t.directives.reverse).problem?_eq_none_iff]
  constructor
  · intro fine place d found
    exact ownProblem?_eq_none_iff.1 (fine d ((t.mem_order_iff d).2 ⟨place, found⟩))
  · intro fine d mem
    obtain ⟨place, found⟩ := (t.mem_order_iff d).1 mem
    exact ownProblem?_eq_none_iff.2 (fine place d found)

/-- A value passes exactly if it has no mark, or is a template in which each directive is fine, however
deep it stands in arguments. The search of a template goes through directives at different places, and
through all of them if it finds nothing. What it reports is the first problem among them. -/
theorem value_passes_iff_fine (keys : List String) (key value : String) :
    (problem? keys key value = none ↔
      ¬['#', '\x7b'] <:+: value.toList ∨
        ∃ t, Template.read value = .ok t ∧ ∀ place d, t.at? place = some d → Fine keys key d) ∧
    ∀ t : Template, let run := search keys key t.directives.reverse
      ∃ places : List (List Nat), places.Nodup ∧ places.map t.at? = run.visited.map some ∧
        run.problem? = run.visited.findSome? (ownProblem? keys key) ∧
        (run.problem? = none → ∀ place, (t.at? place).isSome → place ∈ places) := by
  have mark := Template.hasMark_iff_infix (s := value.toList)
  constructor
  · rw [← mark, problem?]
    cases marked : Template.hasMark value.toList with
    | false => simp
    | true =>
      cases read : Template.read value with
      | error e => simp
      | ok t => simp [search_problem?_eq_none_iff]
  · intro t run
    have covers : run.Covers keys key _ := search_covers t.directives.reverse
    obtain ⟨places, nodup, found, all⟩ := t.exists_places_of_prefix covers.initial
    exact ⟨places, nodup, found, covers.first, fun passed => all (covers.whole passed)⟩

example :
    problem? ["name.first"] "name.full"
        "#\x7bnumerify #\x7bFIRST\x7d, #\x7bA.b #\x7bfirst\x7d\x7d\x7d" = none ∧
      problem? ["name.first"] "name.full" "#\x7bA.b #\x7blast\x7d\x7d#\x7bfirst\x7d" =
        some "unknown builtin 'last'" := by
  decide +kernel

end Check

end Figment
