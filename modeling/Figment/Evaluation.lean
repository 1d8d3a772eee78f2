import Figment.Builtin
import Figment.Generator
import Figment.Template.Reader
import Figment.Trail
/-!
Evaluation of templates and keys.

A directive is replaced by the output of its generator. Output in which a directive is marked is
evaluated again, so that the values of the data may be templates themselves. Each directive that is
being evaluated takes up one of a limited number of levels; no evaluation gets any deeper than that.
-/

namespace Figment

/-- What changes in the course of an evaluation. After a failure the trail is left as it was when
the failure arose. -/
structure Progress where
  trail : Trail
  source : Source
  /-- The largest number of directives that have been open at once. -/
  deepest : Nat := 0

/-- An evaluation: it moves on the trail and draws from the source, and may fail. -/
abbrev Eval := ExceptT Failure (StateM Progress)

namespace Eval

def trail : Eval Trail := do
  return (← get).trail

def move (f : Trail → Trail) : Eval Unit :=
  modify fun p => { p with trail := f p.trail }

def push (label : String) : Eval Unit := do
  match (← trail).push label with
  | .ok t => modify fun p => { p with trail := t, deepest := max p.deepest t.depth }
  | .error e => throw e

def draw {α : Type} (d : ExceptT Failure Draw α) : Eval α := fun p =>
  let (result, source) := d p.source
  (result, { p with source })

def template (directive : Directive → Eval String) (t : Template) : Eval String := do
  let outputs ← t.mapM fun
    | .literal text => pure text
    | .directive d => directive d
  return String.join outputs

/-- The output of a text. Without a mark in it, a text is its own output. -/
def text (directive : Directive → Eval String) (s : String) : Eval String :=
  if Template.hasMark s.toList then
    match Template.read s with
    | .ok t => template directive t
    | .error e => throw (.badTemplate s e)
  else pure s

def resolve (g : Generator) (directive : Directive → Eval String) (key : String) : Eval String := do
  let key := Unicode.lower key
  match g.lookup key with
  | none => throw (.missingKey key g.chain.locales)
  | some values =>
    let picked ← draw (Draw.pick values)
    move (·.enter key)
    let output ← text directive picked
    move (·.leave)
    return output

def expectCount (directive : String) (args : List String) (expected : Nat) : Eval Unit :=
  if args.length = expected then pure ()
  else throw (.wrongCount directive (toString expected) args.length)

def categoryMethod (g : Generator) (directive : Directive → Eval String)
    (category method : String) (args : List String) : Eval String := do
  let key := category ++ "." ++ method
  if g.hasKey key then
    expectCount key args 0
    resolve g directive key
  else throw (.unknownMethod category method)

def footballCategory : String := "englandfootball"

def teamsKey : String := "englandfootball.teams"

def leaguesKey : String := "englandfootball.leagues"

def footballMethod (g : Generator) (directive : Directive → Eval String) (method : String)
    (args : List String) : Eval String := do
  if method = "team" ∨ method = "teams" then
    expectCount method args 0
    resolve g directive teamsKey
  else if method = "league" ∨ method = "leagues" then
    expectCount method args 0
    resolve g directive leaguesKey
  else categoryMethod g directive footballCategory method args

def wholeNumber? (s : String) : Option Int :=
  match Unicode.trim s.toList with
  | '-' :: ds => (Decimal.numeral? 10 ds).map fun n => -(n : Int)
  | '+' :: ds => (Decimal.numeral? 10 ds).map Int.ofNat
  | ds => (Decimal.numeral? 10 ds).map Int.ofNat

def notANumber (directive value : String) : Failure :=
  .badArgument s!"{directive}: '{value}' is not a valid integer"

def signedArgument (directive value : String) : Eval Int :=
  match wholeNumber? value with
  | some i => if -Int.pow 2 63 ≤ i ∧ i < Int.pow 2 63 then pure i else throw (notANumber directive value)
  | none => throw (notANumber directive value)

/-- A number that fits into 64 bits without a sign; not even zero may have a minus sign. -/
def countArgument (directive value : String) : Eval Nat :=
  match wholeNumber? value with
  | some i =>
    if (Unicode.trim value.toList).head? = some '-' ∨ Int.pow 2 64 ≤ i then
      throw (notANumber directive value)
    else pure i.toNat
  | none => throw (notANumber directive value)

def maxDigits : Nat := 1000

def digits (count : Nat) : ExceptT Failure Draw String :=
  if maxDigits < count then
    throw (.badArgument s!"digits: count {count} exceeds the maximum of {maxDigits}")
  else do
    let ds ← (Placeholder.numerify (List.replicate count '#') : Draw (List Char))
    return .ofList ds

def numbersMethod (method : String) (args : List String) : Eval String := do
  if method = "number_between" then
    expectCount method args 2
    let least ← signedArgument method (args.headD "")
    let limit ← signedArgument method (args.tail.headD "")
    return toString (← draw (Draw.between least limit))
  else if method = "random_digit" then
    expectCount method args 0
    return toString (← draw (Draw.number 10))
  else if method = "random_digit_not_zero" then
    expectCount method args 0
    return toString ((← draw (Draw.number 9)) + 1)
  else if method = "digits" then
    expectCount method args 1
    let count ← countArgument method (args.headD "")
    draw (digits count)
  else throw (.unknownMethod "number" method)

def method (g : Generator) (directive : Directive → Eval String) (p : Provider) (method : String)
    (args : List String) : Eval String :=
  match p with
  | .football => footballMethod g directive method args
  | .numbers => numbersMethod method args
  | .category name => categoryMethod g directive name method args

/-- The key that a bare name means in the category at hand. A builtin is never such a key. -/
def siblingKey? (g : Generator) (t : Trail) (name : String) (args : List String) : Option String :=
  if !args.isEmpty || (Builtin.ofName? name).isSome then none
  else
    match t.category? with
    | none => none
    | some category =>
      let key := category ++ "." ++ name
      if g.hasKey key then some key else none

def arguments (directive : Directive → Eval String) (args : List Argument) : Eval (List String) :=
  args.mapM fun
    | .literal text => pure text
    | .nested d => directive d

/-- The output of a directive whose arguments are known, before it is evaluated again. -/
def raw (g : Generator) (directive : Directive → Eval String) (d : Directive)
    (args : List String) : Eval String := do
  match d with
  | .builtin name _ =>
    match siblingKey? g (← trail) name args with
    | some key => resolve g directive key
    | none => draw (Builtin.call name args)
  | .provider p m _ =>
    match g.registry.get p with
    | .ok p => method g directive p (Name.snake m) args
    | .error e => throw e

/-- The output of a directive, for which so many levels are left. -/
def directive (g : Generator) : Nat → Directive → Eval String
  | 0, d => do throw ((← trail).refusal d.label)
  | levels + 1, d => do
    push d.label
    let args ← arguments (directive g levels) d.args
    let raw ← raw g (directive g levels) d args
    let output ← text (directive g levels) raw
    move (·.pop)
    return output

/-- Runs an evaluation with as many levels as the trail has left. -/
def withLevels {α : Type} (g : Generator) (run : (Directive → Eval String) → Eval α) : Eval α := do
  let t ← trail
  run (directive g (t.limit - t.depth))

end Eval

namespace Generator

def newTrail (g : Generator) : Trail :=
  .new g.maxDepth

def evalText (g : Generator) (text : String) : Eval String :=
  Eval.withLevels g fun directive => Eval.text directive text

def evalTemplate (g : Generator) (t : Template) : Eval String :=
  Eval.withLevels g fun directive => Eval.template directive t

def evalDirective (g : Generator) (d : Directive) : Eval String :=
  Eval.withLevels g fun directive => directive d

def resolveIn (g : Generator) (key : String) : Eval String :=
  Eval.withLevels g fun directive => Eval.resolve g directive key

def fresh {α : Type} (g : Generator) (e : Eval α) : ExceptT Failure Draw α := fun source =>
  let (result, p) := e { trail := g.newTrail, source }
  (result, p.source)

theorem fresh_apply {g : Generator} {α : Type} (e : Eval α) (source : Source) :
    g.fresh e source =
      ((e ⟨g.newTrail, source, 0⟩).1, (e ⟨g.newTrail, source, 0⟩).2.source) := rfl

def expression (g : Generator) (text : String) : ExceptT Failure Draw String :=
  g.fresh (g.evalText text)

def resolve (g : Generator) (key : String) : ExceptT Failure Draw String :=
  g.fresh (g.resolveIn key)

def invoke (g : Generator) (p : Provider) (method : String) (args : List String) :
    ExceptT Failure Draw String :=
  g.fresh (Eval.withLevels g fun directive => Eval.method g directive p (Name.snake method) args)

def team (g : Generator) : ExceptT Failure Draw String :=
  g.resolve Eval.teamsKey

def league (g : Generator) : ExceptT Failure Draw String :=
  g.resolve Eval.leaguesKey

end Generator

end Figment
