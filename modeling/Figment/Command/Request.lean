import Figment.Command.Arguments
import Figment.Decimal.Digits
import Figment.Trail
/-!
Requests: what a command line asks for.
-/

namespace Figment.Command

structure LocaleFile where
  locale : String
  path : String
deriving DecidableEq, Repr

inductive Subject where
  | expression (text : String)
  | key (key : String)
deriving DecidableEq, Repr

structure EvalRequest where
  subject : Subject
  locale : String
  seed : Option UInt64
  data : List LocaleFile
  bundled : Bool
  maxDepth : Nat
  count : Nat
  json : Bool
deriving DecidableEq, Repr

structure CheckRequest where
  files : List String
  json : Bool
deriving DecidableEq, Repr

structure CoverageRequest where
  source : LocaleFile
  targets : List LocaleFile
  strict : Bool
  json : Bool
deriving DecidableEq, Repr

inductive Request where
  | version
  | help
  | eval (r : EvalRequest)
  | check (r : CheckRequest)
  | coverage (r : CoverageRequest)
  /-- The command line makes no sense. -/
  | misused
deriving DecidableEq, Repr

/-- A number below 2^64, perhaps with a plus sign. -/
def count? (s : String) : Option Nat :=
  let digits := match s.toList with
    | '+' :: ds => ds
    | ds => ds
  (Decimal.numeral? 10 digits).bind fun n => if n < Nat.pow 2 64 then some n else none

/-- A locale and a path, divided at the first equals sign; neither is empty. -/
def localeFile? (s : String) : Option LocaleFile :=
  match splitAtEquals s.toList with
  | (locale, some path) =>
    if locale = [] ∨ path = [] then none else some ⟨.ofList locale, .ofList path⟩
  | (_, none) => none

/-- When output is coloured. No output depends on it, but only these words are accepted. -/
def isColorMode (s : String) : Bool :=
  s ∈ ["auto", "always", "never"]

def commonForms : List OptionForm :=
  [{ name := "color", takesValue := true, fits := isColorMode },
   { name := "verbose", short := some 'v' },
   { name := "help", short := some 'h', ends := true }]

def programForms : List OptionForm :=
  [{ name := "version", short := some 'V', ends := true }]

def evalForms : List OptionForm :=
  [{ name := "locale", takesValue := true },
   { name := "seed", takesValue := true, fits := fun s => (count? s).isSome },
   { name := "data", takesValue := true, repeats := true, fits := fun s => (localeFile? s).isSome },
   { name := "no-builtin" },
   { name := "max-depth", takesValue := true, fits := fun s => (count? s).isSome },
   { name := "count", short := some 'n', takesValue := true, fits := fun s => (count? s).isSome },
   { name := "expr", takesValue := true },
   { name := "key", takesValue := true },
   { name := "json" }]

def checkForms : List OptionForm :=
  [{ name := "json" }]

def coverageForms : List OptionForm :=
  [{ name := "source", takesValue := true, fits := fun s => (localeFile? s).isSome },
   { name := "target", takesValue := true, repeats := true,
     fits := fun s => (localeFile? s).isSome },
   { name := "strict" },
   { name := "json" }]

/-- Either an expression or a key has to be given, and not both. -/
def subject? (a : Arguments) : Option Subject :=
  match a.value? "expr", a.value? "key" with
  | some text, none => some (.expression text)
  | none, some key => some (.key key)
  | _, _ => none

def evalRequest? (a : Arguments) : Option Request :=
  (subject? a).map fun subject => .eval
    { subject
      locale := (a.value? "locale").getD "en"
      seed := ((a.value? "seed").bind count?).map .ofNat
      data := (a.values "data").filterMap localeFile?
      bundled := !a.has "no-builtin"
      maxDepth := ((a.value? "max-depth").bind count?).getD Trail.defaultLimit
      count := ((a.value? "count").bind count?).getD 1
      json := a.has "json" }

def checkRequest? (a : Arguments) : Option Request :=
  if a.operands = [] then none
  else some (.check { files := a.operands, json := a.has "json" })

def coverageRequest? (a : Arguments) : Option Request :=
  let targets := (a.values "target").filterMap localeFile?
  if targets = [] then none
  else
    ((a.value? "source").bind localeFile?).map fun source => .coverage
      { source, targets, strict := a.has "strict", json := a.has "json" }

def commandRequest (forms : List OptionForm) (operands : Bool)
    (request? : Arguments → Option Request) (args : List String) : Request :=
  match scan (forms ++ commonForms) operands {} none args with
  | .done a => (request? a).getD .misused
  | .stopped _ => .help
  | _ => .misused

def commands : List String := ["eval", "check", "coverage", "help"]

def helpRequest : List String → Request
  | [] => .help
  | [command] => if command ∈ commands then .help else .misused
  | _ => .misused

def request (args : List String) : Request :=
  match scan (programForms ++ commonForms) false {} none args with
  | .stopped name => if name = "version" then .version else .help
  | .operand command rest =>
    if command = "eval" then commandRequest evalForms false evalRequest? rest
    else if command = "check" then commandRequest checkForms true checkRequest? rest
    else if command = "coverage" then commandRequest coverageForms false coverageRequest? rest
    else if command = "help" then helpRequest rest
    else .misused
  | _ => .misused

def Request.files : Request → List String
  | eval r => r.data.map (·.path)
  | check r => r.files
  | coverage r => (r.source :: r.targets).map (·.path)
  | _ => []

end Figment.Command
