/-!
Arguments of a command line: options and operands.

An option has a long name, perhaps a short one, and perhaps a value. The value follows an equals sign
or is the next argument, which must not look like an option itself; behind a short name it may also
follow directly. Behind two hyphens there are only operands. What makes no sense is refused where it
stands, even if help is asked for behind it.
-/

namespace Figment.Command

structure OptionForm where
  name : String
  short : Option Char := none
  takesValue : Bool := false
  /-- Whether it may be given more than once. -/
  repeats : Bool := false
  /-- Whether it asks for something else, such as help, so that nothing behind it matters. -/
  ends : Bool := false
  /-- The values that make sense. -/
  fits : String → Bool := fun _ => true

/-- Options in the order in which they were given, those without a value with an empty one, and
operands. -/
structure Arguments where
  options : List (String × String) := []
  operands : List String := []
deriving DecidableEq, Repr

namespace Arguments

def values (a : Arguments) (name : String) : List String :=
  (a.options.filter (·.1 = name)).map (·.2)

def value? (a : Arguments) (name : String) : Option String :=
  (a.values name).head?

def has (a : Arguments) (name : String) : Bool :=
  !(a.values name).isEmpty

def add? (a : Arguments) (form : OptionForm) (value : String) : Option Arguments :=
  if (a.has form.name && !form.repeats) || !form.fits value then none
  else some { a with options := a.options ++ [(form.name, value)] }

def addOperand? (a : Arguments) (operand : String) : Option Arguments :=
  if operand = "" then none else some { a with operands := a.operands ++ [operand] }

end Arguments

/-- Whether an argument looks like an option. A single hyphen does not. -/
def looksLikeOption (s : List Char) : Bool :=
  match s with
  | '-' :: _ :: _ => true
  | _ => false

def splitAtEquals (s : List Char) : List Char × Option (List Char) :=
  match s.dropWhile (· ≠ '=') with
  | [] => (s, none)
  | _ :: value => (s.takeWhile (· ≠ '='), some value)

inductive Scan where
  /-- At the end. -/
  | done (a : Arguments)
  /-- At an option that asks for something else. -/
  | stopped (name : String)
  /-- At an operand, where operands are not to be read. -/
  | operand (first : String) (rest : List String)
  /-- At an argument that makes no sense. -/
  | wrong

inductive Step where
  | next (a : Arguments)
  /-- The value of an option has to follow. -/
  | pending (a : Arguments) (form : OptionForm)
  | operand
  /-- Only operands follow. -/
  | separator
  | ended (s : Scan)

namespace Step

def ofOption : Option Arguments → Step
  | some a => next a
  | none => ended .wrong

def afterFlag (a : Arguments) (form : OptionForm) (go : Arguments → Step) : Step :=
  if form.ends then ended (.stopped form.name)
  else
    match a.add? form "" with
    | none => ended .wrong
    | some a => go a

def ofLong (forms : List OptionForm) (a : Arguments) (s : List Char) : Step :=
  let (name, value) := splitAtEquals s
  match forms.find? (·.name.toList = name) with
  | none => ended .wrong
  | some form =>
    match form.takesValue, value with
    | true, some v => ofOption (a.add? form (.ofList v))
    | true, none => pending a form
    | false, some _ => ended .wrong
    | false, none => afterFlag a form next

/-- A group of short options, after the hyphen. Only the last one may take a value, which is what is
left of the group. -/
def ofShort (forms : List OptionForm) (a : Arguments) : List Char → Step
  | [] => next a
  | c :: rest =>
    match forms.find? (·.short = some c) with
    | none => ended .wrong
    | some form =>
      if form.takesValue then
        match rest with
        | [] => pending a form
        | '=' :: value => ofOption (a.add? form (.ofList value))
        | value => ofOption (a.add? form (.ofList value))
      else afterFlag a form fun a => ofShort forms a rest

def ofArgument (forms : List OptionForm) (a : Arguments) (arg : String) : Step :=
  match arg.toList with
  | ['-', '-'] => separator
  | '-' :: '-' :: long => ofLong forms a long
  | '-' :: c :: short => ofShort forms a (c :: short)
  | _ => operand

end Step

/-- Reads arguments on from `a`; `pending` is an option that waits for its value. Without `operands`
the first operand ends the reading. -/
def scan (forms : List OptionForm) (operands : Bool) (a : Arguments) (pending : Option OptionForm) :
    List String → Scan
  | [] => if pending.isSome then .wrong else .done a
  | arg :: rest =>
    match pending with
    | some form =>
      if looksLikeOption arg.toList then .wrong
      else
        match a.add? form arg with
        | none => .wrong
        | some a => scan forms operands a none rest
    | none =>
      match Step.ofArgument forms a arg with
      | .next a => scan forms operands a none rest
      | .pending a form => scan forms operands a (some form) rest
      | .operand =>
        if operands then
          match a.addOperand? arg with
          | none => .wrong
          | some a => scan forms operands a none rest
        else .operand arg rest
      | .separator =>
        if operands then
          match rest.foldlM Arguments.addOperand? a with
          | none => .wrong
          | some a => .done a
        else if rest.isEmpty then .done a
        else .wrong
      | .ended s => s

end Figment.Command
