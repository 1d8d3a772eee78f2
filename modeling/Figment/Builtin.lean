import Figment.Pattern.Generate
import Figment.Placeholder
import Figment.Suggestion
import Figment.Unicode.Lowering
/-!
The generators that a directive can name without a provider.

Their arguments are checked before anything is drawn.
-/

namespace Figment

inductive Builtin where
  | bothify
  | examplify
  | letterify
  | numerify
  | regexify
  | templatify
deriving DecidableEq, Repr

namespace Builtin

/-- All of them, in the order of their names. -/
def all : List Builtin :=
  [bothify, examplify, letterify, numerify, regexify, templatify]

def name : Builtin → String
  | bothify => "bothify"
  | examplify => "examplify"
  | letterify => "letterify"
  | numerify => "numerify"
  | regexify => "regexify"
  | templatify => "templatify"

def names : List String :=
  all.map name

/-- The generator with a name, in whatever case it is written. -/
def ofName? (name : String) : Option Builtin :=
  all.find? (·.name = Unicode.lower name)

theorem ofName?_eq_some_iff {name : String} {b : Builtin} :
    ofName? name = some b ↔ Unicode.lower name = b.name := by
  constructor
  · intro found
    have named := List.find?_some found
    exact (of_decide_eq_true named).symm
  · intro lower
    rw [ofName?, lower]
    cases b <;> rfl

/-- The numbers of arguments that a generator takes; without an upper bound any number from the
lower one on. -/
structure Arity where
  least : Nat
  most : Option Nat
deriving DecidableEq, Repr

def Arity.admits (a : Arity) (n : Nat) : Bool :=
  a.least ≤ n && a.most.all (n ≤ ·)

def Arity.text (a : Arity) : String :=
  match a.most with
  | none => s!"at least {a.least}"
  | some most => if most = a.least then toString most else s!"{a.least} to {most}"

def arity : Builtin → Arity
  | bothify => ⟨1, some 2⟩
  | examplify => ⟨1, some 1⟩
  | letterify => ⟨1, some 2⟩
  | numerify => ⟨1, some 1⟩
  | regexify => ⟨1, some 1⟩
  | templatify => ⟨3, none⟩

/-- The meaning of a flag. White space around it and its case are ignored. -/
def flag (value : String) : Except Failure Bool :=
  let word := Unicode.lower (.ofList (Unicode.trim value.toList))
  if word = "true" then .ok true
  else if word = "false" then .ok false
  else .error (.badArgument s!"expected 'true' or 'false', got '{value}'")

def flag? : List String → Except Failure (Option Bool)
  | [] => .ok none
  | value :: _ => (flag value).map some

def placeholder (value : String) : Except Failure Char :=
  match value.toList with
  | [c] => .ok c
  | _ => .error (.badArgument s!"placeholder must be a single character, got '{value}'")

def run (b : Builtin) (first : String) (more : List String) :
    ExceptT Failure Draw (List Char) :=
  let text := first.toList
  match b with
  | numerify => (Placeholder.numerify text : Draw (List Char))
  | examplify => (Placeholder.examplify text : Draw (List Char))
  | letterify => do
    let upper ← (flag? more : Except Failure (Option Bool))
    (Placeholder.letterify upper text : Draw (List Char))
  | bothify => do
    let upper ← (flag? more : Except Failure (Option Bool))
    (Placeholder.bothify upper text : Draw (List Char))
  | regexify => Pattern.regexify first
  | templatify => do
    let c ← (placeholder (more.headD "") : Except Failure Char)
    Placeholder.templatify c more.tail text

def call (name : String) (args : List String) : ExceptT Failure Draw String :=
  match ofName? name with
  | none => throw (.unknownBuiltin name (suggest (Unicode.lower name) names))
  | some b =>
    match args with
    | first :: more =>
      if b.arity.admits args.length then String.ofList <$> b.run first more else refuse b
    | [] => refuse b
where
  refuse (b : Builtin) : ExceptT Failure Draw String :=
    throw (.wrongCount b.name b.arity.text args.length)

end Builtin

end Figment
