/-!
Templates: literal text with directives in it.

A directive names a built-in generator or a method of a provider, and has arguments that are quoted
text or directives themselves.
-/

namespace Figment

mutual

inductive Directive where
  | builtin (name : String) (args : List Argument)
  | provider (provider method : String) (args : List Argument)

/-- An argument: quoted text, taken as it is, or a directive to be evaluated first. -/
inductive Argument where
  | literal (text : String)
  | nested (directive : Directive)

end

instance : Inhabited Directive := ⟨.builtin "" []⟩

instance : Inhabited Argument := ⟨.literal ""⟩

namespace Directive

/-- The name under which a directive appears in messages and on the call stack. -/
def label : Directive → String
  | builtin name _ => name
  | provider p m _ => s!"{p}.{m}"

def args : Directive → List Argument
  | builtin _ args => args
  | provider _ _ args => args

end Directive

def Argument.directive? : Argument → Option Directive
  | literal _ => none
  | nested d => some d

def Directive.inner (d : Directive) : List Directive :=
  d.args.filterMap Argument.directive?

mutual

/-- The number of directives in a directive: itself, and those in its arguments at any depth. -/
def Directive.count : Directive → Nat
  | .builtin _ args => Argument.countAll args + 1
  | .provider _ _ args => Argument.countAll args + 1

def Argument.countAll : List Argument → Nat
  | [] => 0
  | a :: rest => a.count + Argument.countAll rest

def Argument.count : Argument → Nat
  | .literal _ => 0
  | .nested d => d.count

end

def Directive.countAll : List Directive → Nat
  | [] => 0
  | d :: rest => d.count + countAll rest

theorem Directive.countAll_filterMap (args : List Argument) :
    countAll (args.filterMap Argument.directive?) = Argument.countAll args := by
  induction args with
  | nil => rfl
  | cons a args ih =>
    rw [Argument.countAll, ← ih]
    cases a with
    | literal text => exact (Nat.zero_add _).symm
    | nested d => rfl

theorem Directive.count_eq (d : Directive) : d.count = countAll d.inner + 1 := by
  cases d with
  | builtin name args => rw [count, inner, countAll_filterMap, Directive.args]
  | provider p m args => rw [count, inner, countAll_filterMap, Directive.args]

theorem Directive.countAll_reverse_append (ds rest : List Directive) :
    countAll (ds.reverse ++ rest) = countAll ds + countAll rest := by
  induction ds generalizing rest with
  | nil => exact (Nat.zero_add _).symm
  | cons d ds ih =>
    rw [List.reverse_cons, List.append_assoc, ih, List.singleton_append, countAll, countAll]
    omega

theorem Directive.count_le_countAll {d : Directive} {ds : List Directive} (h : d ∈ ds) :
    d.count ≤ countAll ds := by
  induction ds with
  | nil => cases h
  | cons e ds ih =>
    rw [countAll]
    cases h with
    | head => exact Nat.le_add_right _ _
    | tail _ later => exact Nat.le_add_left_of_le (ih later)

inductive Segment where
  | literal (text : String)
  | directive (d : Directive)

namespace Segment

def isLiteral : Segment → Bool
  | literal _ => true
  | directive _ => false

def directive? : Segment → Option Directive
  | literal _ => none
  | directive d => some d

end Segment

abbrev Template := List Segment

namespace Template

def isLiteral (t : Template) : Bool :=
  t.all Segment.isLiteral

def directives (t : Template) : List Directive :=
  t.filterMap Segment.directive?

/-- Whether the opening mark of a directive, a number sign and a brace, occurs in the text. -/
def hasMark : List Char → Bool
  | [] => false
  | '#' :: '\x7b' :: _ => true
  | _ :: rest => hasMark rest

end Template

end Figment
