import Figment.Builtin
import Figment.Data.Source
import Figment.Template.Reader
/-!
Checking data for directives that cannot work: texts that are not templates, names of generators
that do not exist, and patterns that are refused.

The directives of a value are visited from the last to the first, and each one before those in its
arguments. Only the first problem of a value is reported.
-/

namespace Figment.Check

/-- What is said about a text that is not a template. The place is not part of it. -/
def syntaxMessage : SyntaxError → String
  | .malformed _ message => s!"syntax error: {message}"
  | .cutShort _ => "unexpected end of expression"

def siblingKey (key name : String) : String :=
  Tree.category key ++ "." ++ Unicode.lower name

def unknownMessage (name : String) : String :=
  s!"unknown builtin '{name}'" ++ Failure.question (suggest (Unicode.lower name) Builtin.names)

def patternProblem? : List Argument → Option String
  | .literal pattern :: _ =>
    match Pattern.read pattern with
    | .ok _ => none
    | .error e => some s!"invalid pattern '{pattern}': {e.text}"
  | _ => none

/-- Whether a name is that of the generator for patterns. Only the case of ASCII letters is ignored. -/
def isRegexify (name : String) : Bool :=
  name.toList.map Char.toLower = Builtin.regexify.name.toList

def ownProblem? (keys : List String) (key : String) : Directive → Option String
  | .provider _ _ _ => none
  | .builtin name args =>
    match Builtin.ofName? name with
    | some _ => if isRegexify name then patternProblem? args else none
    | none =>
      if args.isEmpty && siblingKey key name ∈ keys then none else some (unknownMessage name)

/-- A search for problems: the directives that it has visited, in order, and the problem at which it has
stopped. -/
structure Search where
  visited : List Directive
  problem? : Option String

/-- Visits the directive on top of a stack. If it has no problem of its own, those in its arguments come
onto the stack in its place, the last one on top. -/
def search (keys : List String) (key : String) : List Directive → Search
  | [] => ⟨[], none⟩
  | d :: rest =>
    match ownProblem? keys key d with
    | none =>
      let later := search keys key (d.inner.reverse ++ rest)
      ⟨d :: later.visited, later.problem?⟩
    | some message => ⟨[d], some message⟩
termination_by stack => Directive.countAll stack
decreasing_by
  rw [Directive.countAll_reverse_append, Directive.countAll, d.count_eq]
  omega

def directiveProblem? (keys : List String) (key : String) (d : Directive) : Option String :=
  (search keys key [d]).problem?

def problem? (keys : List String) (key value : String) : Option String :=
  if Template.hasMark value.toList then
    match Template.read value with
    | .error e => some (syntaxMessage e)
    | .ok t => (search keys key t.directives.reverse).problem?
  else none

/-- A problem found in a file. One without a key concerns the file as a whole. -/
structure Issue where
  file : String
  key : Option String
  message : String
deriving DecidableEq, Repr

def treeIssues (file : String) (t : Tree) : List Issue :=
  let values := t.leaves.flatMap fun e => e.2.map fun v => (e.1, v)
  let keys := values.map (·.1)
  values.filterMap fun e =>
    (problem? keys e.1 e.2).map fun message => ⟨file, some e.1, message⟩

def fileIssues (file : String) (content : Except String String) : List Issue :=
  match content with
  | .error reason => [⟨file, none, s!"cannot read file: {reason}"⟩]
  | .ok text =>
    match Tree.ofYaml file text with
    | .error e => [⟨file, none, e.text⟩]
    | .ok t => treeIssues file t

end Figment.Check
