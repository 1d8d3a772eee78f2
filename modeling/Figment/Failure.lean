import Figment.Reading
/-!
What can go wrong, and what is said about it.

`LoadFailure` tells why a generator could not be set up, `Failure` why a value could not be
generated.
-/

namespace Figment

inductive LoadFailure where
  /-- The file cannot be read as text. -/
  | unreadable (path reason : String)
  /-- The text is not one well-formed document. -/
  | notYaml (origin : String)
  /-- The document does not describe data. -/
  | unsuitable (origin message : String)
  | badLocale (locale reason : String)
deriving DecidableEq, Repr

def LoadFailure.text : LoadFailure → String
  | unreadable path reason => s!"failed to read '{path}': {reason}"
  | notYaml origin => s!"{origin}: not a single well-formed YAML document"
  | unsuitable origin message => s!"{origin}: {message}"
  | badLocale locale reason => s!"invalid locale '{locale}': {reason}"

inductive Failure where
  | badPattern (pattern : String) (reason : SyntaxError)
  | badTemplate (text : String) (reason : SyntaxError)
  | unknownBuiltin (name : String) (suggestions : List String)
  | unknownProvider (name : String) (suggestions : List String)
  | unknownMethod (provider method : String)
  | wrongCount (directive expected : String) (got : Nat)
  /-- More than `limit` directives within each other; `labels` ends with the one that was refused. -/
  | tooDeep (limit : Nat) (labels : List String)
  | missingKey (key : String) (locales : List String)
  | badArgument (message : String)
deriving DecidableEq, Repr

namespace Failure

def question (suggestions : List String) : String :=
  if suggestions = [] then "" else ", did you mean: " ++ ", ".intercalate suggestions ++ "?"

def text : Failure → String
  | badPattern pattern reason => s!"invalid pattern '{pattern}': {reason.text}"
  | badTemplate text reason => s!"invalid expression '{text}': {reason.text}"
  | unknownBuiltin name suggestions => s!"unknown builtin '{name}'" ++ question suggestions
  | unknownProvider name suggestions => s!"unknown provider '{name}'" ++ question suggestions
  | unknownMethod provider method => s!"provider '{provider}' has no method '{method}'"
  | wrongCount directive expected got => s!"'{directive}' expects {expected} arguments, got {got}"
  | tooDeep limit labels =>
    s!"maximum recursion depth {limit} exceeded: " ++ " -> ".intercalate labels
  | missingKey key locales =>
    s!"key '{key}' not found in locales [" ++ ", ".intercalate locales ++ "]"
  | badArgument message => s!"invalid argument: {message}"

def noOptions (placeholder : Char) : Failure :=
  badArgument s!"no options given for placeholder '{placeholder}'"

def nothingToPick : Failure :=
  badArgument "cannot pick from an empty list"

end Failure

end Figment
