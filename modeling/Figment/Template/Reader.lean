import Figment.Reading
import Figment.Template.Basic
import Figment.Unicode.Blank
import Figment.Unicode.Letter
/-!
Reading templates.

    template  = (literal character | directive)*
    directive = '#' '{' ws path (ws args)? ws '}'
    path      = name ('.' name)*           args = arg (ws ',' ws arg)*
    arg       = quoted | directive         ws   = white space, perhaps none

A number sign that is not followed by an opening brace is a literal character, and so is a closing
brace outside a directive. Once the opening mark is read, all trouble is fatal. A text that is
refused where it ends is reported as cut short.
-/

namespace Figment.Template

def isNameChar (c : Char) : Bool :=
  Unicode.isAlphanumeric c || c == '_'

def skipBlanks (s : List Char) : List Char :=
  s.dropWhile Unicode.isBlank

theorem length_skipBlanks_le (s : List Char) : (skipBlanks s).length ≤ s.length :=
  (List.dropWhile_sublist _).length_le

def spanLiteral (s : List Char) : List Char × List Char :=
  go [] s
where
  go (before : List Char) : List Char → List Char × List Char
    | [] => (before.reverse, [])
    | '#' :: '\x7b' :: rest => (before.reverse, '#' :: '\x7b' :: rest)
    | c :: rest => go (c :: before) rest

theorem spanLiteral_append (s : List Char) : (spanLiteral s).1 ++ (spanLiteral s).2 = s := by
  have go_append : ∀ before : List Char,
      (spanLiteral.go before s).1 ++ (spanLiteral.go before s).2 = before.reverse ++ s := by
    intro before
    fun_induction spanLiteral.go before s with
    | case1 before => rfl
    | case2 before rest => rfl
    | case3 before c rest _ ih => rw [ih, List.reverse_cons, List.append_assoc]; rfl
  exact go_append []

def readName (s : List Char) : Reply (List Char) :=
  let name := s.takeWhile isNameChar
  if name = [] then .stuck { rest := s } else .done name (s.dropWhile isNameChar)

/-- The names that follow the first one in a path. A point without a name behind it is left. -/
def readPathTail (s : List Char) : List (List Char) × List Char :=
  match s with
  | '.' :: after =>
    match readName after with
    | .stuck _ => ([], s)
    | .done name rest =>
      if rest.length ≤ after.length then
        let (names, rest) := readPathTail rest
        (name :: names, rest)
      else ([name], rest)
  | _ => ([], s)
termination_by s.length

def readPath (s : List Char) : Reply (List Char × List (List Char)) :=
  ((readName s).mapTrouble (·.expecting "a builtin name or Provider.method")).andThen
    fun first rest =>
      let (names, rest) := readPathTail rest
      .done (first, names) rest

/-- The text up to the closing quote, which is fatally missing at the end of the input. A backslash
before a quote makes the quote part of the text; any other backslash is kept. -/
def readQuoted (s : List Char) : Reply (List Char) :=
  go [] s
where
  go (before : List Char) : List Char → Reply (List Char)
    | '\\' :: '\'' :: rest => go ('\'' :: before) rest
    | '\'' :: rest => .done before.reverse rest
    | c :: rest => go (c :: before) rest
    | [] => .stuck { rest := [], fatal := true, label := some "argument", expected := ["`'`"] }

def directiveOf (first : List Char) (names : List (List Char)) (args : List Argument) : Directive :=
  match names with
  | [] => .builtin (.ofList first) args
  | _ => .provider (.ofList first) (".".intercalate (names.map .ofList)) args

mutual

def readDirective (s : List Char) : Reply Directive :=
  ((readPath (skipBlanks s)).andThen fun path rest =>
    if rest.length < s.length then
      (readArguments rest).andThen fun args rest =>
        match skipBlanks rest with
        | '\x7d' :: rest => .done (directiveOf path.1 path.2 args) rest
        | rest => .stuck { rest }
    else .stuck { rest }).mapTrouble fun t =>
      (t.commit.within "directive").expecting "`\x7d`"
termination_by 2 * s.length

def readArguments (s : List Char) : Reply (List Argument) :=
  match readArgument (skipBlanks s) with
  | .stuck t => if t.fatal then .stuck t else .done [] s
  | .done arg rest =>
    if rest.length < s.length then (readMoreArguments rest).map (arg :: ·) else .done [arg] rest
termination_by 2 * s.length + 1
decreasing_by
  · have := length_skipBlanks_le s
    omega
  · omega

/-- The arguments after the first, each behind a comma. A comma without an argument is left. -/
def readMoreArguments (s : List Char) : Reply (List Argument) :=
  match _h : skipBlanks s with
  | ',' :: after =>
    match readArgument (skipBlanks after) with
    | .stuck t => if t.fatal then .stuck t else .done [] s
    | .done arg rest =>
      if rest.length < s.length then (readMoreArguments rest).map (arg :: ·) else .done [arg] rest
  | _ => .done [] s
termination_by 2 * s.length + 1
decreasing_by
  · have := length_skipBlanks_le s
    have := length_skipBlanks_le after
    simp [_h] at *
    omega
  · omega

def readArgument (s : List Char) : Reply Argument :=
  match s with
  | '\'' :: rest => (readQuoted rest).map fun text => .literal (.ofList text)
  | '#' :: '\x7b' :: rest => (readDirective rest).map .nested
  | _ => .stuck { rest := s }
termination_by 2 * s.length

end

/-- Segments, as many as can be read. An opening mark is never a literal character. -/
def readSegments (s : List Char) : Reply Template :=
  match s with
  | [] => .done [] []
  | '#' :: '\x7b' :: inside =>
    match readDirective inside with
    | .stuck t => if t.fatal then .stuck t else .done [] s
    | .done d rest =>
      if rest.length ≤ inside.length then (readSegments rest).map (.directive d :: ·)
      else .done [.directive d] rest
  | c :: after =>
    let (text, rest) := spanLiteral after
    if rest.length ≤ after.length then
      (readSegments rest).map (.literal (.ofList (c :: text)) :: ·)
    else .done [] rest
termination_by s.length

def read (text : String) : Except SyntaxError Template :=
  let whole := text.toList
  match readSegments whole with
  | .stuck t => .error (if t.rest = [] then .cutShort (.of whole []) else t.toError whole)
  | .done segments [] => .ok segments
  | .done _ (c :: rest) =>
    .error (.malformed (.of whole (c :: rest)) s!"unexpected character: '{c}'")

end Figment.Template
