import Figment.Check
import Figment.Command.Request
import Figment.Coverage
import Figment.Evaluation
import Figment.Json
/-!
Answers: what is printed in reply to a request, and the exit code.
-/

namespace Figment.Command

structure Answer where
  code : Nat
  output : String := ""
  errors : String := ""
deriving DecidableEq, Repr

/-- What requests are answered from: the contents of files, or the reasons why they cannot be read,
and a seed for requests that do not give one. -/
structure World where
  read : String → Except String String
  seed : UInt64

inductive Exit where
  | ok
  | misused
  | badLocale
  | badData
  | noInput
  | failed
deriving DecidableEq, Repr

def Exit.code : Exit → Nat
  | ok => 0
  | misused => 2
  | badLocale => 64
  | badData => 65
  | noInput => 66
  | failed => 70

def Exit.ofLoadFailure : LoadFailure → Exit
  | .unreadable _ _ => noInput
  | .notYaml _ => badData
  | .unsuitable _ _ => badData
  | .badLocale _ _ => badLocale

def colored (color : Nat) (s : String) : String :=
  s!"\x1b[{color}m{s}\x1b[39m"

def errorText (json : Bool) (kind message : String) : String :=
  if json then (Json.Value.object [("error", .text message)]).render ++ "\n"
  else s!"{kind}: {message}\n"

def generatorOf (w : World) (r : EvalRequest) : Except LoadFailure Generator := do
  let g ← Generator.new r.locale r.maxDepth r.bundled
  let load : Setup Unit := r.data.forM fun f => Generator.addFile f.locale f.path (w.read f.path)
  let (result, g) := load g
  result.map fun _ => g

def generate (g : Generator) : Subject → ExceptT Failure Draw String
  | .expression text => g.expression text
  | .key key => g.resolve key

/-- So many values after those in `done`, which are in reverse order. The first failure ends the
generation. -/
def generateMore (g : Generator) (subject : Subject) :
    Nat → List String → ExceptT Failure Draw (List String)
  | 0, done => return done.reverse
  | count + 1, done => do
    let value ← generate g subject
    generateMore g subject count (value :: done)

def valuesText (json : Bool) (g : Generator) (values : List String) : String :=
  if json then
    (Json.Value.object
      [("locale_chain", Json.texts g.chain.locales), ("values", Json.texts values)]).render ++ "\n"
  else String.join (values.map (· ++ "\n"))

def answerEval (w : World) (r : EvalRequest) : Answer :=
  match generatorOf w r with
  | .error e =>
    { code := (Exit.ofLoadFailure e).code
      errors := errorText r.json "Configuration error" e.text }
  | .ok g =>
    match (generateMore g r.subject r.count [] (Source.seeded (r.seed.getD w.seed))).1 with
    | .ok values => { code := Exit.ok.code, output := valuesText r.json g values }
    | .error e =>
      { code := Exit.badData.code
        errors := errorText r.json "Evaluation error" e.text }

def issueJson (i : Check.Issue) : Json.Value :=
  .object
    [("file", .text i.file),
     ("key", match i.key with
       | some key => .text key
       | none => .null),
     ("message", .text i.message)]

def issueText (i : Check.Issue) : String :=
  match i.key with
  | none => colored 31 "✗" ++ s!" {i.file}: {i.message}\n"
  | some key => s!"  × {i.message}\n  in {i.file} ({key})\n"

def answerCheck (w : World) (r : CheckRequest) : Answer :=
  let found := r.files.map fun file => (file, Check.fileIssues file (w.read file))
  let issues := found.flatMap (·.2)
  let code := if issues = [] then Exit.ok.code else Exit.badData.code
  if r.json then { code, output := (Json.Value.array (issues.map issueJson)).render ++ "\n" }
  else
    { code
      output := String.join (found.map fun e =>
        if e.2 = [] then colored 32 "✓" ++ s!" {e.1}\n" else "")
      errors := String.join (issues.map issueText) }

def keysOfFile (w : World) (f : LocaleFile) : Except LoadFailure (String × List String) := do
  let chain ← Chain.ofText f.locale
  match w.read f.path with
  | .error reason => throw (.unreadable f.path reason)
  | .ok text =>
    let t ← Tree.ofYaml f.path text
    return (chain.primary, Coverage.keysOf t)

def coverageJson (total : Nat) (c : Coverage) : Json.Value :=
  .object
    [("locale", .text c.locale), ("covered", .number c.covered), ("total", .number total),
     ("missing", Json.texts c.missing), ("extra", .number c.extra)]

def coverages (w : World) (r : CoverageRequest) : Except LoadFailure (Nat × List Coverage) := do
  let (_, source) ← keysOfFile w r.source
  let targets ← r.targets.mapM fun f => do
    let (locale, keys) ← keysOfFile w f
    return Coverage.of source locale keys
  return (source.length, targets)

def answerCoverage (w : World) (r : CoverageRequest) : Answer :=
  match coverages w r with
  | .error e => { code := Exit.failed.code, errors := s!"Error: {e.text}\n" }
  | .ok (total, targets) =>
    { code := if r.strict && !targets.all (·.isComplete) then Exit.badData.code else Exit.ok.code
      output :=
        if r.json then (Json.Value.array (targets.map (coverageJson total))).render ++ "\n"
        else Coverage.table total targets ++ "\n" ++ String.join (targets.map (·.missingList)) }

def versionText : String := "fakegen 0.1.0\n"

def usageText : String :=
  "Usage: fakegen [OPTIONS] <COMMAND>\n\nCommands: eval, check, coverage, help\n"

def answer (w : World) : Request → Answer
  | .version => { code := Exit.ok.code, output := versionText }
  | .help => { code := Exit.ok.code, output := usageText }
  | .misused => { code := Exit.misused.code, errors := usageText }
  | .eval r => answerEval w r
  | .check r => answerCheck w r
  | .coverage r => answerCoverage w r

end Figment.Command
