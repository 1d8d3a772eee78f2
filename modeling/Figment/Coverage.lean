import Figment.Data.Store
/-!
Coverage: which keys of a source a target lacks.
-/

namespace Figment

/-- The keys of one target, compared with those of the source. -/
structure Coverage where
  locale : String
  /-- How many keys of the source the target has. -/
  covered : Nat
  /-- The keys of the source that the target lacks, in ascending order. -/
  missing : List String
  /-- How many keys the target has that the source lacks. -/
  extra : Nat
deriving DecidableEq, Repr

namespace Coverage

/-- The keys of a tree, each once, in ascending order. -/
def keysOf (t : Tree) : List String :=
  t.keys.eraseDups

def of (source : List String) (locale : String) (target : List String) : Coverage where
  locale
  covered := (source.filter (· ∈ target)).length
  missing := source.filter (· ∉ target)
  extra := (target.filter (· ∉ source)).length

def isComplete (c : Coverage) : Bool :=
  c.missing.isEmpty

def heading : List String := ["Locale", "Coverage", "Missing", "Extra"]

def cells (total : Nat) (c : Coverage) : List String :=
  [c.locale, s!"{c.covered}/{total}", toString c.missing.length, toString c.extra]

def widths (rows : List (List String)) : List Nat :=
  rows.foldl (fun ws row => List.zipWith max ws (row.map (·.length))) [0, 0, 0, 0]

def padded (width : Nat) (s : String) : String :=
  s ++ .ofList (List.replicate (width - s.length) ' ')

def rowText (ws : List Nat) (row : List String) : String :=
  "│ " ++ "   ".intercalate (List.zipWith padded ws row) ++ " │"

def frameLine (ws : List Nat) (left across right : Char) : String :=
  let width := ws.foldl (· + ·) 0 + 3 * (ws.length - 1) + 2
  .ofList (left :: (List.replicate width across ++ [right]))

def table (total : Nat) (targets : List Coverage) : String :=
  let rows := targets.map (cells total)
  let ws := widths (heading :: rows)
  "\n".intercalate
    ([frameLine ws '┌' '─' '┐', rowText ws heading, frameLine ws '╞' '═' '╡']
      ++ (rows.map (rowText ws) ++ [frameLine ws '└' '─' '┘']))

def missingList (c : Coverage) : String :=
  if c.isComplete then ""
  else s!"\nMissing in {c.locale}:\n" ++ String.join (c.missing.map (s!"  - {·}\n"))

end Coverage

end Figment
