import Figment.Delimited
import Figment.Keyed
/-!
Trees of data.

A leaf is a text or a list of texts, and a table gives names to further trees. A path of names leads
to at most one leaf. Laying a tree over another one keeps every leaf that the upper tree leaves
alone.
-/

namespace Figment

/-- The entries of a table stand in ascending order of their names. -/
inductive Tree where
  | text (value : String)
  | list (values : List String)
  | table (entries : List (String × Tree))
deriving Inhabited

namespace Tree

def values? : Tree → Option (List String)
  | text value => some [value]
  | list values => some values
  | table _ => none

def child? (name : String) : Tree → Option Tree
  | table entries => Keyed.find? name entries
  | _ => none

def get? (t : Tree) : List String → Option Tree
  | [] => some t
  | name :: path => (t.child? name).bind (·.get? path)

def leaf? (t : Tree) (path : List String) : Option (List String) :=
  (t.get? path).bind values?

mutual

/-- The tree `base` with another one laid over it: leaves replace what is there, and tables are
joined name by name. -/
def overlay (base : Tree) : Tree → Tree
  | text value => text value
  | list values => list values
  | table upper =>
    match base with
    | table entries => table (overlayEntries entries upper)
    | _ => table upper

def overlayEntries (base : List (String × Tree)) : List (String × Tree) → List (String × Tree)
  | [] => base
  | (name, upper) :: rest =>
    let merged := match Keyed.find? name base with
      | some lower => overlay lower upper
      | none => upper
    Keyed.put name merged (overlayEntries base rest)

end

theorem leaf?_nil (t : Tree) : t.leaf? [] = t.values? := rfl

theorem leaf?_cons (t : Tree) (name : String) (path : List String) :
    t.leaf? (name :: path) = (t.child? name).bind (·.leaf? path) := by
  unfold leaf?
  rw [get?]
  cases t.child? name with
  | none => rfl
  | some u => rfl

theorem find?_overlayEntries (name : String) (base upper : List (String × Tree)) :
    Keyed.find? name (overlayEntries base upper) =
      match Keyed.find? name upper, Keyed.find? name base with
      | none, lower => lower
      | some u, none => some u
      | some u, some lower => some (lower.overlay u) := by
  induction upper with
  | nil => rfl
  | cons e rest ih =>
    obtain ⟨first, u⟩ := e
    by_cases h : first = name
    · subst h
      rw [overlayEntries, Keyed.find?_put_self, Keyed.find?, if_pos rfl]
      cases Keyed.find? first base with
      | none => rfl
      | some lower => rfl
    · rw [overlayEntries, Keyed.find?_put_of_ne _ _ (Ne.symm h), ih, Keyed.find?, if_neg h]

/-- The key of a name under the key `above`. Under an empty key it is the name itself. -/
def joinKey (above name : String) : String :=
  if above = "" then name else above ++ "." ++ name

mutual

def leavesFrom (above : String) : Tree → List (String × List String)
  | text value => [(above, [value])]
  | list values => [(above, values)]
  | table entries => leavesOf above entries

def leavesOf (above : String) : List (String × Tree) → List (String × List String)
  | [] => []
  | (name, t) :: rest => t.leavesFrom (joinKey above name) ++ leavesOf above rest

end

def leaves (t : Tree) : List (String × List String) :=
  t.leavesFrom ""

def keys (t : Tree) : List String :=
  (t.leaves.map (·.1)).mergeSort fun a b => decide (a ≤ b)

/-- The names in a key: a key is divided at every point. -/
def pathOf (key : String) : List String :=
  (Delimited.split '.' key.toList).map .ofList

def category (key : String) : String :=
  .ofList (key.toList.takeWhile (· ≠ '.'))

end Tree

end Figment
