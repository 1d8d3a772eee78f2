import Figment.Data.Tree
import Figment.Locale
import Figment.Unicode.Lowering
/-!
The data of all locales: one tree for each.
-/

namespace Figment

/-- A tree for every locale that has data, in ascending order of the locales. -/
structure Store where
  trees : List (String × Tree)

namespace Store

def empty : Store := ⟨[]⟩

def tree? (s : Store) (locale : String) : Option Tree :=
  Keyed.find? locale s.trees

def merge (s : Store) (locale : String) (t : Tree) : Store :=
  let merged := match s.tree? locale with
    | some base => base.overlay t
    | none => t
  ⟨Keyed.put locale merged s.trees⟩

/-- The values at a key, in the first locale of the chain that has a leaf there. The case of the key
does not matter. -/
def lookup (s : Store) (chain : Chain) (key : String) : Option (List String) :=
  let path := Tree.pathOf (Unicode.lower key)
  chain.locales.findSome? fun locale => (s.tree? locale).bind (·.leaf? path)

def keys (s : Store) (locale : String) : List String :=
  ((s.tree? locale).map (·.keys)).getD []

def locales (s : Store) : List String :=
  Keyed.keys s.trees

theorem tree?_merge_self (s : Store) (locale : String) (t : Tree) :
    (s.merge locale t).tree? locale =
      some (match s.tree? locale with
        | some base => base.overlay t
        | none => t) :=
  Keyed.find?_put_self locale _ s.trees

theorem tree?_merge_of_ne (s : Store) {locale other : String} (t : Tree) (h : other ≠ locale) :
    (s.merge locale t).tree? other = s.tree? other :=
  Keyed.find?_put_of_ne _ s.trees h

end Store

end Figment
