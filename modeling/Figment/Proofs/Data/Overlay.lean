import Figment.Data.Tree
import Mathlib.Data.List.Induction
/-!
What is found in trees that are laid over each other.

A tree settles a path if it has something there, or a leaf on the way. The leaf at a path in trees
laid over each other is that of the uppermost tree that settles the path: a table there hides the
leaf of a lower tree, and a leaf on the way hides everything below it.
-/

namespace Figment.Tree

/-- Whether nothing that lies below the tree can be seen at a path. -/
def settles : List String → Tree → Bool
  | [], _ => true
  | name :: path, table entries => (Keyed.find? name entries).any (settles path)
  | _ :: _, _ => true

theorem leaf?_table_cons (entries : List (String × Tree)) (name : String) (path : List String) :
    (table entries).leaf? (name :: path) = (Keyed.find? name entries).bind (·.leaf? path) :=
  leaf?_cons (table entries) name path

theorem leaf?_eq_none_of_not_settles {t : Tree} {path : List String} (h : settles path t = false) :
    t.leaf? path = none := by
  induction path generalizing t with
  | nil => cases h
  | cons name path ih =>
    cases t with
    | text value => cases h
    | list values => cases h
    | table entries =>
      rw [settles] at h
      rw [leaf?_table_cons]
      cases found : Keyed.find? name entries with
      | none => rfl
      | some u =>
        rw [found] at h
        exact ih h

theorem leaf?_overlay (base upper : Tree) (path : List String) :
    (base.overlay upper).leaf? path =
      if settles path upper then upper.leaf? path else base.leaf? path := by
  induction path generalizing base upper with
  | nil =>
    rw [settles, if_pos rfl]
    cases upper with
    | text value => rw [overlay]
    | list values => rw [overlay]
    | table entries =>
      cases base with
      | text value => rfl
      | list values => rfl
      | table lower => rfl
  | cons name path ih =>
    cases upper with
    | text value => rw [overlay, settles, if_pos rfl]; nofun
    | list values => rw [overlay, settles, if_pos rfl]; nofun
    | table entries =>
      -- A leaf below has nothing behind any name, so that a table replaces all of it.
      have replaced (leaf : Tree) (h : leaf.leaf? (name :: path) = none) :
          (table entries).leaf? (name :: path) =
            if settles (name :: path) (table entries) then (table entries).leaf? (name :: path)
            else leaf.leaf? (name :: path) := by
        cases settled : settles (name :: path) (table entries) with
        | true => rfl
        | false => rw [leaf?_eq_none_of_not_settles settled, h]; rfl
      cases base with
      | text value => exact replaced (text value) rfl
      | list values => exact replaced (list values) rfl
      | table lower =>
        rw [overlay, settles, leaf?_table_cons, leaf?_table_cons, leaf?_table_cons,
          find?_overlayEntries]
        cases Keyed.find? name entries with
        | none => rfl
        | some u =>
          cases Keyed.find? name lower with
          | none =>
            cases settled : settles path u with
            | true => simp [settled]
            | false => simp [settled, leaf?_eq_none_of_not_settles settled]
          | some v => exact ih v u

/-- The trees laid over each other, the first one lowest. -/
def layered : List Tree → Option Tree
  | [] => none
  | t :: ts => some (ts.foldl overlay t)

theorem layered_concat (ts : List Tree) (t : Tree) :
    layered (ts ++ [t]) =
      some (match layered ts with
        | some base => base.overlay t
        | none => t) := by
  cases ts with
  | nil => rfl
  | cons first ts =>
    rw [List.cons_append, layered, layered, List.foldl_append]
    rfl

/-- The last of the trees that settles a path tells what is found there. -/
theorem leaf?_layered (ts : List Tree) (path : List String) :
    (layered ts).bind (·.leaf? path) = (ts.reverse.find? (settles path)).bind (·.leaf? path) := by
  induction ts using List.reverseRecOn with
  | nil => rfl
  | append_singleton ts t ih =>
    rw [layered_concat, List.reverse_concat, List.find?_cons]
    cases below : layered ts with
    | none =>
      rw [below] at ih
      cases settled : settles path t with
      | true => rfl
      | false => exact (leaf?_eq_none_of_not_settles settled).trans ih
    | some base =>
      rw [below] at ih
      change (base.overlay t).leaf? path = _
      rw [leaf?_overlay]
      cases settles path t with
      | true => rfl
      | false => exact ih

end Figment.Tree
