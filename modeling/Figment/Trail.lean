import Figment.Data.Tree
import Figment.Failure
/-!
The trail of an evaluation: which directives are being evaluated within each other, and in which
categories of the data.
-/

namespace Figment

structure Trail where
  /-- The labels of the directives being evaluated, the innermost first. -/
  running : List String := []
  /-- The categories of the keys being resolved, the innermost first. -/
  categories : List String := []
  /-- How many directives may be open. -/
  limit : Nat
deriving DecidableEq, Repr

namespace Trail

def defaultLimit : Nat := 64

def new (limit : Nat) : Trail := { limit }

def depth (t : Trail) : Nat :=
  t.running.length

def labels (t : Trail) : List String :=
  t.running.reverse

def refusal (t : Trail) (label : String) : Failure :=
  .tooDeep t.limit (t.labels ++ [label])

/-- Opens a directive, unless as many as the limit allows are open. -/
def push (t : Trail) (label : String) : Except Failure Trail :=
  if t.limit ≤ t.depth then .error (t.refusal label)
  else .ok { t with running := label :: t.running }

def pop (t : Trail) : Trail :=
  { t with running := t.running.tail }

/-- Enters the category of a key: its first name. -/
def enter (t : Trail) (key : String) : Trail :=
  { t with categories := Tree.category key :: t.categories }

def leave (t : Trail) : Trail :=
  { t with categories := t.categories.tail }

def category? (t : Trail) : Option String :=
  t.categories.head?

theorem push_of_lt {t : Trail} (label : String) (h : t.depth < t.limit) :
    t.push label = .ok { t with running := label :: t.running } :=
  if_neg (Nat.not_le.2 h)

theorem push_of_le {t : Trail} (label : String) (h : t.limit ≤ t.depth) :
    t.push label = .error (t.refusal label) :=
  if_pos h

theorem leave_enter (t : Trail) (key : String) : (t.enter key).leave = t := rfl

end Trail

end Figment
