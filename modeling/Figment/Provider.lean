import Figment.Failure
import Figment.Keyed
import Figment.Name
import Figment.Suggestion
/-!
Providers, and the names they are registered under.
-/

namespace Figment

inductive Provider where
  | football
  | numbers
  /-- The values of one category of the data; `name` is what the data calls it. -/
  | category (name : String)
deriving DecidableEq, Repr

def Provider.ofCategory (name : String) : Provider :=
  .category (Name.category name)

/-- The registered providers, in ascending order of the normal forms of their names. What is registered
may also be something of which providers are made when they are asked for. -/
structure Registry (α : Type := Provider) where
  providers : List (String × α)

namespace Registry

variable {α : Type}

def empty : Registry α := ⟨[]⟩

/-- Registers a provider, in place of one whose name has the same normal form. -/
def register (r : Registry α) (name : String) (p : α) : Registry α :=
  ⟨Keyed.put (Name.normal name) p r.providers⟩

def get? (r : Registry α) (name : String) : Option α :=
  Keyed.find? (Name.normal name) r.providers

def contains (r : Registry α) (name : String) : Bool :=
  (r.get? name).isSome

def names (r : Registry α) : List String :=
  Keyed.keys r.providers

def get (r : Registry α) (name : String) : Except Failure α :=
  match r.get? name with
  | some p => .ok p
  | none => .error (.unknownProvider name (suggest (Name.normal name) r.names))

/-- What is made of the thing under a name, in a world that its maker may look at and change. -/
def make {σ β : Type} (r : Registry α) (maker : α → StateM σ β) (name : String) :
    ExceptT Failure (StateM σ) β :=
  match r.get name with
  | .ok p => maker p
  | .error e => throw e

theorem get?_empty (name : String) : (empty : Registry α).get? name = none := rfl

theorem get?_register_of_eq (r : Registry α) {name other : String} (p : α)
    (h : Name.normal other = Name.normal name) : (r.register name p).get? other = some p := by
  unfold get? register
  rw [h]
  exact Keyed.find?_put_self (Name.normal name) p r.providers

theorem get?_register_of_ne (r : Registry α) {name other : String} (p : α)
    (h : Name.normal other ≠ Name.normal name) : (r.register name p).get? other = r.get? other :=
  Keyed.find?_put_of_ne p r.providers h

theorem ordered_register {r : Registry α} (h : Keyed.Ordered r.providers) (name : String) (p : α) :
    Keyed.Ordered (r.register name p).providers :=
  h.put (Name.normal name) p

end Registry

end Figment
