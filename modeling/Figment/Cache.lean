/-!
A cache of instances, one for each kind.

The instances stand in chunks of slots. A slot is filled once and never changed; when all slots of a
chunk are filled, another chunk follows it.
-/

namespace Figment

abbrev Chunk (κ α : Type) := List (Option (κ × α))

def chunkSize : Nat := 16

def Chunk.empty {κ α : Type} : Chunk κ α :=
  List.replicate chunkSize none

/-- The chunk with its first free slot filled, if it has one. -/
def Chunk.fill? {κ α : Type} (entry : κ × α) : Chunk κ α → Option (Chunk κ α)
  | [] => none
  | none :: slots => some (some entry :: slots)
  | some e :: slots => (Chunk.fill? entry slots).map (some e :: ·)

structure Cache (κ α : Type) where
  head : Chunk κ α
  tail : List (Chunk κ α)

namespace Cache

variable {κ α : Type}

def empty : Cache κ α := ⟨Chunk.empty, []⟩

def chunks (c : Cache κ α) : List (Chunk κ α) :=
  c.head :: c.tail

/-- The instances in the order in which they were made: those in the slots before the first free
one. -/
def entries (c : Cache κ α) : List (κ × α) :=
  (c.chunks.flatten.takeWhile Option.isSome).filterMap id

def size (c : Cache κ α) : Nat :=
  c.entries.length

def isEmpty (c : Cache κ α) : Bool :=
  c.size == 0

def find? [BEq κ] (c : Cache κ α) (kind : κ) : Option α :=
  (c.entries.find? (·.1 == kind)).map (·.2)

/-- The chunks with the first free slot of them all filled. -/
def appendTo (entry : κ × α) (chunk : Chunk κ α) : List (Chunk κ α) → Cache κ α
  | [] =>
    match Chunk.fill? entry chunk with
    | some filled => ⟨filled, []⟩
    | none => ⟨chunk, [(Chunk.fill? entry Chunk.empty).getD Chunk.empty]⟩
  | next :: rest =>
    match Chunk.fill? entry chunk with
    | some filled => ⟨filled, next :: rest⟩
    | none => ⟨chunk, (appendTo entry next rest).chunks⟩

def append (c : Cache κ α) (entry : κ × α) : Cache κ α :=
  appendTo entry c.head c.tail

/-- The instance of a kind, and the cache after that. If there is none, it is made by a maker that may
look at the world and change it. -/
def getOrCreateM {σ : Type} [BEq κ] (c : Cache κ α) (kind : κ) (make : StateM σ α) :
    StateM σ (α × Cache κ α) :=
  match c.find? kind with
  | some found => pure (found, c)
  | none => do
    let made ← make
    return (made, c.append (kind, made))

def getOrCreate [BEq κ] (c : Cache κ α) (kind : κ) (make : Unit → α) : α × Cache κ α :=
  (c.getOrCreateM kind (fun w => (make w, w)) ()).1

end Cache

end Figment
