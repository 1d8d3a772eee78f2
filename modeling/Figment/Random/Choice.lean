import Figment.Decimal.Binary64
import Figment.Failure
import Figment.Random.Source
/-!
Choices made with the words of a source.

A unit is a word, or several words in a row read as one number. A number below `n` is the whole part
of a unit times `n`, divided by the number of units there are. Only where the fraction that is left
could carry is a second unit drawn to refine it.
-/

namespace Figment.Draw

/-- A number below `n`, from units of `width` words; `n` is positive, and no more than there are
units. -/
def uniform (width n : Nat) : Draw Nat := do
  tally
  let units := Nat.pow 2 (32 * width)
  let product := (← words width) * n
  let value := product / units
  let fraction := product % units
  if units - n < fraction then
    let finer := (← words width) * n / units
    return if units ≤ fraction + finer then value + 1 else value
  else return value

/-- A number below `n`, from the narrowest units of which there are more than `n`. -/
def below (n : Nat) : Draw Nat :=
  uniform (n.log2 / 32 + 1) n

def repetition (least most : UInt32) : Draw Nat :=
  if most < least then return 0
  else (least.toNat + ·) <$> uniform 1 (most.toNat - least.toNat + 1)

def maxRefusals : Nat := Nat.pow 2 64

/-- The first value that is not refused. A word is refused if the fraction it leaves is below
`threshold`; after `fuel` refusals the last value is taken. -/
def unbiased (threshold n : Nat) : Nat → Draw Nat
  | 0 => return n - 1
  | fuel + 1 => do
    let product := (← word).toNat * n
    if threshold ≤ product % Nat.pow 2 32 then return product / Nat.pow 2 32
    else unbiased threshold n fuel

/-- A printable character. All of them are equally likely, which is why words are refused. -/
def printable : Draw Char := do
  tally
  let offset ← unbiased (Nat.pow 2 32 % 95) 95 maxRefusals
  return Char.ofNat (0x20 + offset)

/-- A member of a list that is not empty; an empty one takes no draw. -/
def member? {α : Type} (items : Array α) : Draw (Option α) :=
  if items.isEmpty then return none
  else do
    let i ← below items.size
    return items[i]?

def number (bound : Nat) : ExceptT Failure Draw Nat :=
  if bound = 0 then throw (.badArgument "random bound must be positive")
  else below bound

def between (least limit : Int) : ExceptT Failure Draw Int :=
  if limit ≤ least then throw (.badArgument s!"empty range {least}..{limit}")
  else do
    let n ← uniform 2 (limit - least).toNat
    return least + n

def pick (items : List String) : ExceptT Failure Draw String :=
  if items = [] then throw .nothingToPick
  else do
    let i ← number items.length
    match items[i]? with
    | some item => return item
    | none => throw (.badArgument "random index out of range")

/-- How many of the 2^64 pairs of words are below the fraction `m * 2^q`. -/
def share (m : Nat) (q : Int) : Nat :=
  m * Nat.pow 2 (q + 64).toNat / Nat.pow 2 (-(q + 64)).toNat

def atMostOne (m : Nat) (q : Int) : Bool :=
  m * Nat.pow 2 q.toNat ≤ Nat.pow 2 (-q).toNat

def isOne (m : Nat) (q : Int) : Bool :=
  m * Nat.pow 2 q.toNat == Nat.pow 2 (-q).toNat

/-- True with a probability. Certainty takes no draw. -/
def chance (p : Binary64) : ExceptT Failure Draw Bool :=
  match p with
  | .finite negative m q =>
    if (negative && m != 0) || !atMostOne m q then refuse
    else if isOne m q then return true
    else do
      let n ← (words 2 : Draw Nat)
      return decide (n < share m q)
  | _ => refuse
where
  refuse : ExceptT Failure Draw Bool :=
    throw (.badArgument s!"probability {p.plain} is outside [0, 1]")

end Figment.Draw
