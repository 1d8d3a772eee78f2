import Figment.Pattern.Reader
import Figment.Random.Choice
/-!
Strings that a pattern describes.

An alternative is chosen, then for every piece the number of its copies, then each copy on its own.
Copies of a literal character need no further choice, and an anchor yields nothing.
-/

namespace Figment

def Draw.times (n : Nat) (d : Draw (List Char)) : Draw (List Char) :=
  List.flatten <$> (List.replicate n ()).mapM fun _ => d

mutual

def Atom.copies (n : Nat) : Atom → Draw (List Char)
  | .literal c => return List.replicate n c
  | .set k =>
    let members := k.candidates.toArray
    Draw.times n (Option.toList <$> Draw.member? members)
  | .any => Draw.times n (([·]) <$> Draw.printable)
  | .anchor => return []
  | .group p =>
    Draw.times n do
      if p.isEmpty then return []
      Pattern.generateNth p (← Draw.below p.length)

def Piece.generate : Piece → Draw (List Char)
  | .mk atom least most => do atom.copies (← Draw.repetition least most)

def Pattern.generateRun : List Piece → Draw (List Char)
  | [] => return []
  | p :: ps => do return (← p.generate) ++ (← Pattern.generateRun ps)

def Pattern.generateNth : List (List Piece) → Nat → Draw (List Char)
  | [], _ => return []
  | ps :: _, 0 => Pattern.generateRun ps
  | _ :: rest, n + 1 => Pattern.generateNth rest n

end

namespace Pattern

/-- A string that the pattern describes. A pattern without alternatives yields nothing. -/
def generate (p : Pattern) : Draw (List Char) := do
  if p.isEmpty then return []
  generateNth p (← Draw.below p.length)

def regexify (text : String) : ExceptT Failure Draw (List Char) :=
  match read text with
  | .error e => throw (.badPattern text e)
  | .ok p => (generate p : Draw (List Char))

end Pattern

end Figment
