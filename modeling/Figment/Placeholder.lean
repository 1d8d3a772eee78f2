import Figment.Pattern.CharClass
import Figment.Random.Choice
import Figment.Unicode.Case
/-!
Texts with placeholders, each of which is replaced by something random.

A number sign stands for a digit and a question mark for a letter; an example stands for texts of
the same shape; and a template can name placeholders of its own, with the texts to choose from.
Every other character is kept.
-/

namespace Figment.Placeholder

def digit : Draw Char := do
  return Char.ofNat ('0'.toNat + (← Draw.uniform 1 10))

def lowercase : Draw Char := do
  return Char.ofNat ('a'.toNat + (← Draw.uniform 1 26))

def uppercase : Draw Char := do
  return Char.ofNat ('A'.toNat + (← Draw.uniform 1 26))

def coin : Draw Bool := do
  Draw.tally
  return decide ((← Draw.words 2) < Nat.pow 2 63)

def letter (upper : Option Bool) : Draw Char := do
  let upper ← match upper with
    | some b => pure b
    | none => coin
  if upper then uppercase else lowercase

def numerify (template : List Char) : Draw (List Char) :=
  template.mapM fun c => if c = '#' then digit else pure c

def letterify (upper : Option Bool) (template : List Char) : Draw (List Char) :=
  template.mapM fun c => if c = '?' then letter upper else pure c

def bothify (upper : Option Bool) (template : List Char) : Draw (List Char) :=
  template.mapM fun c =>
    if c = '#' then digit else if c = '?' then letter upper else pure c

/-- Replaces every letter by one of its case, and every digit by a digit. -/
def examplify (sample : List Char) : Draw (List Char) :=
  sample.mapM fun c =>
    if Unicode.isUppercase c then uppercase
    else if Unicode.isLowercase c then lowercase
    else if c.isDigit then digit
    else pure c

/-- One of the options; none of them leaves nothing. -/
def option (options : Array String) : Draw String := do
  return (← Draw.member? options).getD ""

/-- Replaces every `placeholder` by one of the options, of which there has to be one even if the
template does not need it. -/
def templatify (placeholder : Char) (options : List String) (template : List Char) :
    ExceptT Failure Draw (List Char) :=
  if options = [] then throw (.noOptions placeholder)
  else
    let options := options.toArray
    (List.flatten <$> template.mapM fun c =>
      if c = placeholder then String.toList <$> option options else pure [c] : Draw (List Char))

/-- Replaces every character that has options by one of them. A character with an empty list of
options is refused when it is reached. -/
def templatifyEach (options : Char → Option (List String)) (template : List Char) :
    ExceptT Failure Draw (List Char) :=
  List.flatten <$> template.mapM fun c =>
    match options c with
    | none => pure [c]
    | some [] => throw (.noOptions c)
    | some (o :: os) => (String.toList <$> option (o :: os).toArray : Draw (List Char))

end Figment.Placeholder
