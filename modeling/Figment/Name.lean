import Figment.Unicode.Lowering
/-!
The forms of names: what a method is called in the data, what a category is called there, and when
two names mean the same provider.
-/

namespace Figment.Name

def endsWord (c : Char) : Bool :=
  Unicode.isLowercase c || c.isDigit

def snakeFrom (previous : Option Char) : List Char → List Char
  | [] => []
  | c :: rest =>
    let here :=
      if Unicode.isUppercase c then
        (if previous.any endsWord then ['_'] else []) ++ Unicode.lowerChar c
      else [c]
    here ++ snakeFrom (some c) rest

/-- The name in snake case: every capital is lowercased, with an underscore in front of it if it
follows a small letter or a digit. -/
def snake (name : String) : String :=
  .ofList (snakeFrom none name.toList)

/-- What a category is called in the data: its name in snake case, without underscores. -/
def category (name : String) : String :=
  .ofList ((snakeFrom none name.toList).filter (· ≠ '_'))

/-- The form under which a name is registered: underscores are dropped, and each character is
lowercased on its own. -/
def normal (name : String) : String :=
  .ofList ((name.toList.filter (· ≠ '_')).flatMap Unicode.lowerChar)

end Figment.Name
