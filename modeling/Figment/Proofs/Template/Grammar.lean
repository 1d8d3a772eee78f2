import Figment.Template.Basic
import Figment.Unicode.Blank
import Figment.Unicode.Letter
import Mathlib.Data.List.Chain
/-!
The grammar of templates, as relations between texts and what they stand for.

    directive = '#' '{' ws path (ws args)? ws '}'      path = name ('.' name)*
    arg       = quoted | directive                     args = arg (ws ',' ws arg)*

A relation speaks of the whole text of a form, marks and quotes included. Outside of directives a
text is a sequence of single characters and directives, and the template joins the characters.
-/

namespace Figment

/-- The characters and directives that a segment is made of. -/
def Segment.items : Segment → List (Char ⊕ Directive)
  | .literal text => text.toList.map .inl
  | .directive d => [.inr d]

namespace Template

def Blanks (s : List Char) : Prop :=
  ∀ c ∈ s, Unicode.isBlank c = true

def NameText (s : List Char) : Prop :=
  s ≠ [] ∧ ∀ c ∈ s, Unicode.isAlphanumeric c = true ∨ c = '_'

/-- The names behind the first one of a path. -/
inductive MethodText : List Char → List (List Char) → Prop
  | nil : MethodText [] []
  | cons {name s names} : NameText name → MethodText s names →
      MethodText ('.' :: name ++ s) (name :: names)

/-- What follows an opening quote, up to and with the closing one. -/
inductive QuotedText : List Char → List Char → Prop
  | close : QuotedText ['\''] []
  | quote {s text} : QuotedText s text → QuotedText ('\\' :: '\'' :: s) ('\'' :: text)
  | plain {c s text} : c ≠ '\'' → ¬ (c = '\\' ∧ s.head? = some '\'') → QuotedText s text →
      QuotedText (c :: s) (c :: text)

mutual

inductive DirectiveText : List Char → Directive → Prop
  | builtin {w name a v args} : Blanks w → NameText name → ArgumentsText a args → Blanks v →
      DirectiveText ('#' :: '\x7b' :: w ++ name ++ a ++ v ++ ['\x7d'])
        (.builtin (.ofList name) args)
  | provider {w name m a v methods args} : Blanks w → NameText name → MethodText m methods →
      methods ≠ [] → ArgumentsText a args → Blanks v →
      DirectiveText ('#' :: '\x7b' :: w ++ name ++ m ++ a ++ v ++ ['\x7d'])
        (.provider (.ofList name) (".".intercalate (methods.map .ofList)) args)

inductive ArgumentsText : List Char → List Argument → Prop
  | none : ArgumentsText [] []
  | some {w s u arg args} : Blanks w → ArgumentText s arg → MoreText u args →
      ArgumentsText (w ++ s ++ u) (arg :: args)

inductive MoreText : List Char → List Argument → Prop
  | nil : MoreText [] []
  | cons {w v s u arg args} : Blanks w → Blanks v → ArgumentText s arg → MoreText u args →
      MoreText (w ++ ',' :: v ++ s ++ u) (arg :: args)

inductive ArgumentText : List Char → Argument → Prop
  | quoted {s text} : QuotedText s text → ArgumentText ('\'' :: s) (.literal (.ofList text))
  | nested {s d} : DirectiveText s d → ArgumentText s (.nested d)

end

/-- A number sign in front of an opening brace is never a literal character. -/
inductive ItemsText : List Char → List (Char ⊕ Directive) → Prop
  | nil : ItemsText [] []
  | literal {c s items} : ¬ (c = '#' ∧ s.head? = some '\x7b') → ItemsText s items →
      ItemsText (c :: s) (.inl c :: items)
  | directive {s u d items} : DirectiveText s d → ItemsText u items →
      ItemsText (s ++ u) (.inr d :: items)

def items (t : Template) : List (Char ⊕ Directive) :=
  t.flatMap Segment.items

/-- Characters next to each other stand in one segment. -/
structure Merged (t : Template) : Prop where
  nonempty : ∀ text, Segment.literal text ∈ t → text ≠ ""
  apart : t.IsChain fun a b => ¬ (a.isLiteral ∧ b.isLiteral)

structure TemplateText (s : List Char) (t : Template) : Prop where
  items : ItemsText s t.items
  merged : t.Merged

end Template

end Figment
