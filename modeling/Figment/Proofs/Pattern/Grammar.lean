import Figment.Proofs.Pattern.Generation
import Mathlib.Data.Nat.Digits.Defs
/-!
The grammar of patterns, as relations between texts and what they stand for.

    pattern    = run ('|' run)*            run   = piece*
    piece      = atom quantifier?          atom  = '(' '?:'? pattern ')' | class | escape | ...
    quantifier = ('?' | '*' | '+' | '{m}' | '{m,n}' | '{m,}') '?'?
    class      = '[' '^'? item+ ']'

A relation speaks of the whole text of a form and of nothing behind it. Only in a class does the
reading of a character depend on what follows: a hyphen behind it makes a range of it, unless the
hyphen is the last character of the class; and a caret in front of a class always negates it.
-/

namespace Figment

/-- The letter that a shorthand is written with. -/
def Shorthand.letter : Shorthand → Char
  | digit => 'd'
  | notDigit => 'D'
  | word => 'w'
  | notWord => 'W'
  | space => 's'
  | notSpace => 'S'

namespace Pattern

/-- The digits of a number below 2^32. -/
def NumberText (s : List Char) (n : UInt32) : Prop :=
  s ≠ [] ∧ (∀ c ∈ s, '0' ≤ c ∧ c ≤ '9') ∧
    Nat.ofDigits 10 (s.reverse.map fun c => c.toNat - '0'.toNat) = n.toNat

inductive BoundsText : List Char → UInt32 → UInt32 → Prop
  | optional : BoundsText ['?'] 0 1
  | star : BoundsText ['*'] 0 8
  | plus : BoundsText ['+'] 1 9
  | exactly {s m} : NumberText s m → m ≤ 1000 → BoundsText ('\x7b' :: s ++ ['\x7d']) m m
  | between {s t m n} : NumberText s m → NumberText t n → m ≤ n → n ≤ 1000 →
      BoundsText ('\x7b' :: s ++ ',' :: t ++ ['\x7d']) m n
  | atLeast {s m n} : NumberText s m → n.toNat = m.toNat + 8 → n ≤ 1000 →
      BoundsText ('\x7b' :: s ++ [',', '\x7d']) m n

/-- A question mark behind the bounds means nothing. -/
inductive QuantifierText : List Char → UInt32 → UInt32 → Prop
  | greedy {s m n} : BoundsText s m n → QuantifierText s m n
  | lazy {s m n} : BoundsText s m n → QuantifierText (s ++ ['?']) m n

/-- What a backslash makes of a character that has no other meaning. -/
inductive Escaped : Char → Char → Prop
  | lineFeed : Escaped 'n' '\n'
  | tab : Escaped 't' '\t'
  | carriageReturn : Escaped 'r' '\r'
  | itself {c} : c ∉ ['n', 't', 'r'] → Escaped c c

inductive ClassCharText : List Char → Char → Prop
  | plain {c} : c ≠ ']' → c ≠ '\\' → ClassCharText [c] c
  | escaped {c d} : Escaped c d → ClassCharText ['\\', c] d

/-- The text of a shorthand is never read as a character. -/
def NoShorthand (s : List Char) : Prop :=
  ∀ k : Shorthand, s ≠ ['\\', k.letter]

/-- The items of a class, up to its closing bracket. -/
inductive ItemsText : List Char → List ClassItem → Prop
  | nil : ItemsText [] []
  | shorthand {k : Shorthand} {s items} : ItemsText s items →
      ItemsText ('\\' :: k.letter :: s) (.shorthand k :: items)
  | range {s t u first last items} : ClassCharText s first → NoShorthand s →
      ClassCharText t last → first ≤ last → ItemsText u items →
      ItemsText (s ++ '-' :: t ++ u) (.range first last :: items)
  | single {s u c items} : ClassCharText s c → NoShorthand s →
      (u.head? = some '-' → u = ['-']) → ItemsText u items →
      ItemsText (s ++ u) (.range c c :: items)

/-- A class has an item, and denotes a character. -/
inductive ClassText : List Char → CharClass → Prop
  | positive {s items} : s.head? ≠ some '^' → ItemsText s items → items ≠ [] →
      (∃ c, CharClass.Denotes ⟨false, items⟩ c) →
      ClassText ('[' :: s ++ [']']) ⟨false, items⟩
  | negated {s items} : ItemsText s items → items ≠ [] →
      (∃ c, CharClass.Denotes ⟨true, items⟩ c) →
      ClassText ('[' :: '^' :: s ++ [']']) ⟨true, items⟩

/-- What a backslash makes of a character outside a class. -/
inductive EscapeText : Char → Atom → Prop
  | shorthand (k : Shorthand) : EscapeText k.letter (.set ⟨false, [.shorthand k]⟩)
  | boundary {c} : c = 'b' ∨ c = 'B' → EscapeText c .anchor
  | character {c d} : ¬ ('1' ≤ c ∧ c ≤ '9') → c ≠ 'k' → c ≠ 'b' → c ≠ 'B' →
      (∀ k : Shorthand, c ≠ k.letter) → Escaped c d → EscapeText c (.literal d)

mutual

inductive AtomText : List Char → Atom → Prop
  | group {s p} : PatternText s p → AtomText ('(' :: s ++ [')']) (.group p)
  | unnumbered {s p} : PatternText s p → AtomText ('(' :: '?' :: ':' :: s ++ [')']) (.group p)
  | set {s k} : ClassText s k → AtomText s (.set k)
  | start : AtomText ['^'] .anchor
  | finish : AtomText ['$'] .anchor
  | any : AtomText ['.'] .any
  | escape {c a} : EscapeText c a → AtomText ['\\', c] a
  | literal {c} : c ∉ ['\\', '|', '(', ')', '[', '\x7b', '*', '+', '?', '^', '$', '.'] →
      AtomText [c] (.literal c)

inductive PieceText : List Char → Piece → Prop
  | once {s a} : AtomText s a → PieceText s (.mk a 1 1)
  | repeated {s t a m n} : AtomText s a → QuantifierText t m n → PieceText (s ++ t) (.mk a m n)

inductive RunText : List Char → List Piece → Prop
  | nil : RunText [] []
  | cons {s t p ps} : PieceText s p → RunText t ps → RunText (s ++ t) (p :: ps)

inductive PatternText : List Char → Pattern → Prop
  | one {s ps} : RunText s ps → PatternText s [ps]
  | more {s t ps p} : RunText s ps → PatternText t p → PatternText (s ++ '|' :: t) (ps :: p)

end

theorem BoundsText.le {s : List Char} {m n : UInt32} (h : BoundsText s m n) : m ≤ n := by
  cases h with
  | optional => decide
  | star => decide
  | plus => decide
  | exactly _ _ => exact UInt32.le_refl m
  | between _ _ le _ => exact le
  | atLeast _ eq _ =>
    rw [UInt32.le_iff_toNat_le, eq]
    exact Nat.le_add_right _ _

theorem QuantifierText.le {s : List Char} {m n : UInt32} (h : QuantifierText s m n) : m ≤ n := by
  cases h with
  | greedy h => exact h.le
  | lazy h => exact h.le

theorem ClassText.denotes {s : List Char} {k : CharClass} (h : ClassText s k) :
    ∃ c, k.Denotes c := by
  cases h with
  | positive _ _ _ some => exact some
  | negated _ _ some => exact some

/-- Every shorthand has a printable member. -/
theorem denotes_shorthand (k : Shorthand) :
    ∃ c, CharClass.Denotes ⟨false, [.shorthand k]⟩ c := by
  have member {c : Char} (h : k.contains c = true) (printable : ' ' ≤ c ∧ c ≤ '~') :
      ∃ c, CharClass.Denotes ⟨false, [.shorthand k]⟩ c :=
    ⟨c, .shorthand k, List.mem_singleton_self _, h, .inl printable⟩
  cases k with
  | digit => exact member (c := '0') (by decide) (by decide)
  | notDigit => exact member (c := 'a') (by decide) (by decide)
  | word => exact member (c := 'a') (by decide) (by decide)
  | notWord => exact member (c := ' ') (by decide) (by decide)
  | space => exact member (c := ' ') (by decide) (by decide)
  | notSpace => exact member (c := 'a') (by decide) (by decide)

theorem EscapeText.wellFormed {c : Char} {a : Atom} (h : EscapeText c a) : a.WellFormed := by
  cases h with
  | shorthand k => exact denotes_shorthand k
  | boundary _ => trivial
  | character _ _ _ _ _ _ => trivial

theorem PatternText.ne_nil {s : List Char} {p : Pattern} (h : PatternText s p) : p ≠ [] := by
  cases h with
  | one _ => exact List.cons_ne_nil _ _
  | more _ _ => exact List.cons_ne_nil _ _

mutual

theorem AtomText.wellFormed {s a} : AtomText s a → a.WellFormed
  | .group h => ⟨h.ne_nil, h.runsWellFormed⟩
  | .unnumbered h => ⟨h.ne_nil, h.runsWellFormed⟩
  | .set h => h.denotes
  | .start => trivial
  | .finish => trivial
  | .any => trivial
  | .escape h => h.wellFormed
  | .literal _ => trivial

theorem PieceText.wellFormed {s p} : PieceText s p → p.WellFormed
  | .once h => ⟨UInt32.le_refl 1, h.wellFormed⟩
  | .repeated h q => ⟨q.le, h.wellFormed⟩

theorem RunText.wellFormed {s ps} : RunText s ps → RunWellFormed ps
  | .nil => trivial
  | .cons h t => ⟨h.wellFormed, t.wellFormed⟩

theorem PatternText.runsWellFormed {s p} : PatternText s p → RunsWellFormed p
  | .one h => ⟨h.wellFormed, trivial⟩
  | .more h t => ⟨h.wellFormed, t.runsWellFormed⟩

end

theorem PatternText.wellFormed {s : List Char} {p : Pattern} (h : PatternText s p) :
    p.WellFormed :=
  ⟨h.ne_nil, h.runsWellFormed⟩

end Pattern

end Figment
