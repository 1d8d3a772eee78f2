import Figment.Delimited
import Figment.Failure
import Figment.Unicode.Blank
/-!
Locales and the chains of locales in which data is looked up.

    locale = language ('-' script)? ('-' region)? ('-' variant)*

The chain of a locale drops its variants, then its region, then its script, and ends with the root
locale.
-/

namespace Figment

/-- A locale identifier in its normal form: the language in lower case, the script with a capital,
the region in upper case, and the variants in lower case, ascending and all different. -/
structure Locale where
  language : List Char
  script : Option (List Char) := none
  region : Option (List Char) := none
  variants : List (List Char) := []
deriving DecidableEq, Repr

namespace Locale

def language? (s : List Char) : Option (List Char) :=
  if (s.length = 2 ∨ s.length = 3) ∧ s.all (·.isAlpha) then some (s.map (·.toLower)) else none

def script? (s : List Char) : Option (List Char) :=
  if s.length = 4 ∧ s.all (·.isAlpha) then
    some ((s.take 1).map (·.toUpper) ++ (s.drop 1).map (·.toLower))
  else none

def region? (s : List Char) : Option (List Char) :=
  if (s.length = 2 ∧ s.all (·.isAlpha)) ∨ (s.length = 3 ∧ s.all (·.isDigit)) then
    some (s.map (·.toUpper))
  else none

def variant? (s : List Char) : Option (List Char) :=
  if s.all (·.isAlphanum) ∧
      ((5 ≤ s.length ∧ s.length ≤ 8) ∨ (s.length = 4 ∧ (s.head?.any (·.isDigit)))) then
    some (s.map (·.toLower))
  else none

def addVariant? (v : List Char) : List (List Char) → Option (List (List Char))
  | [] => some [v]
  | w :: rest =>
    if v = w then none
    else if v < w then some (v :: w :: rest)
    else (addVariant? v rest).map (w :: ·)

def withVariants (id : Locale) : List (List Char) → Option Locale
  | [] => some id
  | s :: rest => do
    let v ← variant? s
    let variants ← addVariant? v id.variants
    withVariants { id with variants } rest

def withRegion (id : Locale) : List (List Char) → Option Locale
  | [] => some id
  | s :: rest =>
    match region? s with
    | some r => withVariants { id with region := some r } rest
    | none => withVariants id (s :: rest)

def withScript (id : Locale) : List (List Char) → Option Locale
  | [] => some id
  | s :: rest =>
    match script? s with
    | some t => withRegion { id with script := some t } rest
    | none => withRegion id (s :: rest)

/-- Reads an identifier. White space around it is ignored, an underscore counts as a hyphen, and case
does not matter. -/
def read (text : String) : Except LoadFailure Locale :=
  let s := (Unicode.trim text.toList).map fun c => if c = '_' then '-' else c
  let subtags := Delimited.split '-' s
  match language? (subtags.headD []) with
  | none => .error (.badLocale text "The given language subtag is invalid")
  | some language =>
    match withScript { language } subtags.tail with
    | none => .error (.badLocale text "Invalid subtag")
    | some id => .ok id

def parts (id : Locale) : List (List Char) :=
  id.language :: (id.script.toList ++ (id.region.toList ++ id.variants))

def text (id : Locale) : String :=
  .ofList (['-'].intercalate id.parts)

/-- The identifier and what is left of it when its variants, its region and its script are dropped
one after the other; what is not there is not dropped. -/
def fallbacks (id : Locale) : List Locale :=
  let bare := { id with variants := [] }
  let national := { bare with region := none }
  let spoken := { national with script := none }
  id :: ((if id.variants = [] then [] else [bare])
    ++ ((if id.region = none then [] else [national])
      ++ (if id.script = none then [] else [spoken])))

end Locale

/-- The locales in which data is looked up, the most specific one first. -/
structure Chain where
  locales : List String
deriving DecidableEq, Repr

namespace Chain

def rootLocale : String := "en"

def root : Chain := ⟨[rootLocale]⟩

def ofLocale (id : Locale) : Chain :=
  ⟨(id.fallbacks.map (·.text) ++ [rootLocale]).eraseDups⟩

def ofText (text : String) : Except LoadFailure Chain :=
  (Locale.read text).map ofLocale

def primary (c : Chain) : String :=
  c.locales.headD rootLocale

theorem primary_ofLocale (id : Locale) : (ofLocale id).primary = id.text := by
  unfold ofLocale primary Locale.fallbacks
  simp [List.eraseDups_cons]

def text (c : Chain) : String :=
  " -> ".intercalate c.locales

end Chain

end Figment
