/-!
Reading a text from the front.

A reader takes what is left of a text. It answers with a value and the new rest, or with trouble:
where it stopped, and what it wanted to see there. Positions are counted in lines and characters
of the part already read, and `SyntaxError` is what a caller is told in the end.
-/

namespace Figment

/-- A place in a text, both coordinates counted from 1. -/
structure Position where
  line : Nat
  column : Nat
deriving DecidableEq, Repr

/-- The place reached after reading `before`: one line more than it has line feeds, one column more
than it has characters after the last of them. -/
def Position.after (before : List Char) : Position where
  line := before.count '\n' + 1
  column := (before.reverse.takeWhile (· ≠ '\n')).length + 1

/-- The place in `whole` at which its suffix `rest` starts. -/
def Position.of (whole rest : List Char) : Position :=
  .after (whole.take (whole.length - rest.length))

theorem Position.after_concat_lineFeed (before : List Char) :
    Position.after (before ++ ['\n']) = ⟨(Position.after before).line + 1, 1⟩ := by
  simp [Position.after]

theorem Position.after_concat (before : List Char) {c : Char} (h : c ≠ '\n') :
    Position.after (before ++ [c]) =
      ⟨(Position.after before).line, (Position.after before).column + 1⟩ := by
  simp [Position.after, h]

inductive SyntaxError where
  /-- The text is wrong at a place. -/
  | malformed (place : Position) (message : String)
  /-- The text is right as far as it goes and ends too soon. -/
  | cutShort (place : Position)
deriving DecidableEq, Repr

namespace SyntaxError

def place : SyntaxError → Position
  | malformed p _ => p
  | cutShort p => p

def text : SyntaxError → String
  | malformed p message => s!"syntax error at {p.line}:{p.column}: {message}"
  | cutShort p => s!"unexpected end of input at {p.line}:{p.column}"

end SyntaxError

/-- Where a reader stopped and what it wanted. `fatal` says that no other alternative may be tried:
the text has already committed itself to the form that failed. -/
structure Trouble where
  rest : List Char
  fatal : Bool := false
  /-- The innermost form that was being read. -/
  label : Option String := none
  /-- What would have been accepted, the innermost form's wishes first. -/
  expected : List String := []
  cause : Option String := none
deriving DecidableEq, Repr

namespace Trouble

/-- Trouble in the form called `name`; a form inside it that has a name keeps it. -/
def within (t : Trouble) (name : String) : Trouble :=
  { t with label := t.label <|> some name }

def expecting (t : Trouble) (wish : String) : Trouble :=
  { t with expected := t.expected ++ [wish] }

def commit (t : Trouble) : Trouble :=
  { t with fatal := true }

def parts (t : Trouble) : List String :=
  (t.label.map (s!"invalid {·}")).toList
    ++ (if t.expected = [] then [] else ["expected " ++ ", ".intercalate t.expected])
    ++ t.cause.toList

def message (t : Trouble) : String :=
  if t.parts = [] then "unexpected input" else ", ".intercalate t.parts

def toError (t : Trouble) (whole : List Char) : SyntaxError :=
  .malformed (.of whole t.rest) t.message

end Trouble

inductive Reply (α : Type) where
  | done (value : α) (rest : List Char)
  | stuck (trouble : Trouble)
deriving Repr

namespace Reply

variable {α β : Type}

def map (f : α → β) : Reply α → Reply β
  | done a rest => done (f a) rest
  | stuck t => stuck t

def mapTrouble (f : Trouble → Trouble) : Reply α → Reply α
  | done a rest => done a rest
  | stuck t => stuck (f t)

def andThen (r : Reply α) (next : α → List Char → Reply β) : Reply β :=
  match r with
  | done a rest => next a rest
  | stuck t => stuck t

/-- An optional form: trouble that is not fatal means that the form is absent, and nothing of
`before` has been read. -/
def optional (r : Reply α) (before : List Char) : Reply (Option α) :=
  match r with
  | done a rest => done (some a) rest
  | stuck t => if t.fatal then stuck t else done none before

theorem map_eq_done {r : Reply α} {f : α → β} {b : β} {rest : List Char} :
    r.map f = done b rest ↔ ∃ a, r = done a rest ∧ f a = b := by
  cases r with
  | done a middle =>
    constructor
    · intro h
      cases h
      exact ⟨a, rfl, rfl⟩
    · rintro ⟨_, h, rfl⟩
      cases h
      rfl
  | stuck t => exact ⟨nofun, nofun⟩

theorem mapTrouble_eq_done {r : Reply α} {f : Trouble → Trouble} {a : α} {rest : List Char} :
    r.mapTrouble f = done a rest ↔ r = done a rest := by
  cases r with
  | done b middle => exact Iff.rfl
  | stuck t => exact ⟨nofun, nofun⟩

theorem andThen_eq_done {r : Reply α} {next : α → List Char → Reply β} {b : β}
    {rest : List Char} :
    r.andThen next = done b rest ↔ ∃ a middle, r = done a middle ∧ next a middle = done b rest := by
  cases r with
  | done a middle =>
    constructor
    · intro h
      exact ⟨a, middle, rfl, h⟩
    · rintro ⟨_, _, h, then_b⟩
      cases h
      exact then_b
  | stuck t => exact ⟨nofun, nofun⟩

theorem eq_of_optional_eq_done {r : Reply α} {o : Option α} {before rest : List Char}
    (h : r.optional before = done o rest) :
    (∃ a, o = some a ∧ r = done a rest) ∨
      (∃ t, r = stuck t ∧ t.fatal = false) ∧ o = none ∧ rest = before := by
  cases r with
  | done a middle =>
    cases h
    exact .inl ⟨a, rfl, rfl⟩
  | stuck t =>
    simp only [optional] at h
    split at h
    · cases h
    · next passing =>
      cases h
      exact .inr ⟨⟨t, rfl, Bool.not_eq_true _ ▸ passing⟩, rfl, rfl⟩

theorem map_eq_stuck {r : Reply α} {f : α → β} {t : Trouble} :
    r.map f = stuck t ↔ r = stuck t := by
  cases r with
  | done a rest => exact ⟨nofun, nofun⟩
  | stuck u =>
    constructor
    · rintro ⟨⟩
      rfl
    · rintro ⟨⟩
      rfl

theorem mapTrouble_eq_stuck {r : Reply α} {f : Trouble → Trouble} {t : Trouble} :
    r.mapTrouble f = stuck t ↔ ∃ u, r = stuck u ∧ f u = t := by
  cases r with
  | done a rest => exact ⟨nofun, nofun⟩
  | stuck u =>
    constructor
    · intro h
      cases h
      exact ⟨u, rfl, rfl⟩
    · rintro ⟨_, h, rfl⟩
      cases h
      rfl

theorem andThen_eq_stuck {r : Reply α} {next : α → List Char → Reply β} {t : Trouble} :
    r.andThen next = stuck t ↔
      r = stuck t ∨ ∃ a middle, r = done a middle ∧ next a middle = stuck t := by
  cases r with
  | done a middle =>
    constructor
    · intro h
      exact .inr ⟨a, middle, rfl, h⟩
    · rintro (h | ⟨_, _, h, then_t⟩)
      · cases h
      · cases h
        exact then_t
  | stuck u =>
    constructor
    · rintro ⟨⟩
      exact .inl rfl
    · rintro (h | ⟨_, _, h, _⟩)
      · cases h
        rfl
      · cases h

theorem optional_eq_stuck {r : Reply α} {before : List Char} {t : Trouble} :
    r.optional before = stuck t ↔ r = stuck t ∧ t.fatal = true := by
  cases r with
  | done a rest => exact ⟨nofun, nofun⟩
  | stuck u =>
    rw [optional]
    split
    · next fatal =>
      constructor
      · rintro ⟨⟩
        exact ⟨rfl, fatal⟩
      · rintro ⟨⟨⟩, _⟩
        rfl
    · next passing =>
      constructor
      · nofun
      · rintro ⟨⟨⟩, fatal⟩
        exact absurd fatal passing

end Reply

end Figment
