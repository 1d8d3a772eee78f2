import Figment.Reading
import Mathlib.Data.List.Infix
/-!
Where readers stop.

A reader stops in front of some rest of its text, whether it has a value by then or is in trouble. Each
way of putting readers together leaves this as it is. Trouble that no other form may be tried for names
the form that failed, and so its message never begins like the one about a character that is left over.
-/

namespace Figment

theorem suffix_cons_cons {α : Type} (a b : α) (s : List α) : s <:+ a :: b :: s :=
  ⟨[a, b], rfl⟩

namespace Reply

variable {α β : Type}

/-- What a reader has in front of it when it stops. -/
def rest : Reply α → List Char
  | done _ rest => rest
  | stuck t => t.rest

@[simp] theorem rest_done (a : α) (s : List Char) : (done a s).rest = s := rfl

@[simp] theorem rest_stuck (t : Trouble) : (stuck t : Reply α).rest = t.rest := rfl

@[simp] theorem rest_map (r : Reply α) (f : α → β) : (r.map f).rest = r.rest := by
  cases r with
  | done a s => rfl
  | stuck t => rfl

theorem mapTrouble_suffix {r : Reply α} {f : Trouble → Trouble} {s : List Char}
    (same : ∀ t, (f t).rest = t.rest) (h : r.rest <:+ s) : (r.mapTrouble f).rest <:+ s := by
  cases r with
  | done a middle => exact h
  | stuck t =>
    change (f t).rest <:+ s
    rw [same]
    exact h

theorem andThen_suffix {r : Reply α} {next : α → List Char → Reply β} {s : List Char}
    (first : r.rest <:+ s) (later : ∀ a middle, middle <:+ s → (next a middle).rest <:+ s) :
    (r.andThen next).rest <:+ s := by
  cases r with
  | done a middle => exact later a middle first
  | stuck t => exact first

theorem optional_suffix {r : Reply α} {s : List Char} (h : r.rest <:+ s) :
    (r.optional s).rest <:+ s := by
  cases r with
  | done a middle => exact h
  | stuck t =>
    rw [optional]
    split
    · exact h
    · exact List.suffix_rfl

end Reply

/-- The third character tells what is said about an unexpected one from everything else that is said. -/
theorem ne_unexpected {message : String} (c : Char) (third : message.toList[2]? ≠ some 'e') :
    message ≠ s!"unexpected character: '{c}'" := by
  rintro rfl
  change ("unexpected character: '" ++ toString c ++ "'").toList[2]? ≠ some 'e' at third
  simp at third

namespace Trouble

/-- The text has committed itself to a form, and the trouble says to which. -/
structure Committed (t : Trouble) : Prop where
  fatal : t.fatal = true
  labelled : t.label.isSome = true

theorem committed_within (t : Trouble) (name : String) : (t.commit.within name).Committed where
  fatal := rfl
  labelled := by
    change (t.label <|> some name).isSome = true
    cases t.label with
    | none => rfl
    | some l => rfl

theorem Committed.expecting {t : Trouble} (h : t.Committed) (wish : String) :
    (t.expecting wish).Committed :=
  ⟨h.fatal, h.labelled⟩

theorem Committed.message_eq {t : Trouble} (h : t.Committed) :
    ∃ more, t.message = "invalid " ++ more := by
  obtain ⟨form, label⟩ := Option.isSome_iff_exists.1 h.labelled
  obtain ⟨others, parts⟩ : ∃ others, t.parts = ("invalid " ++ form) :: others := by
    rw [Trouble.parts, label]
    exact ⟨_, rfl⟩
  rw [message, parts, if_neg (List.cons_ne_nil _ _), String.intercalate_cons_append]
  exact ⟨_, rfl⟩

/-- Nothing that is said about a character left over is said about a form. -/
theorem Committed.message_ne {t : Trouble} (h : t.Committed) (c : Char) :
    t.message ≠ s!"unexpected character: '{c}'" := by
  obtain ⟨more, message⟩ := h.message_eq
  apply ne_unexpected
  rw [message]
  simp

end Trouble

end Figment
