import Figment.Random.Keystream
/-!
Sources of randomness.

A source is an infinite sequence of 32-bit words and the place reached in it. Every word is used, in
order. What is drawn from a source is a function of the words read, so the same place in the same
sequence always gives the same values.
-/

namespace Figment

structure Source where
  /-- The whole sequence. -/
  word : Nat → UInt32
  /-- The number of words read. -/
  used : Nat := 0
  /-- The number of choices made. -/
  choices : Nat := 0

namespace Source

def seeded (seed : UInt64) : Source :=
  { word := Keystream.word seed }

/-- Word `n` behind the end of a script. -/
def spareWord (n : Nat) : UInt32 :=
  .ofNat ((n + 1) * 2654435769)

def scripted (script : List UInt32) : Source :=
  let words := script.toArray
  { word := fun n => if h : n < words.size then words[n] else spareWord (n - words.size) }

def advance (s : Source) : Source :=
  { s with used := s.used + 1 }

end Source

abbrev Draw := StateM Source

namespace Draw

def word : Draw UInt32 := fun s =>
  (s.word s.used, s.advance)

/-- The next `n` words as one number, the first being its low end. -/
def words : Nat → Draw Nat
  | 0 => return 0
  | n + 1 => do
    let low ← word
    let high ← words n
    return low.toNat + Nat.pow 2 32 * high

theorem words_succ (n : Nat) (s : Source) :
    words (n + 1) s =
      ((s.word s.used).toNat + Nat.pow 2 32 * (words n s.advance).1, (words n s.advance).2) := rfl

theorem snd_words (n : Nat) (s : Source) : (words n s).2 = { s with used := s.used + n } := by
  induction n generalizing s with
  | zero => rfl
  | succ n ih =>
    rw [words_succ]
    show (words n s.advance).2 = _
    rw [ih]
    unfold Source.advance
    rw [Nat.add_right_comm, Nat.add_assoc]

def tally : Draw Unit :=
  modify fun s => { s with choices := s.choices + 1 }

end Draw

end Figment
