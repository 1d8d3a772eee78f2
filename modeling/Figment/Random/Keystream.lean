/-!
The sequence of random words that belongs to a seed: the keystream of the ChaCha cipher with eight
rounds, under a key that is spread out from the seed.
-/

namespace Figment.Keystream

def spread (state : UInt64) : UInt32 × UInt64 :=
  let next := state * 6364136223846793005 + 11634580027462260723
  let x := (((next >>> 18) ^^^ next) >>> 27).toUInt32
  let turn := (next >>> 59).toUInt32
  ((x >>> turn) ||| (x <<< ((32 - turn) % 32)), next)

def keyFrom : Nat → UInt64 → List UInt32
  | 0, _ => []
  | n + 1, state =>
    let (word, next) := spread state
    word :: keyFrom n next

abbrev Words := Array UInt32

def rotateLeft (x n : UInt32) : UInt32 :=
  (x <<< n) ||| (x >>> (32 - n))

def quarterRound (w : Words) (a b c d : Nat) : Words :=
  let wa := w.getD a 0
  let wb := w.getD b 0
  let wc := w.getD c 0
  let wd := w.getD d 0
  let wa := wa + wb
  let wd := rotateLeft (wd ^^^ wa) 16
  let wc := wc + wd
  let wb := rotateLeft (wb ^^^ wc) 12
  let wa := wa + wb
  let wd := rotateLeft (wd ^^^ wa) 8
  let wc := wc + wd
  let wb := rotateLeft (wb ^^^ wc) 7
  (((w.setIfInBounds a wa).setIfInBounds b wb).setIfInBounds c wc).setIfInBounds d wd

/-- A round on the columns of the state and one on its diagonals. -/
def doubleRound (w : Words) : Words :=
  let w := quarterRound w 0 4 8 12
  let w := quarterRound w 1 5 9 13
  let w := quarterRound w 2 6 10 14
  let w := quarterRound w 3 7 11 15
  let w := quarterRound w 0 5 10 15
  let w := quarterRound w 1 6 11 12
  let w := quarterRound w 2 7 8 13
  quarterRound w 3 4 9 14

def constants : List UInt32 :=
  [0x61707865, 0x3320646e, 0x79622d32, 0x6b206574]

/-- The state that block `n` starts from: constants, key and counter. -/
def initial (key : List UInt32) (n : Nat) : Words :=
  let counter : List UInt32 := [.ofNat n, .ofNat (n / Nat.pow 2 32), 0, 0]
  (constants ++ key ++ counter).toArray

def block (key : List UInt32) (n : Nat) : Words :=
  let start := initial key n
  let mixed := doubleRound (doubleRound (doubleRound (doubleRound start)))
  mixed.zipWith (· + ·) start

def word (seed : UInt64) : Nat → UInt32 :=
  let key := keyFrom 8 seed
  fun n => (block key (n / 16)).getD (n % 16) 0

end Figment.Keystream
