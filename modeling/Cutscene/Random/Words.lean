set_option relaxedAutoImplicit false
set_option autoImplicit false

/-!
# Pseudo-random words

A seed of 64 bits is stretched to a key of eight words, and the key drives a stream cipher of
twelve rounds whose output words are the random words. Equal seeds give equal words.

## Main definitions

* `Cutscene.Random.expandSeed` — the key of a seed.
* `Cutscene.Random.block` — the sixteen words of one block of the cipher.
* `Cutscene.Random.Source` — a position in the stream of words.
* `Cutscene.Random.Source.next` — the next word.
-/

namespace Cutscene.Random

/-- A word turned to the left. -/
def rotateLeft (w : UInt32) (n : UInt32) : UInt32 := w <<< n ||| w >>> (32 - n)

/-- A word turned to the right; the amount counts modulo 32. -/
def rotateRight (w : UInt32) (n : UInt32) : UInt32 := w >>> n ||| w <<< (32 - n % 32)

/-! ## The key -/

/-- The next state of the generator that stretches the seed. -/
def stretch (s : UInt64) : UInt64 := s * 6364136223846793005 + 11634580027462260723

/-- The word that a state of the stretching generator gives. -/
def stretchedWord (s : UInt64) : UInt32 :=
  rotateRight (((s >>> 18) ^^^ s) >>> 27).toUInt32 (s >>> 59).toUInt32

/-- The words of `count` states after a state. -/
def stretchedWords : Nat → UInt64 → List UInt32
  | 0, _ => []
  | count + 1, s => stretchedWord (stretch s) :: stretchedWords count (stretch s)

/-- The eight words of the key. -/
def expandSeed (seed : UInt64) : List UInt32 := stretchedWords 8 seed

/-! ## The cipher -/

/-- One quarter round on four words. -/
def quarterRound (a b c d : UInt32) : UInt32 × UInt32 × UInt32 × UInt32 :=
  let a := a + b
  let d := rotateLeft (d ^^^ a) 16
  let c := c + d
  let b := rotateLeft (b ^^^ c) 12
  let a := a + b
  let d := rotateLeft (d ^^^ a) 8
  let c := c + d
  let b := rotateLeft (b ^^^ c) 7
  (a, b, c, d)

/-- A quarter round on the words at four places. -/
def mixAt (i j k l : Nat) (s : Array UInt32) : Array UInt32 :=
  let (a, b, c, d) := quarterRound (s.getD i 0) (s.getD j 0) (s.getD k 0) (s.getD l 0)
  (((s.setIfInBounds i a).setIfInBounds j b).setIfInBounds k c).setIfInBounds l d

/-- Two rounds: one down the columns and one along the diagonals. -/
def doubleRound (s : Array UInt32) : Array UInt32 :=
  let s := mixAt 3 7 11 15 (mixAt 2 6 10 14 (mixAt 1 5 9 13 (mixAt 0 4 8 12 s)))
  mixAt 3 4 9 14 (mixAt 2 7 8 13 (mixAt 1 6 11 12 (mixAt 0 5 10 15 s)))

/-- The words that every block starts from: `expand 32-byte k`. -/
def constants : List UInt32 := [0x61707865, 0x3320646e, 0x79622d32, 0x6b206574]

/-- A block of the stream: twelve rounds over the constants, the key, the block's number and a
nonce of zero, added to what they started from. -/
def block (key : List UInt32) (number : UInt64) : List UInt32 :=
  let start := (constants ++ key ++ [number.toUInt32, (number >>> 32).toUInt32, 0, 0]).toArray
  let mixed := Nat.repeat doubleRound 6 start
  List.zipWith (· + ·) mixed.toList start.toList

/-! ## The stream -/

/-- A position in the stream of a key. -/
structure Source where
  /-- The key. -/
  key : List UInt32
  /-- The number of the next block. -/
  number : UInt64
  /-- The words of the current block that are still to come. -/
  buffer : List UInt32
  deriving DecidableEq, Repr

/-- The stream of a seed, from its start. -/
def Source.ofSeed (seed : UInt64) : Source := ⟨expandSeed seed, 0, []⟩

/-- The next word of the stream. -/
def Source.next (s : Source) : UInt32 × Source :=
  match s.buffer with
  | w :: rest => (w, { s with buffer := rest })
  | [] =>
    match block s.key s.number with
    | w :: rest => (w, { s with number := s.number + 1, buffer := rest })
    | [] => (0, { s with number := s.number + 1 })

/-- A number below `bound`, from one word, or from two where the first is too close to the top of
its range to decide. -/
def Source.below (bound : UInt32) (s : Source) : Nat × Source :=
  let (w, s) := s.next
  let product := w.toNat * bound.toNat
  let high := product / UInt32.size
  let low := product % UInt32.size
  if UInt32.size - bound.toNat < low then
    let (w, s) := s.next
    let carry := w.toNat * bound.toNat / UInt32.size
    (if UInt32.size ≤ low + carry then high + 1 else high, s)
  else (high, s)

end Cutscene.Random
