import Chip8.Random.ChaCha

/-!
# Random numbers

A generator is an endless stream of words, fixed by its key, and the number of words that
were taken from it.  Taking one yields the next word of the stream and counts it.  A key can
be made of a seed, which has only 64 bits.
-/

namespace Chip8

/-- A stream of random words and how far it was read. -/
structure Generator where
  key : ChaCha.Key
  drawn : Nat := 0
deriving DecidableEq, Inhabited

namespace Generator

/-- The successor of a seed on the way to a key. -/
def advance (s : UInt64) : UInt64 := s * 6364136223846793005 + 11634580027462260723

/-- The word of the key that a state gives: its bits are folded together, and the highest
of them say by how much the result is turned to the right. -/
def fold (s : UInt64) : UInt32 :=
  let x := (((s >>> 18) ^^^ s) >>> 27).toUInt32
  let k := (s >>> 59).toUInt32
  (x >>> k) ||| (x <<< (32 - k))

/-- The first `n` words that the successors of a seed give. -/
def keyWords : Nat → UInt64 → List UInt32
  | 0, _ => []
  | n + 1, s => fold (advance s) :: keyWords n (advance s)

def keyOfSeed (seed : UInt64) : ChaCha.Key := ChaCha.keyOfWords (keyWords 8 seed)

def next (g : Generator) : UInt32 × Generator :=
  (ChaCha.word g.key g.drawn, { g with drawn := g.drawn + 1 })

end Generator

end Chip8
