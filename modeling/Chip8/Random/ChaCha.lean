import Chip8.Table

/-!
# The ChaCha key stream

A key has 256 bits, which are eight words of 32, the lowest first, and a block is sixteen such
words.  The block of a key and a counter starts from four constant words, the words of the key,
the counter and a zero nonce; twelve rounds stir it, and the result is added to the start.  The
stream of a key is its blocks 0, 1, 2, … one after the other, and `word` reads any word of it
without the ones before.
-/

namespace Chip8.ChaCha

abbrev Block := Table 16 UInt32

abbrev Key := BitVec 256

def keyWord (key : Key) (k : Nat) : UInt32 := ⟨key.extractLsb' (32 * k) 32⟩

/-- The key of eight words. -/
def keyOfWords : List UInt32 → Key
  | [] => 0
  | w :: ws => keyOfWords ws <<< 32 ||| w.toBitVec.setWidth 256

def rotateLeft (w : UInt32) (k : UInt32) : UInt32 := (w <<< k) ||| (w >>> (32 - k))

def quarterRound (a b c d : Fin 16) (s : Block) : Block :=
  let a₁ := s.get a + s.get b
  let d₁ := rotateLeft (s.get d ^^^ a₁) 16
  let c₁ := s.get c + d₁
  let b₁ := rotateLeft (s.get b ^^^ c₁) 12
  let a₂ := a₁ + b₁
  let d₂ := rotateLeft (d₁ ^^^ a₂) 8
  let c₂ := c₁ + d₂
  let b₂ := rotateLeft (b₁ ^^^ c₂) 7
  (((s.put a a₂).put b b₂).put c c₂).put d d₂

/-- One round down the columns of the block and one along its diagonals. -/
def doubleRound (s : Block) : Block :=
  let s := quarterRound 0 4 8 12 s
  let s := quarterRound 1 5 9 13 s
  let s := quarterRound 2 6 10 14 s
  let s := quarterRound 3 7 11 15 s
  let s := quarterRound 0 5 10 15 s
  let s := quarterRound 1 6 11 12 s
  let s := quarterRound 2 7 8 13 s
  quarterRound 3 4 9 14 s

def start (key : Key) (counter : Nat) : Block :=
  #v[0x61707865, 0x3320646E, 0x79622D32, 0x6B206574,
    keyWord key 0, keyWord key 1, keyWord key 2, keyWord key 3,
    keyWord key 4, keyWord key 5, keyWord key 6, keyWord key 7,
    UInt32.ofNat counter, UInt32.ofNat (counter / UInt32.size), 0, 0]

def rounds : Nat → Block → Block
  | 0, s => s
  | k + 1, s => rounds k (doubleRound s)

/-- The block of a key and a counter after twelve rounds. -/
def block (key : Key) (counter : Nat) : Block :=
  let s := start key counter
  let stirred := rounds 6 s
  .ofFn fun k => stirred.get k + s.get k

/-- Word `j` of the stream of a key. -/
def word (key : Key) (j : Nat) : UInt32 :=
  (block key (j / 16)).get ⟨j % 16, Nat.mod_lt _ (by decide)⟩

end Chip8.ChaCha
