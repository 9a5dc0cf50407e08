import Chip8.Table

/-!
# The screen

64 by 32 pixels, each lit or dark.  A row is a word of 64 bits with column 0 as the most
significant bit, and both axes wrap.  A sprite is a column of bytes, eight pixels each.
Drawing one turns the pixels under its set bits over and reports whether any of them was
lit, and works on whole rows: the byte goes to the left end of a row and is rotated to its
column, so that what overhangs on the right comes back in on the left.
-/

namespace Chip8

/-- The pixels, row by row from the top. -/
structure Screen where
  /-- The rows, leftmost pixel in the most significant bit. -/
  rows : Table 32 (BitVec 64)
deriving DecidableEq

namespace Screen

def width : Nat := 64

def height : Nat := 32

def blank : Screen := ⟨.constant 32 0⟩

/-- The row a number stands for; rows below the last start over from the top. -/
def rowIndex (r : Nat) : Fin 32 := ⟨r % 32, Nat.mod_lt _ (by decide)⟩

def row (s : Screen) (r : Nat) : BitVec 64 := s.rows.get (rowIndex r)

/-- Whether a pixel is lit.  Both axes wrap. -/
def pixel (s : Screen) (r c : Nat) : Bool := (s.row r).getMsbD (c % 64)

/-- Turns over the pixels of a row that are set in `bits`. -/
def flipRow (s : Screen) (r : Nat) (bits : BitVec 64) : Screen :=
  ⟨s.rows.put (rowIndex r) (s.row r ^^^ bits)⟩

/-- One line of a sprite as the row whose eight pixels from column `c` on are its bits. -/
def spriteRow (c : Nat) (line : UInt8) : BitVec 64 :=
  (line.toBitVec.setWidth 64 <<< 56).rotateRight (c % 64)

/-- Draws the lines of a sprite from row `r` down, and adds to `hit` whether any lit pixel
was turned off. -/
def drawLines (c : Nat) : (r : Nat) → (sprite : List UInt8) → (hit : Bool) → Screen → Bool × Screen
  | _, [], hit, s => (hit, s)
  | r, line :: rest, hit, s =>
    let bits := spriteRow c line
    drawLines c (r + 1) rest (hit || s.row r &&& bits ≠ 0) (s.flipRow r bits)

/-- Draws a sprite with its top left corner at row `r` and column `c`, and says whether any
lit pixel was turned off. -/
def draw (s : Screen) (r c : Nat) (sprite : List UInt8) : Bool × Screen :=
  drawLines c r sprite false s

def litCount (s : Screen) : Nat :=
  (List.range (width * height)).countP fun n => s.pixel (n / width) (n % width)

/-! ## Reading off the pixels -/

theorem rowIndex_eq_iff {q r : Nat} : rowIndex q = rowIndex r ↔ q % 32 = r % 32 := Fin.ext_iff

theorem row_flipRow (s : Screen) (r q : Nat) (bits : BitVec 64) :
    (s.flipRow r bits).row q = if q % 32 = r % 32 then s.row q ^^^ bits else s.row q := by
  simp only [row, flipRow, Table.get_put, rowIndex_eq_iff]
  split
  · next h => rw [rowIndex_eq_iff.2 h]
  · rfl

/-- Flipping a row turns over exactly the pixels that are set in the mask. -/
theorem pixel_flipRow (s : Screen) (r q c : Nat) (bits : BitVec 64) :
    (s.flipRow r bits).pixel q c =
      if q % 32 = r % 32 then (s.pixel q c ^^ bits.getMsbD (c % 64)) else s.pixel q c := by
  unfold pixel
  rw [row_flipRow]
  split <;> simp

end Screen

end Chip8
