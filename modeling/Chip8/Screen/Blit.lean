import Chip8.Screen

/-!
# Drawing pixel by pixel

The meaning of a sprite without rows and rotations.  A sprite is the list of the pixels
under its set bits, line by line and from left to right, and to blit is to turn them over
one at a time.  The blit collides if at some moment it turns a lit pixel off.
-/

namespace Chip8.Screen

def toggle (s : Screen) (r c : Nat) : Screen := s.flipRow r (BitVec.twoPow 64 (63 - c % 64))

/-- The columns under the set bits of a line at column `c`, from left to right. -/
def lineColumns (c : Nat) (line : UInt8) : List Nat :=
  ((List.range 8).filter fun j => line.toBitVec.getMsbD j).map (c + ·)

/-- The pixels under the set bits of a sprite with its corner at row `r` and column `c`. -/
def spritePixels (c : Nat) : (r : Nat) → (sprite : List UInt8) → List (Nat × Nat)
  | _, [] => []
  | r, line :: rest => (lineColumns c line).map (r, ·) ++ spritePixels c (r + 1) rest

/-- Turns pixels over one after the other, and adds to `hit` whether any of them was lit. -/
def togglePixels : (pixels : List (Nat × Nat)) → (hit : Bool) → Screen → Bool × Screen
  | [], hit, s => (hit, s)
  | (r, c) :: rest, hit, s => togglePixels rest (hit || s.pixel r c) (s.toggle r c)

/-- Draws a sprite pixel by pixel, and says whether any lit pixel was turned off. -/
def blit (s : Screen) (r c : Nat) (sprite : List UInt8) : Bool × Screen :=
  togglePixels (spritePixels c r sprite) false s

end Chip8.Screen
