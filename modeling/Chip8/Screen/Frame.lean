import Chip8.Screen

/-!
# Frames

A frame is a picture of the screen as it is handed to a display: 256 bytes, row by row,
eight pixels in a byte with the leftmost in the most significant bit.  Pixel `(r, c)` is
bit `64 r + c`.
-/

namespace Chip8

/-- A picture of the whole screen, one bit for each pixel. -/
structure Frame where
  /-- The bits, eight in a byte. -/
  bytes : Vector UInt8 256
deriving DecidableEq

namespace Frame

def byteCount : Nat := 256

/-- The frame that consists of these bytes, if there are as many as a frame has. -/
def ofBytes? (bytes : List UInt8) : Option Frame :=
  if h : bytes.toArray.size = 256 then some ⟨⟨bytes.toArray, h⟩⟩ else none

/-- The bytes in order. -/
def toList (f : Frame) : List UInt8 := f.bytes.toList

/-- Whether the pixel at a row and column is lit.  The axes do not wrap: the pixel is bit
`64 r + c`, and past the last bit nothing is lit. -/
def pixel (f : Frame) (r c : Nat) : Bool :=
  let n := r * Screen.width + c
  if h : n / 8 < 256 then f.bytes[n / 8].toBitVec.getMsbD (n % 8) else false

end Frame

def Screen.frame (s : Screen) : Frame :=
  ⟨Vector.ofFn fun n => UInt8.ofBitVec ((s.row (n / 8)).extractLsb' (56 - 8 * (n % 8)) 8)⟩

end Chip8
