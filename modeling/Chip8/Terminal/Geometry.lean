import Chip8.Screen.Frame

/-!
# Frames as points of the plane

A frame of any width and height is a set of points: pixel `(r, c)` is the point with
abscissa `c` and ordinate `-r`, since ordinates grow upwards and rows are counted downwards.
Coordinates are whole numbers that carry their sign apart, so that the ordinate of row 0 is
the negative zero.
-/

namespace Chip8

/-- A whole number with a sign of its own, zero included. -/
structure Coordinate where
  negative : Bool
  magnitude : Nat
deriving DecidableEq, Inhabited

namespace Coordinate

/-- A coordinate to the right of zero or above it. -/
def positive (n : Nat) : Coordinate := ⟨false, n⟩

/-- The opposite of a number; that of zero is the negative zero. -/
def opposite (n : Nat) : Coordinate := ⟨true, n⟩

def value (c : Coordinate) : Int := if c.negative then -c.magnitude else c.magnitude

/-- A coordinate in decimal, with one decimal place. -/
def text (c : Coordinate) : String :=
  (if c.negative then "-" else "") ++ toString c.magnitude ++ ".0"

end Coordinate

/-- A point of the plane. -/
structure Point where
  x : Coordinate
  y : Coordinate
deriving DecidableEq, Inhabited

/-- The width and height of a frame in pixels. -/
structure Geometry where
  width : Nat
  height : Nat
deriving DecidableEq, Inhabited

namespace Geometry

def screen : Geometry := ⟨Screen.width, Screen.height⟩

/-- The least and the greatest abscissa. -/
def xBounds (g : Geometry) : Coordinate × Coordinate :=
  (.positive 0, .positive (g.width - 1))

/-- The least and the greatest ordinate. -/
def yBounds (g : Geometry) : Coordinate × Coordinate :=
  (.opposite (g.height - 1), .positive 0)

/-- Whether a packed frame has a bit for every pixel. -/
def Covers (g : Geometry) (bytes : Array UInt8) : Prop := g.width * g.height ≤ 8 * bytes.size

instance (g : Geometry) (bytes : Array UInt8) : Decidable (g.Covers bytes) :=
  inferInstanceAs (Decidable (_ ≤ _))

/-- Bit `n` of a packed frame, the most significant bit of each byte first. -/
def bit (bytes : Array UInt8) (n : Nat) : Bool := (bytes.getD (n / 8) 0).toBitVec.getMsbD (n % 8)

/-- The point of pixel number `n`, counted row by row. -/
def point (g : Geometry) (n : Nat) : Point := ⟨.positive (n % g.width), .opposite (n / g.width)⟩

/-- The points of the lit pixels, row by row; `none` if the frame is too short. -/
def litPoints (g : Geometry) (bytes : Array UInt8) : Option (List Point) :=
  if g.Covers bytes then
    some (((List.range (g.width * g.height)).filter (bit bytes)).map g.point)
  else none

/-! ## Bits of packed frames -/

/-- The bits of a byte, counted from the most significant one. -/
theorem getMsbD_eq_testBit (b : UInt8) {k : Nat} (hk : k < 8) :
    b.toBitVec.getMsbD k = b.toNat.testBit (7 - k) := by
  rw [BitVec.getMsbD_eq_getLsbD, decide_eq_true hk, Bool.true_and, ← BitVec.testBit_toNat,
    UInt8.toNat_toBitVec]

theorem bit_eq_getMsbD {bytes : Array UInt8} {n : Nat} (h : n / 8 < bytes.size) :
    bit bytes n = bytes[n / 8].toBitVec.getMsbD (n % 8) := by
  rw [bit, Array.getD_eq_getD_getElem?, Array.getElem?_eq_getElem h, Option.getD_some]

/-- A frame of the screen is long enough. -/
theorem covers_bytes (f : Frame) : screen.Covers f.bytes.toArray := by
  rw [Covers, Vector.size_toArray]
  decide

end Geometry

end Chip8
