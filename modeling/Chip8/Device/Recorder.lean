import Chip8.Device

/-!
# A display that remembers

The recorder keeps the latest frame and counts how many it was shown.
-/

namespace Chip8

/-- A display without a screen. -/
structure Recorder where
  drawn : Nat := 0
  /-- The latest of them. -/
  last : Option Frame := none
deriving DecidableEq

namespace Recorder

def record (d : Recorder) (f : Frame) : Recorder := ⟨d.drawn + 1, some f⟩

/-- Whether a pixel of the latest frame is lit. -/
def pixel (d : Recorder) (r c : Nat) : Bool := d.last.any fun f => f.pixel r c

/-- The bytes of the latest frame, none before the first. -/
def bytes (d : Recorder) : List UInt8 := (d.last.map Frame.toList).getD []

end Recorder

instance : Display Recorder where
  draw d f := (.ok (), d.record f)

end Chip8
