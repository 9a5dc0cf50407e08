/-!
# Events

What an input device has to tell: keys of the keypad that go down or come up, by their
code, and the wish to start over or to stop.
-/

namespace Chip8

/-- Something that happened at an input device. -/
inductive Event where
  | down (code : UInt8)
  | up (code : UInt8)
  | reset
  | quit
deriving DecidableEq, Inhabited

end Chip8
