import Chip8.Device

/-!
# The silent speaker

It makes no sound and remembers what it would be doing.
-/

namespace Chip8

/-- A speaker that is not heard. -/
structure Mute where
  active : Bool := false
  /-- How often it would have started to sound. -/
  beeps : Nat := 0
deriving DecidableEq, Inhabited

/-- Starts or stops.  Starting while active is not a new beep. -/
def Mute.switch (s : Mute) (active : Bool) : Mute :=
  ⟨active, if active && !s.active then s.beeps + 1 else s.beeps⟩

instance : Speaker Mute where
  setActive s active := (.ok (), s.switch active)

end Chip8
