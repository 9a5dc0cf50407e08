import Chip8.Error
import Chip8.Log
import Chip8.Keyboard.Event
import Chip8.Screen.Frame

/-!
# Devices

A console shows frames on a display, polls a source of events and tells a speaker when to
sound.  Each of the three is a type of states with one operation, which yields the next
state whether it succeeds or fails.
-/

namespace Chip8

/-- A device that shows frames. -/
class Display (δ : Type) where
  /-- Shows a frame. -/
  draw : δ → Frame → Except Error Unit × δ

/-- A device that yields events. -/
class EventSource (ι : Type) where
  /-- The events since the last poll, oldest first. -/
  poll : ι → Except Error (List Event) × ι
  /-- What the next poll tells the log. -/
  pollRecords : ι → List Record := fun _ => []

/-- A device that sounds. -/
class Speaker (σ : Type) where
  /-- Starts to sound, or stops. -/
  setActive : σ → Bool → Except Error Unit × σ

end Chip8
