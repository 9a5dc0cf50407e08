import Chip8.Device

/-!
# Scripted input

A script is a list of batches.  Each poll takes the next one, and after the last there is
nothing to tell.
-/

namespace Chip8

/-- The batches of events still to come. -/
structure Script where
  batches : List (List Event)
deriving DecidableEq, Inhabited

def Script.next (s : Script) : List Event × Script :=
  match s.batches with
  | [] => ([], s)
  | batch :: rest => (batch, ⟨rest⟩)

instance : EventSource Script where
  poll s := let (events, s) := s.next; (.ok events, s)

end Chip8
