/-!
# The surface of a terminal

The cells of a terminal are numbered row by row from the top left, and a picture is painted by
number.  There are numbers for 65535 cells.  A terminal with more has a surface in its top left
corner that is as large as the numbers allow and has about the shape of the terminal; the rest
of it stays blank.
-/

namespace Chip8

/-- How many cells a terminal has. -/
structure TerminalSize where
  cols : Nat
  rows : Nat
deriving DecidableEq, Inhabited

namespace TerminalSize

def count (s : TerminalSize) : Nat := s.cols * s.rows

def number (s : TerminalSize) (row col : Nat) : Nat := row * s.cols + col

/-- The most cells that a surface has. -/
def maxCells : Nat := 65535

/-- The cells of a terminal that can be painted. -/
def surface (s : TerminalSize) : TerminalSize :=
  if s.count ≤ maxCells then s
  else ⟨Nat.sqrt (maxCells * s.cols / s.rows), Nat.sqrt (maxCells * s.rows / s.cols)⟩

/-- A terminal whose cells can all be numbered is all surface. -/
theorem surface_of_le {s : TerminalSize} (h : s.count ≤ maxCells) : s.surface = s := if_pos h

end TerminalSize

end Chip8
