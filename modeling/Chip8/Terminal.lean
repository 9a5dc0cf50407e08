import Chip8.Device
import Chip8.Terminal.Picture

/-!
# The display of a terminal

A terminal is blank until the first frame is drawn and again after a change of its size.
Drawing hides the cursor, which comes back when the display is closed; the picture stays.

The display keeps in mind what it has painted, and paints only the cells that are to look
different.  It starts anew if the surface has another size than last time.  So if the terminal
was wiped and its surface is as large as before, a cell stays blank until it changes.
-/

namespace Chip8

/-- A terminal as a display. -/
structure Terminal where
  size : TerminalSize
  painted : Option Picture := none
  /-- The cells that were wiped and not painted again. -/
  wiped : List Nat := []
  /-- Whether a picture did not fit its surface. -/
  overrun : Bool := false
  cursorVisible : Bool := true
deriving DecidableEq

namespace Terminal

/-- The wiped cells that a picture leaves alone. -/
def stillWiped (t : Terminal) (new : Picture) : List Nat :=
  match t.painted with
  | none => []
  | some old =>
    if t.wiped = [] ∨ old.size.surface ≠ new.size.surface then []
    else
      let before := old.cells
      let after := new.cells
      t.wiped.filter fun n => before.getD n .blank = after.getD n .blank

def draw (t : Terminal) (f : Frame) : Terminal :=
  let new : Picture := ⟨t.size, f⟩
  { t with
    painted := some new
    wiped := t.stillWiped new
    overrun := t.overrun || !decide new.Fits
    cursorVisible := false }

def resize (t : Terminal) (size : TerminalSize) : Terminal :=
  { t with size, wiped := if t.painted.isSome then List.range size.surface.count else [] }

def close (t : Terminal) : Terminal := { t with cursorVisible := true }

/-- What is on the surface, if anything. -/
def cells (t : Terminal) : Array Cell :=
  match t.painted with
  | none => #[]
  | some p =>
    if p.size.surface = t.size.surface then
      t.wiped.foldl (fun cells n => cells.setIfInBounds n .blank) p.cells
    else #[]

def picture (t : Terminal) : List (List Cell) := Picture.onTerminal t.size t.cells

/-- The characters of a row, without the spaces at its end. -/
def rowText (cells : List Cell) : String :=
  String.ofList ((cells.map Cell.glyph).reverse.dropWhile (· = ' ')).reverse

/-- The lengths of the runs of equal elements, and the elements. -/
def runs {α : Type} [DecidableEq α] : List α → List (Nat × α)
  | [] => []
  | a :: rest =>
    match runs rest with
    | (n, b) :: more => if a = b then (n + 1, b) :: more else (1, a) :: (n, b) :: more
    | [] => [(1, a)]

def rowColours (cells : List Cell) : String :=
  String.join ((runs (cells.map Cell.colour)).map fun (n, c) => toString n ++ c.letter.toString)

end Terminal

instance : Display Terminal where
  draw t f := (.ok (), t.draw f)

end Chip8
