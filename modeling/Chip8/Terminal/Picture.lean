import Chip8.Terminal.Geometry
import Chip8.Terminal.Surface

/-!
# The picture of a frame on a terminal

A terminal shows a frame in its top left corner: inside a border with a title stands a canvas
of cells, and each lit pixel fills the cell that its point falls into.  At 66 columns and 34
rows or more a cell is a pixel; on a smaller terminal the canvas shrinks with it and pixels
share cells.

A picture is painted in strokes of one cell each, and a later stroke covers an earlier one.
The border and the canvas are measured by the terminal and painted on its surface.  Where the
surface is narrower, what overhangs on the right goes on at the left of the next row, because
that is where the number of the cell is.
-/

namespace Chip8

/-- The colours of a cell. -/
inductive Colour where
  /-- As the terminal has them. -/
  | plain
  /-- On black. -/
  | onBlack
  /-- White. -/
  | white
deriving DecidableEq, Inhabited

def Colour.letter : Colour → Char
  | plain => '.'
  | onBlack => 'k'
  | white => 'w'

/-- A character cell. -/
structure Cell where
  glyph : Char
  colour : Colour
deriving DecidableEq, Inhabited

def Cell.blank : Cell := ⟨' ', .plain⟩

def Cell.framed (glyph : Char) : Cell := ⟨glyph, .onBlack⟩

def Cell.lit : Cell := ⟨'▄', .white⟩

/-- A rectangle of cells that shows a rectangle of the plane. -/
structure Canvas where
  cols : Nat
  rows : Nat
  geometry : Geometry

namespace Canvas

/-- How many steps of `count` cells lie between `low` and the place of `v`, where `low` and
`high` are in the first and the last of them. -/
def scale (count : Nat) (low high v : Int) : Nat := ((v - low) * (count - 1) / (high - low)).toNat

def column (c : Canvas) (p : Point) : Nat :=
  scale c.cols c.geometry.xBounds.1.value c.geometry.xBounds.2.value p.x.value

/-- The row that a point falls into, counted from the top. -/
def row (c : Canvas) (p : Point) : Nat :=
  scale c.rows (-c.geometry.yBounds.2.value) (-c.geometry.yBounds.1.value) (-p.y.value)

/-- The rows and columns of the cells that points fall into. -/
def cells (c : Canvas) (ps : List Point) : List (Nat × Nat) := ps.map fun p => (c.row p, c.column p)

end Canvas

/-! ## Painting -/

/-- A cell written at a row and column. -/
structure Stroke where
  row : Nat
  col : Nat
  cell : Cell
deriving DecidableEq, Inhabited

namespace Stroke

/-- Writes one cell.  What lies past the end of the surface is lost. -/
def apply (s : TerminalSize) (cells : Array Cell) (t : Stroke) : Array Cell :=
  cells.setIfInBounds (s.number t.row t.col) t.cell

/-- The cells of a blank surface after some strokes. -/
def paint (s : TerminalSize) (ts : List Stroke) : Array Cell :=
  ts.foldl (apply s) (Array.replicate s.count .blank)

@[simp] theorem size_apply (s : TerminalSize) (cells : Array Cell) (t : Stroke) :
    (apply s cells t).size = cells.size := by simp [apply]

/-- A cell is as the last stroke on it has left it. -/
theorem getElem?_foldl_apply (s : TerminalSize) (ts : List Stroke) (cells : Array Cell) (n : Nat)
    (hn : n < cells.size) :
    (ts.foldl (apply s) cells)[n]? =
      ((ts.reverse.find? fun t => s.number t.row t.col == n).map cell).or cells[n]? := by
  induction ts generalizing cells with
  | nil => simp
  | cons t rest ih =>
    rw [List.foldl_cons, ih _ (by simpa using hn), List.reverse_cons, List.find?_append]
    cases rest.reverse.find? fun t => s.number t.row t.col == n with
    | some u => simp
    | none =>
      by_cases h : s.number t.row t.col = n
      · subst h
        simp [apply, hn]
      · simp [apply, h]

end Stroke

/-- The cells of a terminal that border and canvas take. -/
def TerminalSize.area (s : TerminalSize) : TerminalSize :=
  ⟨min (Screen.width + 2) s.cols, min (Screen.height + 2) s.rows⟩

/-- A frame on a terminal of some size. -/
structure Picture where
  size : TerminalSize
  frame : Frame
deriving DecidableEq

namespace Picture

/-- The title in the border. -/
def title : List Char := "CHIP-8".toList

def area (p : Picture) : TerminalSize := p.size.area

/-- The canvas inside the border. -/
def canvas (p : Picture) : Canvas := ⟨p.area.cols - 2, p.area.rows - 2, .screen⟩

def litCells (p : Picture) : List (Nat × Nat) :=
  p.canvas.cells ((Geometry.screen.litPoints p.frame.bytes.toArray).getD [])

def vertical (p : Picture) (col : Nat) : List Stroke :=
  (List.range p.area.rows).map fun row => ⟨row, col, .framed '│'⟩

def horizontal (p : Picture) (row : Nat) : List Stroke :=
  (List.range p.area.cols).map fun col => ⟨row, col, .framed '─'⟩

def ground (p : Picture) : List Stroke :=
  (List.range p.area.rows).flatMap fun row =>
    (List.range p.area.cols).map fun col => ⟨row, col, .framed ' '⟩

/-- The border: its sides, and then its corners. -/
def border (p : Picture) : List Stroke :=
  let right := p.area.cols - 1
  let bottom := p.area.rows - 1
  p.vertical 0 ++ p.horizontal 0 ++ p.vertical right ++ p.horizontal bottom
    ++ [⟨bottom, right, .framed '┘'⟩, ⟨0, right, .framed '┐'⟩,
      ⟨bottom, 0, .framed '└'⟩, ⟨0, 0, .framed '┌'⟩]

/-- How much of the title has room between the corners and on the surface. -/
def titleRoom (p : Picture) : Nat := min (p.area.cols - 2) (p.size.surface.cols - 1)

/-- The title over the top of the border. -/
def heading (p : Picture) : List Stroke :=
  ((title.take p.titleRoom).zipIdx 1).map fun (c, col) => ⟨0, col, .framed c⟩

def blocks (p : Picture) : List Stroke :=
  p.litCells.map fun (row, col) => ⟨row + 1, col + 1, .lit⟩

/-- All strokes in the order in which they are made. -/
def strokes (p : Picture) : List Stroke := p.ground ++ p.border ++ p.heading ++ p.blocks

def cells (p : Picture) : Array Cell := Stroke.paint p.size.surface p.strokes

/-- Whether the last cell of the area has a number on the surface. -/
def Fits (p : Picture) : Prop :=
  p.size.surface.number (p.area.rows - 1) (p.area.cols - 1) < p.size.surface.count

instance (p : Picture) : Decidable p.Fits := inferInstanceAs (Decidable (_ < _))

/-- A terminal of some size, row by row, whose surface has the given cells. -/
def onTerminal (size : TerminalSize) (cells : Array Cell) : List (List Cell) :=
  let s := size.surface
  (List.range size.rows).map fun row => (List.range size.cols).map fun col =>
    if row < s.rows ∧ col < s.cols then cells.getD (s.number row col) .blank else .blank

end Picture

end Chip8
