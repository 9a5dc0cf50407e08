/-!
# The line of a terminal

What is typed waits in the line until it is read.  New text wakes the reader once, and a
reading takes at most 1204 bytes of the text as it is encoded in UTF-8.  What lies beyond
them waits until something more is typed.  A character that a reading cuts through is left to
the next one, which then has its first bytes already and as much more room.

The line holds 4095 bytes.  Text beyond that flows in as soon as a reading makes room, and
wakes the reader as new text does.
-/

namespace Chip8

/-- Typed text on its way to the reader. -/
structure Line where
  /-- What has not been read, or not to its end. -/
  waiting : List Char := []
  /-- How many bytes of the first waiting character have been read. -/
  begun : Nat := 0
  /-- Whether text has arrived that the reader does not know of. -/
  awake : Bool := false
deriving DecidableEq, Inhabited

/-- What a reading yields. -/
structure Reading where
  text : List Char
  /-- Whether the reading ended for want of room. -/
  full : Bool
deriving DecidableEq, Inhabited

namespace Line

/-- The most bytes in a reading. -/
def maxBytes : Nat := 1204

/-- The most bytes in a line. -/
def capacity : Nat := 4095

def type (l : Line) (text : String) : Line :=
  if text.isEmpty then l else { l with waiting := l.waiting ++ text.toList, awake := true }

/-- Whether there is something to read that the reader does not know of. -/
def calls (l : Line) : Bool := l.awake && !l.waiting.isEmpty

/-- The reader knows what has arrived so far. -/
def heard (l : Line) : Line := { l with awake := false }

/-- The characters that fit into `room` bytes, the room that is left, and the other
characters. -/
def cut : (room : Nat) → List Char → List Char × Nat × List Char
  | room, [] => ([], room, [])
  | room, c :: rest =>
    if c.utf8Size ≤ room then
      let (text, left, rest) := cut (room - c.utf8Size) rest
      (c :: text, left, rest)
    else ([], room, c :: rest)

def overflows (l : Line) : Bool := !(cut (capacity + l.begun) l.waiting).2.2.isEmpty

def read (l : Line) : Reading × Line :=
  let (text, left, rest) := cut (maxBytes + l.begun) l.waiting
  (⟨text, left = 0 ∨ rest ≠ []⟩,
    { waiting := rest
      begun := if rest = [] then 0 else left
      awake := l.awake || l.overflows })

/-! ## Reading loses nothing -/

theorem cut_append (room : Nat) (cs : List Char) : (cut room cs).1 ++ (cut room cs).2.2 = cs := by
  induction cs generalizing room with
  | nil => rfl
  | cons c rest ih =>
    rw [cut]
    split
    · exact congrArg (c :: ·) (ih _)
    · rfl

/-- What a reading yields and what it leaves make up the line. -/
theorem read_append (l : Line) : l.read.1.text ++ l.read.2.waiting = l.waiting :=
  cut_append _ l.waiting

end Line

end Chip8
