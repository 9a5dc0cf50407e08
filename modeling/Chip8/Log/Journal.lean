import Chip8.Log

/-!
# Journals

A journal keeps those of the records offered to it that matter enough.
-/

namespace Chip8

/-- The records kept so far. -/
structure Journal where
  /-- The least that a record must matter; nothing is kept without it. -/
  threshold : Option Level := none
  /-- The records, latest first. -/
  records : List Record := []
deriving DecidableEq, Inhabited

namespace Journal

def wants (j : Journal) (l : Level) : Bool := j.threshold.any fun t => l.rank ≤ t.rank

def note (j : Journal) (r : Record) : Journal :=
  if j.wants r.level then { j with records := r :: j.records } else j

/-- Offers records in order. -/
def noteAll (j : Journal) (rs : List Record) : Journal := rs.foldl note j

/-- The lines of the log in order. -/
def lines (j : Journal) : List String := j.records.reverse.flatMap Record.lines

end Journal

end Chip8
