/-!
# Fields and numerals

A text can be split at a separator, at the first one or at all, and a field can be read as a
decimal number.
-/

namespace Chip8.Text

/-- Splits a text at the first `separator`, which belongs to neither part; without one there
is no second part. -/
def splitAt (separator : Char) (cs : List Char) : List Char × Option (List Char) :=
  match cs.dropWhile (· ≠ separator) with
  | [] => (cs, none)
  | _ :: rest => (cs.takeWhile (· ≠ separator), some rest)

/-- The fields between the separators of a text.  There is always one more than there are
separators, and any of them may be empty. -/
def fields (separator : Char) : List Char → List (List Char)
  | [] => [[]]
  | c :: cs =>
    if c = separator then [] :: fields separator cs
    else match fields separator cs with
      | [] => [[c]]
      | field :: rest => (c :: field) :: rest

/-- The number that digits denote; there must be at least one, and nothing else. -/
def natural? (cs : List Char) : Option Nat :=
  if cs.isEmpty ∨ ¬ cs.all Char.isDigit then none
  else some (cs.foldl (fun n c => 10 * n + (c.toNat - '0'.toNat)) 0)

/-- The number that digits denote, perhaps after a plus sign. -/
def unsigned? : List Char → Option Nat
  | '+' :: cs => natural? cs
  | cs => natural? cs

def isBelow (bound : Nat) (cs : List Char) : Bool := (unsigned? cs).any (· < bound)

end Chip8.Text
