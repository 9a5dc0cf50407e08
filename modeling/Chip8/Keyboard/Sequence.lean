import Chip8.Keyboard.Keystroke
import Chip8.Text.Field

/-!
# What sequences stand for

A terminal sends a message for every key and every use of the mouse, and when asked for the
place of its cursor.  Keys without a character, and the mouse, send sequences.  They ask for
nothing here, but it matters which sequences are messages at all: one that no key and no mouse
sends is passed over as if it had not been typed.
-/

namespace Chip8

/-- What a terminal sends. -/
inductive Message where
  /-- A key was struck that has a character, or is Escape, Enter, Tab or Backspace. -/
  | keystroke (k : Keystroke)
  /-- Another key was struck, or the mouse was used. -/
  | other
  /-- The place of the cursor. -/
  | cursor
deriving DecidableEq, Inhabited

namespace Sequence

/-- A message of no interest, on a condition. -/
def otherIf (holds : Bool) : Option Message := if holds then some .other else none

/-- Whether a code of the mouse names a button or a movement.  Its two lowest bits and those
from the sixth on number the buttons, and there are six. -/
def isButton (code : Nat) : Bool := code % 4 + 4 * (code / 64) < 6

def isPlace : List (List Char) → Bool
  | row :: col :: _ => Text.isBelow UInt16.size row && Text.isBelow UInt16.size col
  | _ => false

/-- Whether fields are the code of the mouse, counted from `base`, and a place. -/
def isMouse (base : Nat) : List (List Char) → Bool
  | [] => false
  | code :: place =>
    ((Text.unsigned? code).any fun n => n < UInt8.size && base ≤ n && isButton (n - base))
      && isPlace place

/-- The numbers of the keys that send a number and a tilde, in inclusive ranges. -/
def keyNumbers : List (Nat × Nat) := [(1, 8), (11, 15), (17, 21), (23, 26), (28, 29), (31, 34)]

def isKey : List (List Char) → Bool
  | [] => false
  | number :: _ =>
    (Text.unsigned? number).any fun n =>
      keyNumbers.any fun (first, last) => first ≤ n && n ≤ last

/-- What an escape character, `O` and another character stand for: the first four function
keys. -/
def ofFunction (c : Char) : Option Message := otherIf ("PQRS".toList.contains c)

/-- What an escape character, `[[` and another character stand for: the first five function
keys. -/
def ofConsole (c : Char) : Option Message := otherIf ("ABCDE".toList.contains c)

/-- What an escape character, `[` and a letter stand for: the arrows, Home, End and Tab with
Shift. -/
def ofLetter (c : Char) : Option Message := otherIf ("ABCDFHZ".toList.contains c)

/-- What a control sequence with numbers stands for, by its text and its last character. -/
def ofNumbered (text : List Char) (final : Char) : Option Message :=
  let fields := Text.fields ';' text
  match final with
  | 'R' => if isPlace fields then some .cursor else none
  | 'M' => otherIf (isMouse 32 fields)
  | '~' => otherIf (isKey fields)
  | c => otherIf ("ABCDFHPQS".toList.contains c)

/-- What a report of the mouse stands for, by its text. -/
def ofReport (text : List Char) : Option Message := otherIf (isMouse 0 (Text.fields ';' text))

/-- Whether the first character of a report of the mouse in bytes names a button. -/
def isButtonChar (c : Char) : Bool := 32 ≤ c.toNat && c.toNat < 128 && isButton (c.toNat - 32)

end Sequence

end Chip8
