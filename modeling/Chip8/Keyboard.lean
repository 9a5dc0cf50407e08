import Chip8.Device
import Chip8.Keyboard.Hold
import Chip8.Keyboard.Line
import Chip8.Keyboard.Typing

/-!
# The keyboard of a terminal

What is typed collects until the next poll.  A poll reads it as messages, takes from the
keystrokes among them what they ask for, and passes it through the hold table.  A character
that stands for no key is told to the log.

A poll that is called by the line reads on until it has a message, and then takes all that it
has.  It ends when the line does not call, or earlier at a message with the place of the
cursor: nobody wants to know, and what was read behind it is left to the next poll.
-/

namespace Chip8

/-- A keyboard whose keys are known by what they type. -/
structure Keyboard where
  /-- What was typed and not read. -/
  line : Line := {}
  /-- The sequence that the last reading has left unfinished. -/
  pending : Pending := .ground
  /-- What was read and not taken by a poll. -/
  inbox : List Message := []
  hold : Hold := .empty
deriving DecidableEq

namespace Keyboard

def type (k : Keyboard) (text : String) : Keyboard := { k with line := k.line.type text }

/-- The keystrokes up to the first place of the cursor, and what follows it if there is one. -/
def untilCursor : List Message → List Keystroke × Option (List Message)
  | [] => ([], none)
  | .cursor :: rest => ([], some rest)
  | .other :: rest => untilCursor rest
  | .keystroke k :: rest =>
    let (ks, behind) := untilCursor rest
    (k :: ks, behind)

def readOnce (k : Keyboard) : Keyboard :=
  let (reading, line) := k.line.read
  let (inbox, pending) := Typing.messages k.pending reading.full reading.text
  { k with line, pending, inbox }

/-- Reads the line up to `n` times into the empty inbox, until there is a message. -/
def read : (n : Nat) → Keyboard → Keyboard
  | 0, k => k
  | n + 1, k =>
    let k := k.readOnce
    if k.inbox = [] ∧ k.line.waiting ≠ [] then read n k else k

/-- The keystrokes that a poll takes, if the line calls at most `n` times. -/
def takeUpTo : (n : Nat) → Keyboard → List Keystroke × Keyboard
  | n, k =>
    match untilCursor k.inbox, n with
    | (ks, some behind), _ => (ks, { k with inbox := behind })
    | (ks, none), 0 => (ks, { k with inbox := [] })
    | (ks, none), n + 1 =>
      if k.line.calls then
        let (more, k) := takeUpTo n (read k.line.waiting.length { k with line := k.line.heard })
        (ks ++ more, k)
      else (ks, { k with inbox := [] })

/-- The keystrokes that a poll takes.  Each reading takes a character at least, so the line
calls no more often than there are characters in it. -/
def take (k : Keyboard) : List Keystroke × Keyboard := takeUpTo k.line.waiting.length k

/-- The events since the last poll. -/
def poll (k : Keyboard) : Except Error (List Event) × Keyboard :=
  let (ks, k) := k.take
  match k.hold.poll (ks.filterMap Keystroke.event?) with
  | .error e => (.error e, k)
  | .ok (events, hold) => (.ok events, { k with hold })

end Keyboard

instance : EventSource Keyboard where
  poll := Keyboard.poll
  pollRecords k := (k.take.1.filterMap Keystroke.unmapped?).map .unmapped

end Chip8
