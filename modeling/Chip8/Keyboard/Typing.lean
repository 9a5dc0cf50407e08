import Chip8.Keyboard.Sequence

/-!
# Typed text as messages

A terminal sends what is typed as text.  Most keys send one character, and Control with a
letter sends the character of that number.  An escape character starts a sequence: with any
character but `[` and `O` it is that key with Alt, a second escape character makes it the
Escape key, and `[` and `O` start the sequences of arrows, function keys and reports.  An
escape character that nothing follows is the Escape key.  A sequence may be cut off anywhere
else and go on in the next piece of text.
-/

namespace Chip8

/-- How much of a sequence has been read. -/
inductive Pending where
  /-- Nothing. -/
  | ground
  /-- An escape character. -/
  | escape
  /-- An escape character and `O`, which one character completes. -/
  | function
  /-- An escape character and `[`. -/
  | control
  /-- An escape character and `[[`, which one character completes. -/
  | console
  /-- A control sequence with numbers, which ends with a character from `@` to `~`.  What was
  read of them is kept, the latest first. -/
  | numbered (text : List Char)
  /-- A report of the mouse, which ends with `m` or `M`.  What was read of it is kept, the
  latest first. -/
  | report (text : List Char)
  /-- A report of the mouse in three bytes. -/
  | mouse
  /-- The same with `left` bytes to come; `known` says whether the button is one. -/
  | mousePlace (known : Bool) (left : Nat)
deriving DecidableEq, Inhabited

namespace Typing

def esc : Char := '\x1b'

/-- The character whose code is `n` places after that of `c`. -/
def shifted (c : Char) (n : Nat) : Char := Char.ofNat (c.toNat + n)

/-- The key that sends a character.  The case of a letter says all that Shift would. -/
def key (c : Char) : Keystroke :=
  if c = '\x7f' then ⟨.backspace, {}⟩
  else if c = '\r' then ⟨.enter, {}⟩
  else if c = '\t' then ⟨.tab, {}⟩
  else if c.toNat = 0 then ⟨.char ' ', { control := true }⟩
  else if c.toNat ≤ 0x1a then ⟨.char (shifted 'a' (c.toNat - 1)), { control := true }⟩
  else if 0x1c ≤ c.toNat ∧ c.toNat ≤ 0x1f then
    ⟨.char (shifted '4' (c.toNat - 0x1c)), { control := true }⟩
  else ⟨.char c, {}⟩

def withAlt (k : Keystroke) : Keystroke := { k with modifiers := { k.modifiers with alt := true } }

/-- Reads the first character of a control sequence. -/
def nextControl (c : Char) : Option Message × Pending :=
  if c.isDigit then (none, .numbered [c])
  else if c = '[' then (none, .console)
  else if c = 'M' then (none, .mouse)
  else if c = '<' then (none, .report [])
  else (Sequence.ofLetter c, .ground)

/-- Reads one character of a report of the mouse with `left` bytes to come.  A character that
goes on after the end of the report is taken with it. -/
def nextMouse (known : Bool) (left : Nat) (c : Char) : Option Message × Pending :=
  if left ≤ c.utf8Size then (Sequence.otherIf known, .ground)
  else (none, .mousePlace known (left - c.utf8Size))

/-- Reads one character.  Yields the message that it completes, if any, and where it leaves
the sequence; `last` says that no character follows for now. -/
def next (p : Pending) (c : Char) (last : Bool) : Option Message × Pending :=
  match p with
  | .ground =>
    if c = esc then if last then (some (.keystroke ⟨.escape, {}⟩), .ground) else (none, .escape)
    else (some (.keystroke (key c)), .ground)
  | .escape =>
    if c = esc then (some (.keystroke ⟨.escape, {}⟩), .ground)
    else if c = '[' then (none, .control)
    else if c = 'O' then (none, .function)
    else (some (.keystroke (withAlt (key c))), .ground)
  | .function => (Sequence.ofFunction c, .ground)
  | .control => nextControl c
  | .console => (Sequence.ofConsole c, .ground)
  | .numbered text =>
    if '@' ≤ c ∧ c ≤ '~' then (Sequence.ofNumbered text.reverse c, .ground)
    else (none, .numbered (c :: text))
  | .report text =>
    if c = 'm' ∨ c = 'M' then (Sequence.ofReport text.reverse, .ground)
    else (none, .report (c :: text))
  | .mouse => nextMouse (Sequence.isButtonChar c) 3 c
  | .mousePlace known left => nextMouse known left c

/-- The messages of a piece of text, and where it leaves the sequence; `more` says that there
is more text behind it. -/
def messages (p : Pending) (more : Bool) : List Char → List Message × Pending
  | [] => ([], p)
  | c :: rest =>
    let (m, p) := next p c (rest.isEmpty && !more)
    let (ms, p) := messages p more rest
    (m.toList ++ ms, p)

end Typing

end Chip8
