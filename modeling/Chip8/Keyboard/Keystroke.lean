import Chip8.Keyboard.Event

/-!
# Keystrokes

A keystroke is a key of a terminal's keyboard with the modifiers held meanwhile.  The left
side of the keyboard stands for the keypad,

    1 2 3 4        1 2 3 C
    q w e r        4 5 6 D
    a s d f        7 8 9 E
    z x c v        A 0 B F

in either case; Escape and Control-C quit, and Backspace starts over.
-/

namespace Chip8

/-- A key of a terminal's keyboard. -/
inductive KeyCode where
  | char (c : Char)
  | escape | backspace | enter | tab | backTab | delete | insert
  | left | right | up | down | home | «end» | pageUp | pageDown
  | function (n : Nat)
  | null
deriving DecidableEq, Inhabited

/-- The keys held together with another. -/
structure Modifiers where
  shift : Bool := false
  control : Bool := false
  alt : Bool := false
deriving DecidableEq, Inhabited

/-- A key and the modifiers held with it. -/
structure Keystroke where
  code : KeyCode
  modifiers : Modifiers := {}
deriving DecidableEq, Inhabited

/-- The letters and digits of the keyboard with the key of the keypad that each stands for. -/
def keymap : List (Char × UInt8) := [
  ('x', 0x0), ('1', 0x1), ('2', 0x2), ('3', 0x3),
  ('q', 0x4), ('w', 0x5), ('e', 0x6), ('a', 0x7),
  ('s', 0x8), ('d', 0x9), ('z', 0xA), ('c', 0xB),
  ('4', 0xC), ('r', 0xD), ('f', 0xE), ('v', 0xF)]

/-- The key of the keypad that a character stands for, in either case of the ASCII letters. -/
def keypadCode? (c : Char) : Option UInt8 := keymap.lookup c.toLower

namespace Keystroke

def event? (k : Keystroke) : Option Event :=
  match k.code with
  | .escape => some .quit
  | .backspace => some .reset
  | .char c =>
    if c = 'c' ∧ k.modifiers.control then some .quit else (keypadCode? c).map .down
  | _ => none

/-- The character of a keystroke that should stand for a key and does not. -/
def unmapped? (k : Keystroke) : Option Char :=
  match k.code, k.event? with
  | .char c, none => some c
  | _, _ => none

end Keystroke

end Chip8
