import Chip8.Fault
import Chip8.Text.Quoted

/-!
# Errors

What the operations of a machine and of its console can fail with.  `FileError` is the
refusal of a file system, `IoError` that of any device, and `Error` adds the ways in
which the machine itself refuses: a program that does not fit, a trap, and a key that
the keypad does not have.
-/

namespace Chip8

/-- Why a file could not be opened or read. -/
inductive FileError where
  | notFound
  /-- A file stands where the path needs a directory. -/
  | notADirectory
  | isADirectory
  /-- Any other refusal, by its number, the name of its kind and its text. -/
  | other (code : Nat) (kind text : String)
deriving DecidableEq, Inhabited

namespace FileError

/-- The number by which the file system knows the refusal. -/
def code : FileError → Nat
  | notFound => 2
  | notADirectory => 20
  | isADirectory => 21
  | other c _ _ => c

def kind : FileError → String
  | notFound => "NotFound"
  | notADirectory => "NotADirectory"
  | isADirectory => "IsADirectory"
  | other _ k _ => k

def text : FileError → String
  | notFound => "No such file or directory"
  | notADirectory => "Not a directory"
  | isADirectory => "Is a directory"
  | other _ _ t => t

def message (e : FileError) : String := e.text ++ " (os error " ++ toString e.code ++ ")"

def describe (e : FileError) : String :=
  "Os \x7b code: " ++ toString e.code ++ ", kind: " ++ e.kind ++ ", message: "
    ++ Text.quotedString e.text ++ " \x7d"

end FileError

/-- Why a device did not do what it was asked. -/
inductive IoError where
  /-- The device gave its reason in words. -/
  | device (text : String)
  | file (reason : FileError)
deriving DecidableEq, Inhabited

namespace IoError

def message : IoError → String
  | device t => t
  | file r => r.message

def describe : IoError → String
  | device t => "Custom \x7b kind: Other, error: " ++ Text.quotedString t ++ " \x7d"
  | file r => r.describe

end IoError

/-- Why an operation of the machine or of its console failed. -/
inductive Error where
  /-- A program of `size` bytes where `max` is the most that fits.  Nothing was written. -/
  | programTooLarge (size max : Nat)
  /-- The program raised a fault and the machine is halted. -/
  | trap (trap : Trap)
  | invalidKey (key : UInt8)
  | io (reason : IoError)
deriving DecidableEq, Inhabited

namespace Error

def kind : Error → String
  | programTooLarge .. => "ProgramTooLarge"
  | trap _ => "Trap"
  | invalidKey _ => "InvalidKey"
  | io _ => "Io"

def message : Error → String
  | programTooLarge size max =>
    "program is " ++ toString size ++ " bytes, at most " ++ toString max
      ++ " bytes fit above 0x200"
  | trap t => t.message
  | invalidKey k => "key code 0x" ++ Hex.plain k.toNat ++ " is not on the hex keypad"
  | io r => r.message

def describe : Error → String
  | programTooLarge size max =>
    "ProgramTooLarge \x7b size: " ++ toString size ++ ", max: " ++ toString max ++ " \x7d"
  | trap t => t.describe
  | invalidKey k => "InvalidKey(" ++ toString k.toNat ++ ")"
  | io r => "Io(" ++ r.describe ++ ")"

end Error

end Chip8
