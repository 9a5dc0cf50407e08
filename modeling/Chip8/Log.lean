import Chip8.Machine.Run

/-!
# Log records

What the parts of the program tell whoever watches them.  A record has a level, a source
and a message.  It is written as one line, and as more if the message has line breaks in it.
-/

namespace Chip8

/-- How much a record matters. -/
inductive Level where
  | error | warn | info | debug | trace
deriving DecidableEq, Inhabited

namespace Level

/-- The place of a level in the order from `error` to `trace`. -/
def rank : Level → Nat
  | error => 0
  | warn => 1
  | info => 2
  | debug => 3
  | trace => 4

/-- The name of a level, filled up to five letters. -/
def label : Level → String
  | error => "ERROR"
  | warn => "WARN "
  | info => "INFO "
  | debug => "DEBUG"
  | trace => "TRACE"

end Level

/-- A message to whoever watches the program. -/
inductive Record where
  /-- The command line is understood. -/
  | running (path : String) (config : Config)
  /-- The command is done. -/
  | stopped (frames : Nat)
  | restarting
  /-- The keyboard asked to quit. -/
  | quit (frames : Nat)
  /-- A frame ended in a trap. -/
  | failed (trap : Trap)
  /-- A character without a key on the keypad was typed. -/
  | unmapped (c : Char)
  | reset
  | loaded (size : Nat)
  | executing (pc opcode : UInt16) (instruction : Instruction)
  | awaiting (target : Register)
  | resolved (key : UInt8) (target : Register)
  | halted (trap : Trap)
deriving DecidableEq, Inhabited

namespace Record

def level : Record → Level
  | failed _ => .error
  | unmapped _ | halted _ => .warn
  | running .. | stopped _ | restarting | quit _ => .info
  | reset | loaded _ | awaiting _ | resolved .. => .debug
  | executing .. => .trace

/-- The part of the program that a record comes from. -/
def source : Record → String
  | running .. | stopped _ => "chip8vm"
  | restarting | quit _ | failed _ => "chip8vm::interpreter"
  | unmapped _ => "chip8vm::input"
  | reset | loaded _ | executing .. | awaiting _ | resolved .. | halted _ => "chip8vm::machine"

def message : Record → String
  | running path config => "running " ++ path ++ " with " ++ config.describe
  | stopped frames => "stopped after " ++ toString frames ++ " frames"
  | restarting => "restarting"
  | quit frames => "quit after " ++ toString frames ++ " frames"
  | failed t => t.message
  | unmapped c => "can't map " ++ Text.quotedChar c ++ " to a CHIP-8 key"
  | reset => "reset"
  | loaded size => "loaded " ++ toString size ++ " byte program"
  | executing pc opcode i =>
    Hex.padded 3 pc.toNat ++ ": " ++ Hex.upper 4 opcode.toNat ++ " " ++ i.describe
  | awaiting target => "waiting for key into V" ++ Hex.upper 1 target
  | resolved key target =>
    "key " ++ Hex.plain key.toNat ++ " resolves wait into V" ++ Hex.upper 1 target
  | halted t => "halted: " ++ t.fault.message ++ " at " ++ Hex.padded 3 t.pc.toNat

def heading (r : Record) : String := "[" ++ r.level.label ++ " " ++ r.source ++ "] "

/-- The text of a line; a carriage return at its end is part of the line break. -/
def lineText (line : String) : String :=
  match line.toList.reverse with
  | '\r' :: rest => String.ofList rest.reverse
  | _ => line

/-- A record as lines of the log.  The lines of its message after the first are indented. -/
def lines (r : Record) : List String :=
  match r.message.splitOn "\n" with
  | [] => [r.heading]
  | first :: rest => lineText (r.heading ++ first) :: rest.map fun line => lineText ("    " ++ line)

end Record

end Chip8
