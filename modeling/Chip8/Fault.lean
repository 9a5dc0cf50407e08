import Chip8.Text.Hex

/-!
# Faults and traps

A `Fault` is the reason why an instruction could not be carried out.  A `Trap` adds
where it happened: the address of the instruction and, if it could be fetched, its
opcode.  Each has a sentence for people (`message`) and a structural form for
diagnosis (`describe`).
-/

namespace Chip8

/-- Why a running program was stopped. -/
inductive Fault where
  /-- An address past the end of memory; the first such address is named. -/
  | addressOutOfRange (address : Nat)
  /-- A seventeenth nested call. -/
  | stackOverflow
  /-- A return without a call. -/
  | stackUnderflow
  | misalignedJump (target : UInt16)
  | unknownOpcode
deriving DecidableEq, Inhabited

namespace Fault

def kind : Fault → String
  | addressOutOfRange _ => "AddressOutOfRange"
  | stackOverflow => "StackOverflow"
  | stackUnderflow => "StackUnderflow"
  | misalignedJump _ => "MisalignedJump"
  | unknownOpcode => "UnknownOpcode"

def message : Fault → String
  | addressOutOfRange a => "address " ++ Hex.address a ++ " is outside addressable memory"
  | stackOverflow => "call stack overflow (more than 16 nested calls)"
  | stackUnderflow => "return with an empty call stack"
  | misalignedJump t => "jump to odd address " ++ Hex.address t.toNat
  | unknownOpcode => "unrecognised opcode"

/-- The fault as a term: its kind, and its address in decimal if it has one. -/
def describe : Fault → String
  | f@(addressOutOfRange a) => f.kind ++ "(" ++ toString a ++ ")"
  | f@(misalignedJump t) => f.kind ++ "(" ++ toString t.toNat ++ ")"
  | f => f.kind

end Fault

/-- A fault raised by a program, with the place where it was raised. -/
structure Trap where
  fault : Fault
  pc : UInt16
  /-- The instruction, unless fetching it was what went wrong. -/
  opcode : Option UInt16
deriving DecidableEq, Inhabited

namespace Trap

def message (t : Trap) : String :=
  let opcode := match t.opcode with
    | some op => "opcode " ++ Hex.upper 4 op.toNat
    | none => "opcode not fetched"
  t.fault.message ++ " at pc " ++ Hex.address t.pc.toNat ++ " (" ++ opcode ++ ")"

/-- The trap as a term, with numbers in decimal. -/
def describe (t : Trap) : String :=
  let opcode := match t.opcode with
    | some op => "Some(" ++ toString op.toNat ++ ")"
    | none => "None"
  "Trap \x7b fault: " ++ t.fault.describe ++ ", pc: " ++ toString t.pc.toNat
    ++ ", opcode: " ++ opcode ++ " \x7d"

end Trap

end Chip8
