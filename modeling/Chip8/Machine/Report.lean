import Chip8.Log.Journal

/-!
# What a machine reports

The records of an operation are a function of the operation and of the machine it is
carried out on, so the machine itself keeps no log, and watching it changes nothing.  None
of the records is an error: the most that any matters is `Level.warn`.
-/

namespace Chip8.Machine

/-- The records of carrying out the instruction at the program counter. -/
def cycleRecords (m : Machine) : List Record :=
  let fetched := match m.memory.readWord m.registers.pc with
    | .error _ => []
    | .ok opcode => match Instruction.decode opcode with
      | none => []
      | some i => [.executing m.registers.pc opcode i]
  let outcome := match m.cycle.2.activity with
    | .running => []
    | .awaitingKey target => [.awaiting target]
    | .halted t => [.halted t]
  fetched ++ outcome

def stepRecords (m : Machine) : List Record :=
  match m.activity with
  | .running => m.cycleRecords
  | _ => []

def loadRecords (m : Machine) (program : List UInt8) : List Record :=
  match m.load program with
  | (.ok (), _) => [.loaded program.length]
  | (.error _, _) => []

def keyDownRecords (m : Machine) (code : UInt8) : List Record :=
  match m.keyDown code, m.activity with
  | (.ok (), _), .awaitingKey target => [.resolved code target]
  | _, _ => []

/-- Offers a journal the records of up to `k` steps, to the first that carries out nothing. -/
def reportSteps : (k : Nat) → Machine → Journal → Journal
  | 0, _, j => j
  | k + 1, m, j =>
    let j := j.noteAll m.stepRecords
    match m.step with
    | (.ok .executed, m') | (.ok .redrawn, m') => reportSteps k m' j
    | _ => j

/-- Offers a journal the records of an operation.  A journal that keeps errors only wants
none of those of a frame, so they are not made for it. -/
def report (m : Machine) (op : Operation) (j : Journal) : Journal :=
  match op with
  | .load program => j.noteAll (m.loadRecords program)
  | .step => j.noteAll m.stepRecords
  | .runFrame =>
    if j.wants .warn then reportSteps m.config.cyclesPerFrame.toNat m j else j
  | .keyDown code => j.noteAll (m.keyDownRecords code)
  | .reset => j.note .reset
  | .tick | .keyUp _ => j

end Chip8.Machine
