import Chip8.Machine.Execute
import Chip8.Instruction.Opcode

/-!
# Steps and frames

A step fetches, decodes and carries out one instruction.  A fault at any of the three turns
into a trap and halts the machine, and a machine that waits for a key does nothing.  A
frame is up to a configured number of steps, cut short when the machine starts to wait,
and then one tick of the timers.  A trap ends a frame without the tick.
-/

namespace Chip8

/-- What a step did. -/
inductive Step where
  /-- It carried out an instruction that left the screen alone. -/
  | executed
  /-- It carried out an instruction that changed the screen. -/
  | redrawn
  /-- It did nothing, since the machine waits for a key. -/
  | awaitingKey
deriving DecidableEq, Inhabited

/-- What happened during a frame. -/
structure FrameReport where
  executed : Nat := 0
  redraw : Bool := false
  soundActive : Bool := false
  /-- Whether the machine waits for a key after the frame. -/
  awaitingKey : Bool := false
deriving DecidableEq, Inhabited

def FrameReport.count (r : FrameReport) (redraw : Bool) : FrameReport :=
  { r with executed := r.executed + 1, redraw := r.redraw || redraw }

namespace Machine

def halt (m : Machine) (t : Trap) : Except Trap Step × Machine :=
  (.error t, { m with activity := .halted t })

def goTo (m : Machine) (pc : UInt16) : Machine := { m with registers := { m.registers with pc } }

/-- Goes on after the instruction `opcode` at `pc` was carried out.  A jump to an odd address
is a fault of the instruction that jumps. -/
def follow (m : Machine) (pc opcode : UInt16) : Flow → Except Trap Step × Machine
  | .next => (.ok .executed, m.goTo (pc + 2))
  | .skip => (.ok .executed, m.goTo (pc + 4))
  | .redraw => (.ok .redrawn, m.goTo (pc + 2))
  | .jump target =>
    if target.toNat % 2 ≠ 0 then m.halt ⟨.misalignedJump target, pc, some opcode⟩
    else (.ok .executed, m.goTo target)
  | .wait target => (.ok .executed, { m.goTo (pc + 2) with activity := .awaitingKey target })

/-- Fetches, decodes and carries out the instruction at the program counter. -/
def cycle (m : Machine) : Except Trap Step × Machine :=
  let pc := m.registers.pc
  match m.memory.readWord pc with
  | .error fault => m.halt ⟨fault, pc, none⟩
  | .ok opcode =>
    match Instruction.decode opcode with
    | none => m.halt ⟨.unknownOpcode, pc, some opcode⟩
    | some i =>
      match m.execute i with
      | .error fault => m.halt ⟨fault, pc, some opcode⟩
      | .ok (flow, m') => m'.follow pc opcode flow

/-- One step: an instruction if the machine runs, and otherwise nothing.  A halted machine
answers with the trap that halted it. -/
def step (m : Machine) : Except Trap Step × Machine :=
  match m.activity with
  | .running => m.cycle
  | .awaitingKey _ => (.ok .awaitingKey, m)
  | .halted t => (.error t, m)

/-- The end of a frame: one tick, and what the frame has come to. -/
def endFrame (m : Machine) (report : FrameReport) : Except Trap FrameReport × Machine :=
  let m := m.tick
  (.ok { report with soundActive := m.soundActive, awaitingKey := m.isAwaitingKey }, m)

/-- Up to a number of steps, and then the end of the frame. -/
def frameSteps : Nat → FrameReport → Machine → Except Trap FrameReport × Machine
  | 0, report, m => m.endFrame report
  | k + 1, report, m =>
    match m.step with
    | (.error t, m') => (.error t, m')
    | (.ok .executed, m') => frameSteps k (report.count false) m'
    | (.ok .redrawn, m') => frameSteps k (report.count true) m'
    | (.ok .awaitingKey, m') => m'.endFrame report

def runFrame (m : Machine) : Except Trap FrameReport × Machine :=
  frameSteps m.config.cyclesPerFrame.toNat {} m

end Machine

end Chip8
