import Chip8.Proofs.Bare.Machine

/-!
# Running the bare machine

Instructions, steps, frames and the operations of the owner, once more and with every check
in its place.  The order of what an instruction does is that of its description: a call
adds to the program counter before it looks for room on the stack, and a return closes its
call before anyone has looked where it leads.
-/

namespace Chip8.Bare

/-- How a program goes on after an instruction. -/
inductive Flow where
  | next
  | skip
  | jump (target : UInt16)
  | redraw
  | wait (target : Nat)

def Flow.skipIf (holds : Bool) : Flow := if holds then .skip else .next

namespace Machine

/-! ## Instructions -/

def holds (m : Machine) : Condition → Checked Bool
  | .byteIs x byte => do
    let a ← Checked.get m.v x
    return a = byte
  | .byteIsNot x byte => do
    let a ← Checked.get m.v x
    return a ≠ byte
  | .same x y => do
    let a ← Checked.get m.v x
    let b ← Checked.get m.v y
    return a = b
  | .differ x y => do
    let a ← Checked.get m.v x
    let b ← Checked.get m.v y
    return a ≠ b
  | .keyHeld x => do
    let code ← Checked.get m.v x
    isPressed m.held code
  | .keyFree x => do
    let code ← Checked.get m.v x
    let held ← isPressed m.held code
    return !held

def shiftOperand (m : Machine) (x y : Nat) : Checked UInt8 :=
  match m.config.shift with
  | .vy => Checked.get m.v y
  | .vx => Checked.get m.v x

/-- The registers after an operation on `VX` and `VY`, with the flag written last. -/
def arithmetic (m : Machine) (o : Arithmetic) (x y : Nat) : Checked (List UInt8) := do
  match o with
  | .copy =>
    let b ← Checked.get m.v y
    Checked.put m.v x b
  | .or =>
    let a ← Checked.get m.v x
    let b ← Checked.get m.v y
    Checked.put m.v x (a ||| b)
  | .and =>
    let a ← Checked.get m.v x
    let b ← Checked.get m.v y
    Checked.put m.v x (a &&& b)
  | .xor =>
    let a ← Checked.get m.v x
    let b ← Checked.get m.v y
    Checked.put m.v x (a ^^^ b)
  | .add =>
    let a ← Checked.get m.v x
    let b ← Checked.get m.v y
    let v ← Checked.put m.v x (a + b)
    Checked.put v 15 (decide (256 ≤ a.toNat + b.toNat)).toUInt8
  | .sub =>
    let a ← Checked.get m.v x
    let b ← Checked.get m.v y
    let v ← Checked.put m.v x (a - b)
    Checked.put v 15 (decide (b ≤ a)).toUInt8
  | .subFrom =>
    let a ← Checked.get m.v x
    let b ← Checked.get m.v y
    let v ← Checked.put m.v x (b - a)
    Checked.put v 15 (decide (a ≤ b)).toUInt8
  | .shiftRight =>
    let q ← m.shiftOperand x y
    let v ← Checked.put m.v x (q >>> 1)
    Checked.put v 15 (q &&& 1)
  | .shiftLeft =>
    let q ← m.shiftOperand x y
    let v ← Checked.put m.v x (q <<< 1)
    Checked.put v 15 (q >>> 7)

/-- The index past the block `V0` to `VX`. -/
def pastBlock (index : UInt16) (x : Nat) : Checked UInt16 := do
  let length ← Checked.addWord (UInt16.ofNat x) 1
  Checked.addWord index length

/-- Carries out an instruction.  The machine comes back with a fault as well. -/
def execute (m : Machine) (i : Instruction) : Checked (Except Fault Flow × Machine) := do
  match i with
  | .clear => return (.ok .redraw, { m with rows := List.replicate Screen.height 0 })
  | .ret =>
    match m.stack.getLast? with
    | none => return (.error .stackUnderflow, m)
    | some target => return (.ok (.jump target), { m with stack := m.stack.dropLast })
  | .jump a => return (.ok (.jump a), m)
  | .call a =>
    if a.toNat % 2 ≠ 0 then return (.error (.misalignedJump a), m)
    else
      let behind ← Checked.addWord m.pc 2
      if m.stack.length = Registers.stackDepth then return (.error .stackOverflow, m)
      else return (.ok (.jump a), { m with stack := m.stack ++ [behind] })
  | .skip c =>
    let holds ← m.holds c
    return (.ok (.skipIf holds), m)
  | .load x byte =>
    let v ← Checked.put m.v x byte
    return (.ok .next, { m with v })
  | .addByte x byte =>
    let a ← Checked.get m.v x
    let v ← Checked.put m.v x (a + byte)
    return (.ok .next, { m with v })
  | .arithmetic o x y =>
    let v ← m.arithmetic o x y
    return (.ok .next, { m with v })
  | .loadIndex a => return (.ok .next, { m with index := a })
  | .jumpOffset a =>
    let offset ← Checked.get m.v 0
    let target ← Checked.addWord a offset.toUInt16
    return (.ok (.jump target), m)
  | .random x mask =>
    let (word, generator) := m.generator.next
    let v ← Checked.put m.v x (word.toUInt8 &&& mask)
    return (.ok .next, { m with v, generator })
  | .draw x y lines =>
    let col ← Checked.get m.v x
    let row ← Checked.get m.v y
    match ← slice m.memory m.index lines with
    | .error fault => return (.error fault, m)
    | .ok sprite =>
      let (hit, rows) ← drawLines row.toNat col.toNat 0 sprite false m.rows
      let v ← Checked.put m.v 15 hit.toUInt8
      return (.ok .redraw, { m with rows, v })
  | .readDelay x =>
    let v ← Checked.put m.v x m.timers.delay
    return (.ok .next, { m with v })
  | .waitKey x => return (.ok (.wait x), m)
  | .setDelay x =>
    let delay ← Checked.get m.v x
    return (.ok .next, { m with timers := { m.timers with delay } })
  | .setSound x =>
    let sound ← Checked.get m.v x
    return (.ok .next, { m with timers := { m.timers with sound } })
  | .addIndex x =>
    let a ← Checked.get m.v x
    return (.ok .next, { m with index := m.index + a.toUInt16 })
  | .glyph x =>
    let digit ← Checked.get m.v x
    let offset ← Checked.mulWord digit.toUInt16 5
    let index ← Checked.addWord 0 offset
    return (.ok .next, { m with index })
  | .storeDecimal x =>
    let value ← Checked.get m.v x
    match ← write m.memory (Chip8.Machine.decimalDigits value) m.index with
    | .error fault => return (.error fault, m)
    | .ok memory => return (.ok .next, { m with memory })
  | .storeRegisters x =>
    let len ← Checked.addSize x 1
    let block ← Checked.range m.v 0 len
    match ← write m.memory block m.index with
    | .error fault => return (.error fault, m)
    | .ok memory =>
      let index ← pastBlock m.index x
      return (.ok .next, { m with memory, index })
  | .loadRegisters x =>
    let len ← Checked.addSize x 1
    match ← slice m.memory m.index len with
    | .error fault => return (.error fault, m)
    | .ok block =>
      let v ← Checked.copy m.v 0 len block
      let index ← pastBlock m.index x
      return (.ok .next, { m with v, index })

/-! ## Steps and frames -/

def halt (m : Machine) (t : Trap) : Except Trap Step × Machine :=
  (.error t, { m with activity := .halted t })

def follow (m : Machine) (pc opcode : UInt16) : Flow → Checked (Except Trap Step × Machine)
  | .next => do
    let pc ← Checked.addWord pc 2
    return (.ok .executed, { m with pc })
  | .skip => do
    let pc ← Checked.addWord pc 4
    return (.ok .executed, { m with pc })
  | .redraw => do
    let pc ← Checked.addWord pc 2
    return (.ok .redrawn, { m with pc })
  | .jump target =>
    if target.toNat % 2 ≠ 0 then return m.halt ⟨.misalignedJump target, pc, some opcode⟩
    else return (.ok .executed, { m with pc := target })
  | .wait target => do
    let pc ← Checked.addWord pc 2
    return (.ok .executed, { m with pc, activity := .awaitingKey target })

def cycle (m : Machine) : Checked (Except Trap Step × Machine) := do
  match ← readWord m.memory m.pc with
  | .error fault => return m.halt ⟨fault, m.pc, none⟩
  | .ok opcode =>
    match decode opcode with
    | none => return m.halt ⟨.unknownOpcode, m.pc, some opcode⟩
    | some i =>
      match ← m.execute i with
      | (.error fault, m') => return m'.halt ⟨fault, m.pc, some opcode⟩
      | (.ok flow, m') => m'.follow m.pc opcode flow

def step (m : Machine) : Checked (Except Trap Step × Machine) :=
  match m.activity with
  | .running => m.cycle
  | .awaitingKey _ => return (.ok .awaitingKey, m)
  | .halted t => return (.error t, m)

def tick (m : Machine) : Machine := { m with timers := m.timers.tick }

def isAwaitingKey (m : Machine) : Bool :=
  match m.activity with
  | .awaitingKey _ => true
  | _ => false

/-- The end of a frame in which some instructions were carried out. -/
def endFrame (m : Machine) (executed : UInt32) (redraw : Bool) :
    Except Trap FrameReport × Machine :=
  let m := m.tick
  (.ok ⟨executed.toNat, redraw, m.timers.soundActive, m.isAwaitingKey⟩, m)

/-- Up to a number of steps, with the instructions counted in a word. -/
def frameSteps : Nat → (executed : UInt32) → (redraw : Bool) → Machine →
    Checked (Except Trap FrameReport × Machine)
  | 0, executed, redraw, m => return m.endFrame executed redraw
  | k + 1, executed, redraw, m => do
    match ← m.step with
    | (.error t, m') => return (.error t, m')
    | (.ok .executed, m') =>
      let executed ← Checked.addCount executed 1
      frameSteps k executed redraw m'
    | (.ok .redrawn, m') =>
      let executed ← Checked.addCount executed 1
      frameSteps k executed true m'
    | (.ok .awaitingKey, m') => return m'.endFrame executed redraw

def runFrame (m : Machine) : Checked (Except Trap FrameReport × Machine) :=
  frameSteps m.config.cyclesPerFrame.toNat 0 false m

/-! ## Operations -/

def powerOn (config : Config) (entropy : ChaCha.Key) : Checked Machine := do
  let memory ← powerOnMemory
  return {
    memory
    v := List.replicate 16 0
    index := 0
    pc := 0x200
    stack := []
    timers := {}
    rows := List.replicate Screen.height 0
    held := 0
    activity := .running
    config
    generator := { key := config.seed.elim entropy Generator.keyOfSeed } }

def reset (m : Machine) : Checked Machine := do
  let memory ← powerOnMemory
  return { m with
    memory
    v := List.replicate 16 0
    index := 0
    pc := 0x200
    stack := []
    timers := {}
    rows := List.replicate Screen.height 0
    held := 0
    activity := .running }

def load (m : Machine) (program : List UInt8) : Checked (Except Error Unit × Machine) := do
  match ← loadProgram m.memory program with
  | .error e => return (.error e, m)
  | .ok memory => return (.ok (), { m with memory })

def keyDown (m : Machine) (code : UInt8) : Checked (Except Error Unit × Machine) := do
  if 16 ≤ code.toNat then return (.error (.invalidKey code), m)
  else
    let held ← press m.held code
    let m := { m with held }
    match m.activity with
    | .awaitingKey target =>
      let v ← Checked.put m.v target code
      return (.ok (), { m with v, activity := .running })
    | _ => return (.ok (), m)

def keyUp (m : Machine) (code : UInt8) : Checked (Except Error Unit × Machine) := do
  if 16 ≤ code.toNat then return (.error (.invalidKey code), m)
  else
    let held ← release m.held code
    return (.ok (), { m with held })

def perform (m : Machine) : Operation → Checked (Except Error Reply × Machine)
  | .load program => do
    let (r, m) ← m.load program
    return (r.map fun _ => .done, m)
  | .step => do
    let (r, m) ← m.step
    return ((r.mapError .trap).map .stepped, m)
  | .runFrame => do
    let (r, m) ← m.runFrame
    return ((r.mapError .trap).map .framed, m)
  | .tick => return (.ok .done, m.tick)
  | .keyDown code => do
    let (r, m) ← m.keyDown code
    return (r.map fun _ => .done, m)
  | .keyUp code => do
    let (r, m) ← m.keyUp code
    return (r.map fun _ => .done, m)
  | .reset => do
    let m ← m.reset
    return (.ok .done, m)

/-- The machine after a list of operations, unless a check has failed on the way. -/
def run (m : Machine) : List Operation → Checked Machine
  | [] => return m
  | op :: ops => do
    let (_, m) ← m.perform op
    run m ops

end Machine

end Chip8.Bare
