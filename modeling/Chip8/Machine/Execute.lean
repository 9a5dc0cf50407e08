import Chip8.Machine
import Chip8.Instruction

/-!
# Executing instructions

`Machine.execute` carries out one instruction, apart from moving the program counter; it
answers with a `Flow`, which says where the program goes on.  An instruction that raises a
fault has done nothing.  Where an instruction writes both `VX` and the flag, the flag is
written last, so it wins if `X` is `F`.
-/

namespace Chip8

/-- How a program goes on after an instruction. -/
inductive Flow where
  | next
  | skip
  | jump (target : UInt16)
  /-- With the next instruction, and the screen has changed. -/
  | redraw
  /-- With the next instruction, once a key has gone down. -/
  | wait (target : Register)
deriving DecidableEq, Inhabited

def Flow.skipIf (holds : Bool) : Flow := if holds then .skip else .next

namespace Machine

def holds (m : Machine) : Condition → Bool
  | .byteIs x b => m.registers.get x = b
  | .byteIsNot x b => m.registers.get x ≠ b
  | .same x y => m.registers.get x = m.registers.get y
  | .differ x y => m.registers.get x ≠ m.registers.get y
  | .keyHeld x => m.keypad.isPressed (m.registers.get x)
  | .keyFree x => !m.keypad.isPressed (m.registers.get x)

/-- The value that a shift of `VX` by `VY` works on. -/
def shiftOperand (m : Machine) (x y : Register) : UInt8 :=
  match m.config.shift with
  | .vy => m.registers.get y
  | .vx => m.registers.get x

/-- The registers after an operation on `VX` and `VY`. -/
def arithmetic (m : Machine) (o : Arithmetic) (x y : Register) : Registers :=
  let r := m.registers
  let a := r.get x
  let b := r.get y
  let q := m.shiftOperand x y
  match o with
  | .copy => r.set x b
  | .or => r.set x (a ||| b)
  | .and => r.set x (a &&& b)
  | .xor => r.set x (a ^^^ b)
  | .add => (r.set x (a + b)).setFlag (256 ≤ a.toNat + b.toNat)
  | .sub => (r.set x (a - b)).setFlag (b ≤ a)
  | .subFrom => (r.set x (b - a)).setFlag (a ≤ b)
  | .shiftRight => (r.set x (q >>> 1)).set .flag (q &&& 1)
  | .shiftLeft => (r.set x (q <<< 1)).set .flag (q >>> 7)

/-- The hundreds, tens and ones of a byte. -/
def decimalDigits (b : UInt8) : List UInt8 := [b / 100, b / 10 % 10, b % 10]

def word (a : Address) : UInt16 := UInt16.ofNat a

/-- The registers with the index moved past the block `V0` to `VX`. -/
def pastBlock (r : Registers) (x : Register) : Registers :=
  { r with index := r.index + UInt16.ofNat (x + 1) }

@[simp] theorem pc_pastBlock (r : Registers) (x : Register) : (pastBlock r x).pc = r.pc := rfl

@[simp] theorem stack_pastBlock (r : Registers) (x : Register) :
    (pastBlock r x).stack = r.stack := rfl

def execute (m : Machine) (i : Instruction) : Except Fault (Flow × Machine) :=
  let r := m.registers
  match i with
  | .clear => .ok (.redraw, { m with screen := .blank })
  | .ret => do
    let (target, registers) ← r.pop
    return (.jump target, { m with registers })
  | .jump a => .ok (.jump (word a), m)
  | .call a =>
    if a.val % 2 ≠ 0 then .error (.misalignedJump (word a))
    else do
      let registers ← r.push (r.pc + 2)
      return (.jump (word a), { m with registers })
  | .skip c => .ok (.skipIf (m.holds c), m)
  | .load x b => .ok (.next, { m with registers := r.set x b })
  | .addByte x b => .ok (.next, { m with registers := r.set x (r.get x + b) })
  | .arithmetic o x y => .ok (.next, { m with registers := m.arithmetic o x y })
  | .loadIndex a => .ok (.next, { m with registers := { r with index := word a } })
  | .jumpOffset a => .ok (.jump (word a + (r.get .first).toUInt16), m)
  | .random x mask =>
    let (w, generator) := m.generator.next
    .ok (.next, { m with registers := r.set x (w.toUInt8 &&& mask), generator })
  | .draw x y n => do
    let sprite ← m.memory.slice r.index n
    let (hit, screen) := m.screen.draw (r.get y).toNat (r.get x).toNat sprite
    return (.redraw, { m with screen, registers := r.setFlag hit })
  | .readDelay x => .ok (.next, { m with registers := r.set x m.timers.delay })
  | .waitKey x => .ok (.wait x, m)
  | .setDelay x => .ok (.next, { m with timers := { m.timers with delay := r.get x } })
  | .setSound x => .ok (.next, { m with timers := { m.timers with sound := r.get x } })
  | .addIndex x =>
    .ok (.next, { m with registers := { r with index := r.index + (r.get x).toUInt16 } })
  | .glyph x => .ok (.next, { m with registers := { r with index := Font.address (r.get x) } })
  | .storeDecimal x => do
    let memory ← m.memory.write (decimalDigits (r.get x)) r.index
    return (.next, { m with memory })
  | .storeRegisters x => do
    let memory ← m.memory.write (r.upTo x) r.index
    return (.next, { m with memory, registers := pastBlock r x })
  | .loadRegisters x => do
    let values ← m.memory.slice r.index (x + 1)
    return (.next, { m with registers := pastBlock (r.setFirst values) x })

end Machine

end Chip8
