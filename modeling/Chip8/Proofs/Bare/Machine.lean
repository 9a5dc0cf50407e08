import Chip8.Machine.Run
import Chip8.Proofs.Bare.Checked

/-!
# The bare machine

The machine again, without the types that keep `Chip8.Machine` out of trouble.  Memory,
registers and rows are lists of any length, registers are named by any number, the keypad
is one word with a bit for each key, and every access and every sum is checked.  An
instruction hands back the machine it leaves behind even if it raises a fault, so what it
had written by then is not undone.

Nothing here says that the checks succeed.  That is what `Chip8.Proofs.Bare.Agreement`
shows, by comparison with `Chip8.Machine`.
-/

namespace Chip8.Bare

/-! ## Instructions -/

inductive Condition where
  | byteIs (x : Nat) (byte : UInt8)
  | byteIsNot (x : Nat) (byte : UInt8)
  | same (x y : Nat)
  | differ (x y : Nat)
  | keyHeld (x : Nat)
  | keyFree (x : Nat)

/-- An instruction whose operands are plain numbers and words. -/
inductive Instruction where
  | clear
  | ret
  | jump (target : UInt16)
  | call (target : UInt16)
  | skip (condition : Condition)
  | load (x : Nat) (byte : UInt8)
  | addByte (x : Nat) (byte : UInt8)
  | arithmetic (operation : Arithmetic) (x y : Nat)
  | loadIndex (address : UInt16)
  | jumpOffset (base : UInt16)
  | random (x : Nat) (mask : UInt8)
  | draw (x y : Nat) (lines : Nat)
  | readDelay (x : Nat)
  | waitKey (x : Nat)
  | setDelay (x : Nat)
  | setSound (x : Nat)
  | addIndex (x : Nat)
  | glyph (x : Nat)
  | storeDecimal (x : Nat)
  | storeRegisters (x : Nat)
  | loadRegisters (x : Nat)

/-- The hexadecimal digit of a word whose lowest bit is bit `shift`. -/
def digit (op shift : UInt16) : Nat := ((op >>> shift) &&& 0xF).toNat

/-- The last two digits. -/
def lowByte (op : UInt16) : UInt8 := (op &&& 0xFF).toUInt8

/-- The last three digits. -/
def address (op : UInt16) : UInt16 := op &&& 0xFFF

/-- The instruction of family `F` with a given low byte. -/
def decodeMisc? (x : Nat) : Nat → Option Instruction
  | 0x07 => some (.readDelay x)
  | 0x0A => some (.waitKey x)
  | 0x15 => some (.setDelay x)
  | 0x18 => some (.setSound x)
  | 0x1E => some (.addIndex x)
  | 0x29 => some (.glyph x)
  | 0x33 => some (.storeDecimal x)
  | 0x55 => some (.storeRegisters x)
  | 0x65 => some (.loadRegisters x)
  | _ => none

/-- The instruction that a word stands for, if any, read by shifts and masks. -/
def decode (op : UInt16) : Option Instruction :=
  let x := digit op 8
  let y := digit op 4
  let n := digit op 0
  let nn := lowByte op
  let nnn := address op
  match digit op 12 with
  | 0x0 => if op = 0x00E0 then some .clear else if op = 0x00EE then some .ret else none
  | 0x1 => some (.jump nnn)
  | 0x2 => some (.call nnn)
  | 0x3 => some (.skip (.byteIs x nn))
  | 0x4 => some (.skip (.byteIsNot x nn))
  | 0x5 => if n = 0 then some (.skip (.same x y)) else none
  | 0x6 => some (.load x nn)
  | 0x7 => some (.addByte x nn)
  | 0x8 => (Arithmetic.ofDigit? n).map fun o => .arithmetic o x y
  | 0x9 => if n = 0 then some (.skip (.differ x y)) else none
  | 0xA => some (.loadIndex nnn)
  | 0xB => some (.jumpOffset nnn)
  | 0xC => some (.random x nn)
  | 0xD => some (.draw x y n)
  | 0xE =>
    if nn = 0x9E then some (.skip (.keyHeld x))
    else if nn = 0xA1 then some (.skip (.keyFree x))
    else none
  | _ => decodeMisc? x nn.toNat

/-! ## State -/

inductive Activity where
  | running
  | awaitingKey (target : Nat)
  | halted (trap : Trap)

/-- A machine of plain lists and words. -/
structure Machine where
  memory : List UInt8
  /-- The general registers. -/
  v : List UInt8
  index : UInt16
  pc : UInt16
  /-- Return addresses, the latest call last. -/
  stack : List UInt16
  timers : Timers
  /-- The rows of the screen, leftmost pixel in the most significant bit. -/
  rows : List (BitVec 64)
  /-- Which keys are held, one bit for each. -/
  held : UInt16
  activity : Activity
  config : Config
  generator : Generator

/-! ## Memory -/

/-- The bounds of a range of addresses, or the fault of one that does not fit. -/
def bounds (addr : UInt16) (len : Nat) : Checked (Except Fault (Nat × Nat)) := do
  let stop ← Checked.addSize addr.toNat len
  if Memory.capacity < stop then
    return .error (.addressOutOfRange (max addr.toNat Memory.capacity))
  else
    return .ok (addr.toNat, stop)

def slice (bytes : List UInt8) (addr : UInt16) (len : Nat) :
    Checked (Except Fault (List UInt8)) := do
  match ← bounds addr len with
  | .error fault => return .error fault
  | .ok (start, stop) =>
    let content ← Checked.range bytes start stop
    return .ok content

def write (bytes data : List UInt8) (addr : UInt16) : Checked (Except Fault (List UInt8)) := do
  match ← bounds addr data.length with
  | .error fault => return .error fault
  | .ok (start, stop) =>
    let bytes ← Checked.copy bytes start stop data
    return .ok bytes

def readWord (bytes : List UInt8) (addr : UInt16) : Checked (Except Fault UInt16) := do
  match ← slice bytes addr 2 with
  | .error fault => return .error fault
  | .ok word =>
    let high ← Checked.get word 0
    let low ← Checked.get word 1
    return .ok (UInt16.ofNat (256 * high.toNat + low.toNat))

/-- Memory at power-on. -/
def powerOnMemory : Checked (List UInt8) := do
  let stop ← Checked.addSize 0 Font.glyphs.length
  Checked.copy (List.replicate Memory.capacity 0) 0 stop Font.glyphs

def loadProgram (bytes program : List UInt8) : Checked (Except Error (List UInt8)) := do
  if Memory.maxProgramBytes < program.length then
    return .error (.programTooLarge program.length Memory.maxProgramBytes)
  else
    let stop ← Checked.addSize Memory.programStart program.length
    let bytes ← Checked.copy bytes Memory.programStart stop program
    return .ok bytes

/-! ## Keys -/

def press (held : UInt16) (code : UInt8) : Checked UInt16 := do
  let bit ← Checked.bit code
  return held ||| bit

def release (held : UInt16) (code : UInt8) : Checked UInt16 := do
  let bit ← Checked.bit code
  return held &&& ~~~bit

/-- Whether the key with a code is held; of a code above fifteen no bit is asked for. -/
def isPressed (held : UInt16) (code : UInt8) : Checked Bool := do
  if 16 ≤ code.toNat then
    return false
  else
    let bit ← Checked.bit code
    return (held &&& bit) ≠ 0

/-! ## Drawing -/

/-- Draws the lines of a sprite from line `r` of it on, at row `top` and column `col`. -/
def drawLines (top col : Nat) : (r : Nat) → (sprite : List UInt8) → (hit : Bool) →
    List (BitVec 64) → Checked (Bool × List (BitVec 64))
  | _, [], hit, rows => return (hit, rows)
  | r, line :: rest, hit, rows => do
    let bits := (line.toBitVec.setWidth 64 <<< 56).rotateRight (col % Screen.width)
    let row ← Checked.addSize top r
    let old ← Checked.get rows (row % Screen.height)
    let rows ← Checked.put rows (row % Screen.height) (old ^^^ bits)
    drawLines top col (r + 1) rest (hit || old &&& bits ≠ 0) rows

end Chip8.Bare
