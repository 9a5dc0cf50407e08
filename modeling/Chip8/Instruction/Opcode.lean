import Chip8.Instruction

/-!
# Opcodes

An instruction is spelled as one word of sixteen bits.  The highest four bits name a
family, and the rest holds the operands: `X` and `Y` in the next two digits, `N` in the
last, `NN` in the last two and `NNN` in the last three.  `decode` reads a word and
`encode` spells an instruction.  Words of no defined pattern, the calls of machine routines
`0NNN` among them, stand for nothing.
-/

namespace Chip8

namespace Opcode

def family (op : UInt16) : Nat := op.toNat / 4096

/-- The register in the second digit. -/
def x (op : UInt16) : Register := ⟨op.toNat / 256 % 16, Nat.mod_lt _ (by decide)⟩

/-- The register in the third digit. -/
def y (op : UInt16) : Register := ⟨op.toNat / 16 % 16, Nat.mod_lt _ (by decide)⟩

def n (op : UInt16) : Fin 16 := ⟨op.toNat % 16, Nat.mod_lt _ (by decide)⟩

def nn (op : UInt16) : UInt8 := UInt8.ofNat (op.toNat % 256)

def nnn (op : UInt16) : Address := ⟨op.toNat % 4096, Nat.mod_lt _ (by decide)⟩

end Opcode

/-- The operation that the last digit of `8XYN` stands for. -/
def Arithmetic.ofDigit? : Nat → Option Arithmetic
  | 0x0 => some copy
  | 0x1 => some or
  | 0x2 => some and
  | 0x3 => some xor
  | 0x4 => some add
  | 0x5 => some sub
  | 0x6 => some shiftRight
  | 0x7 => some subFrom
  | 0xE => some shiftLeft
  | _ => none

/-- The last digit of `8XYN` for an operation. -/
def Arithmetic.digit : Arithmetic → Nat
  | copy => 0x0
  | or => 0x1
  | and => 0x2
  | xor => 0x3
  | add => 0x4
  | sub => 0x5
  | shiftRight => 0x6
  | subFrom => 0x7
  | shiftLeft => 0xE

namespace Instruction

open Opcode

/-- The instruction of family `F` with `NN` in its last two digits. -/
def decodeMisc? (op : UInt16) : Nat → Option Instruction
  | 0x07 => some (.readDelay (x op))
  | 0x0A => some (.waitKey (x op))
  | 0x15 => some (.setDelay (x op))
  | 0x18 => some (.setSound (x op))
  | 0x1E => some (.addIndex (x op))
  | 0x29 => some (.glyph (x op))
  | 0x33 => some (.storeDecimal (x op))
  | 0x55 => some (.storeRegisters (x op))
  | 0x65 => some (.loadRegisters (x op))
  | _ => none

/-- The instruction that a word stands for, if any. -/
def decode (op : UInt16) : Option Instruction :=
  match family op with
  | 0x0 => if op = 0x00E0 then some .clear else if op = 0x00EE then some .ret else none
  | 0x1 => some (.jump (nnn op))
  | 0x2 => some (.call (nnn op))
  | 0x3 => some (.skip (.byteIs (x op) (nn op)))
  | 0x4 => some (.skip (.byteIsNot (x op) (nn op)))
  | 0x5 => if (n op).val = 0 then some (.skip (.same (x op) (y op))) else none
  | 0x6 => some (.load (x op) (nn op))
  | 0x7 => some (.addByte (x op) (nn op))
  | 0x8 => (Arithmetic.ofDigit? (n op)).map fun o => .arithmetic o (x op) (y op)
  | 0x9 => if (n op).val = 0 then some (.skip (.differ (x op) (y op))) else none
  | 0xA => some (.loadIndex (nnn op))
  | 0xB => some (.jumpOffset (nnn op))
  | 0xC => some (.random (x op) (nn op))
  | 0xD => some (.draw (x op) (y op) (n op))
  | 0xE =>
    if nn op = 0x9E then some (.skip (.keyHeld (x op)))
    else if nn op = 0xA1 then some (.skip (.keyFree (x op)))
    else none
  | _ => decodeMisc? op (nn op).toNat

def code : Instruction → Nat
  | clear => 0x00E0
  | ret => 0x00EE
  | jump a => 0x1000 + a
  | call a => 0x2000 + a
  | skip (.byteIs x b) => 0x3000 + 0x100 * x + b.toNat
  | skip (.byteIsNot x b) => 0x4000 + 0x100 * x + b.toNat
  | skip (.same x y) => 0x5000 + 0x100 * x + 0x10 * y
  | load x b => 0x6000 + 0x100 * x + b.toNat
  | addByte x b => 0x7000 + 0x100 * x + b.toNat
  | arithmetic o x y => 0x8000 + 0x100 * x + 0x10 * y + o.digit
  | skip (.differ x y) => 0x9000 + 0x100 * x + 0x10 * y
  | loadIndex a => 0xA000 + a
  | jumpOffset a => 0xB000 + a
  | random x b => 0xC000 + 0x100 * x + b.toNat
  | draw x y n => 0xD000 + 0x100 * x + 0x10 * y + n
  | skip (.keyHeld x) => 0xE09E + 0x100 * x
  | skip (.keyFree x) => 0xE0A1 + 0x100 * x
  | readDelay x => 0xF007 + 0x100 * x
  | waitKey x => 0xF00A + 0x100 * x
  | setDelay x => 0xF015 + 0x100 * x
  | setSound x => 0xF018 + 0x100 * x
  | addIndex x => 0xF01E + 0x100 * x
  | glyph x => 0xF029 + 0x100 * x
  | storeDecimal x => 0xF033 + 0x100 * x
  | storeRegisters x => 0xF055 + 0x100 * x
  | loadRegisters x => 0xF065 + 0x100 * x

def encode (i : Instruction) : UInt16 := UInt16.ofNat i.code

end Instruction

end Chip8
