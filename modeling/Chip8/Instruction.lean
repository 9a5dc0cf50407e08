import Chip8.Registers

/-!
# Instructions

What a program can ask of the machine, apart from how it is spelled in memory.  Operands
are registers, bytes, sprite heights below sixteen and addresses of twelve bits, so an
instruction never names a register or an address that does not exist.  `mnemonic` and
`operands` give the listing of an instruction.
-/

namespace Chip8

abbrev Address := Fin 4096

/-- The operations `8XY0` to `8XYE` on two registers, with the result in `VX`. -/
inductive Arithmetic where
  | copy | or | and | xor
  /-- The sum, with the carry in the flag. -/
  | add
  /-- `VX - VY`, with the flag raised unless it borrows. -/
  | sub
  /-- Half the shift operand, with the lost bit in the flag. -/
  | shiftRight
  /-- `VY - VX`, with the flag raised unless it borrows. -/
  | subFrom
  /-- Twice the shift operand, with the lost bit in the flag. -/
  | shiftLeft
deriving DecidableEq, Inhabited

/-- The conditions under which the next instruction is skipped. -/
inductive Condition where
  | byteIs (x : Register) (byte : UInt8)
  | byteIsNot (x : Register) (byte : UInt8)
  | same (x y : Register)
  | differ (x y : Register)
  /-- The key whose code is in `VX` is held. -/
  | keyHeld (x : Register)
  /-- The key whose code is in `VX` is not held. -/
  | keyFree (x : Register)
deriving DecidableEq, Inhabited

/-- An instruction. -/
inductive Instruction where
  /-- `00E0` darkens the screen. -/
  | clear
  /-- `00EE` closes the latest call. -/
  | ret
  /-- `1NNN` -/
  | jump (target : Address)
  /-- `2NNN` -/
  | call (target : Address)
  /-- `3XNN`, `4XNN`, `5XY0`, `9XY0`, `EX9E` and `EXA1` -/
  | skip (condition : Condition)
  /-- `6XNN` -/
  | load (x : Register) (byte : UInt8)
  /-- `7XNN` adds without a carry. -/
  | addByte (x : Register) (byte : UInt8)
  /-- `8XY0` to `8XY7` and `8XYE` -/
  | arithmetic (operation : Arithmetic) (x y : Register)
  /-- `ANNN` -/
  | loadIndex (address : Address)
  /-- `BNNN` jumps to `NNN + V0`. -/
  | jumpOffset (base : Address)
  /-- `CXNN` takes a random byte and keeps the bits of `NN`. -/
  | random (x : Register) (mask : UInt8)
  /-- `DXYN` draws `N` lines from the index at column `VX` and row `VY`. -/
  | draw (x y : Register) (lines : Fin 16)
  /-- `FX07` -/
  | readDelay (x : Register)
  /-- `FX0A` waits for a key and puts its code into `VX`. -/
  | waitKey (x : Register)
  /-- `FX15` -/
  | setDelay (x : Register)
  /-- `FX18` -/
  | setSound (x : Register)
  /-- `FX1E` -/
  | addIndex (x : Register)
  /-- `FX29` points the index at the glyph of the digit in `VX`. -/
  | glyph (x : Register)
  /-- `FX33` writes the three decimal digits of `VX` at the index. -/
  | storeDecimal (x : Register)
  /-- `FX55` writes `V0` to `VX` at the index and moves the index past them. -/
  | storeRegisters (x : Register)
  /-- `FX65` reads `V0` to `VX` at the index and moves the index past them. -/
  | loadRegisters (x : Register)
deriving DecidableEq, Inhabited

def Arithmetic.mnemonic : Arithmetic → String
  | copy => "Move"
  | or => "Or"
  | and => "And"
  | xor => "Xor"
  | add => "Add"
  | sub => "Sub"
  | shiftRight => "ShiftRight"
  | subFrom => "SubReversed"
  | shiftLeft => "ShiftLeft"

def Condition.mnemonic : Condition → String
  | byteIs .. => "SkipIfEqImm"
  | byteIsNot .. => "SkipIfNeImm"
  | same .. => "SkipIfEq"
  | differ .. => "SkipIfNe"
  | keyHeld _ => "SkipIfKey"
  | keyFree _ => "SkipIfNotKey"

/-- The operands of a skip in the order of its listing. -/
def Condition.operands : Condition → List Nat
  | byteIs x b => [x, b.toNat]
  | byteIsNot x b => [x, b.toNat]
  | same x y => [x, y]
  | differ x y => [x, y]
  | keyHeld x => [x]
  | keyFree x => [x]

namespace Instruction

def mnemonic : Instruction → String
  | clear => "ClearScreen"
  | ret => "Return"
  | jump _ => "Jump"
  | call _ => "Call"
  | skip c => c.mnemonic
  | load .. => "LoadImm"
  | addByte .. => "AddImm"
  | arithmetic o _ _ => o.mnemonic
  | loadIndex _ => "LoadIndex"
  | jumpOffset _ => "JumpOffset"
  | random .. => "Random"
  | draw .. => "Draw"
  | readDelay _ => "ReadDelay"
  | waitKey _ => "WaitKey"
  | setDelay _ => "SetDelay"
  | setSound _ => "SetSound"
  | addIndex _ => "AddIndex"
  | glyph _ => "Glyph"
  | storeDecimal _ => "StoreBcd"
  | storeRegisters _ => "StoreRegs"
  | loadRegisters _ => "LoadRegs"

/-- The operands in the order of the listing. -/
def operands : Instruction → List Nat
  | clear | ret => []
  | jump a | call a | loadIndex a | jumpOffset a => [a]
  | skip c => c.operands
  | load x b | addByte x b | random x b => [x, b.toNat]
  | arithmetic _ x y => [x, y]
  | draw x y n => [x, y, n]
  | readDelay x | waitKey x | setDelay x | setSound x | addIndex x | glyph x
  | storeDecimal x | storeRegisters x | loadRegisters x => [x]

/-- The listing of an instruction: its name, and its operands in decimal if it has any. -/
def describe (i : Instruction) : String :=
  match i.operands with
  | [] => i.mnemonic
  | os => i.mnemonic ++ "(" ++ ", ".intercalate (os.map toString) ++ ")"

end Instruction

end Chip8
