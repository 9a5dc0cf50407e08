import Mathlib.Algebra.GroupWithZero.Nat
import Mathlib.Data.List.Forall2
import Chip8.Instruction

/-!
# The instruction table

Every instruction has one of 34 forms.  A form is a word with zeros in the digits that belong to
operands, and its shape says which digits those are.  The table lists the forms as a manual of the
machine does.  It knows nothing of how words are read: operands are plain numbers here, a form
`Fits` those that its digits have room for, and `spell` puts them in.
-/

namespace Chip8

/-- A place for an operand in a word. -/
structure Slot where
  /-- What a one in the operand adds to the word. -/
  weight : Nat
  /-- How many values the operand has. -/
  values : Nat
deriving DecidableEq

/-- Which digits of a word belong to operands: a register `X` the second, a register `Y` the third,
a number `N` the last, `NN` the last two and `NNN` the last three. -/
inductive Shape where
  | plain | x | xy | xnn | xyn | nnn
deriving DecidableEq

namespace Shape

/-- The places for operands, in the order of the listing. -/
def slots : Shape → List Slot
  | plain => []
  | x => [⟨0x100, 16⟩]
  | xy => [⟨0x100, 16⟩, ⟨0x10, 16⟩]
  | xnn => [⟨0x100, 16⟩, ⟨0x1, 256⟩]
  | xyn => [⟨0x100, 16⟩, ⟨0x10, 16⟩, ⟨0x1, 16⟩]
  | nnn => [⟨0x1, 4096⟩]

/-- The digits that belong to no operand, by what a one in them adds to the word. -/
def fixed : Shape → List Nat
  | plain => [0x1000, 0x100, 0x10, 0x1]
  | x => [0x1000, 0x10, 0x1]
  | xy => [0x1000, 0x1]
  | xnn | xyn | nnn => [0x1000]

end Shape

/-- A form of instructions. -/
structure Form where
  name : String
  /-- The word with zeros for its operands. -/
  word : Nat
  shape : Shape
deriving DecidableEq

namespace Form

/-- There are as many operands as the form has places, and each has room in its place. -/
def Fits (f : Form) (operands : List Nat) : Prop :=
  List.Forall₂ (fun o (s : Slot) => o < s.values) operands f.shape.slots

/-- The word of the form with these operands. -/
def spell (f : Form) (operands : List Nat) : Nat :=
  f.word + (List.zipWith (fun o (s : Slot) => s.weight * o) operands f.shape.slots).sum

/-- What a word has in the places for operands. -/
def read (f : Form) (op : UInt16) : List Nat :=
  f.shape.slots.map fun s => op.toNat / s.weight % s.values

/-- A word has the digits of the form, apart from those of operands. -/
def Matches (f : Form) (op : UInt16) : Prop :=
  ∀ weight ∈ f.shape.fixed, op.toNat / weight % 16 = f.word / weight % 16

instance (f : Form) (op : UInt16) : Decidable (f.Matches op) :=
  inferInstanceAs (Decidable (∀ _ ∈ _, _))

/-- All forms. -/
def table : List Form := [
  ⟨"ClearScreen", 0x00E0, .plain⟩, ⟨"Return", 0x00EE, .plain⟩,
  ⟨"Jump", 0x1000, .nnn⟩, ⟨"Call", 0x2000, .nnn⟩,
  ⟨"SkipIfEqImm", 0x3000, .xnn⟩, ⟨"SkipIfNeImm", 0x4000, .xnn⟩, ⟨"SkipIfEq", 0x5000, .xy⟩,
  ⟨"LoadImm", 0x6000, .xnn⟩, ⟨"AddImm", 0x7000, .xnn⟩,
  ⟨"Move", 0x8000, .xy⟩, ⟨"Or", 0x8001, .xy⟩, ⟨"And", 0x8002, .xy⟩, ⟨"Xor", 0x8003, .xy⟩,
  ⟨"Add", 0x8004, .xy⟩, ⟨"Sub", 0x8005, .xy⟩, ⟨"ShiftRight", 0x8006, .xy⟩,
  ⟨"SubReversed", 0x8007, .xy⟩, ⟨"ShiftLeft", 0x800E, .xy⟩,
  ⟨"SkipIfNe", 0x9000, .xy⟩,
  ⟨"LoadIndex", 0xA000, .nnn⟩, ⟨"JumpOffset", 0xB000, .nnn⟩,
  ⟨"Random", 0xC000, .xnn⟩, ⟨"Draw", 0xD000, .xyn⟩,
  ⟨"SkipIfKey", 0xE09E, .x⟩, ⟨"SkipIfNotKey", 0xE0A1, .x⟩,
  ⟨"ReadDelay", 0xF007, .x⟩, ⟨"WaitKey", 0xF00A, .x⟩, ⟨"SetDelay", 0xF015, .x⟩,
  ⟨"SetSound", 0xF018, .x⟩, ⟨"AddIndex", 0xF01E, .x⟩, ⟨"Glyph", 0xF029, .x⟩,
  ⟨"StoreBcd", 0xF033, .x⟩, ⟨"StoreRegs", 0xF055, .x⟩, ⟨"LoadRegs", 0xF065, .x⟩]

end Form

end Chip8
