import Chip8.Proofs.Bare.Image
import Chip8.Proofs.Control

/-!
# Instructions on the bare machine

An instruction does to the image of a machine what it does to the machine, and never
panics.  Of the machine this needs one fact: its program counter is where an instruction
was fetched, so that the return address of a call fits its word.  The other sums are in
range since operands are short, and since a block was found in memory before the index
moves past it.
-/

namespace Chip8

namespace Registers

theorem put_bare (r : Registers) (x : Register) (value : UInt8) :
    Checked.put r.v.toList x value = .ok (r.set x value).v.toList :=
  Table.put_toList r.v x value

theorem putFlag_bare (r : Registers) (value : UInt8) :
    Checked.put r.v.toList 15 value = .ok (r.set .flag value).v.toList :=
  put_bare r .flag value

end Registers

namespace Machine

/-- The image of a machine whose registers were replaced, with control left where it was. -/
theorem bare_withRegisters (m : Machine) {r : Registers} {index : UInt16}
    (hpc : r.pc = m.registers.pc) (hstack : r.stack = m.registers.stack)
    (hindex : r.index = index) :
    Machine.bare { m with registers := r } = { m.bare with v := r.v.toList, index := index } := by
  rw [bare, hpc, hstack, hindex]
  rfl

/-- The image of what an instruction gives.  After a fault the machine is as it was. -/
def bareAnswer (m : Machine) :
    Except Fault (Flow × Machine) → Except Fault Bare.Flow × Bare.Machine
  | .ok (flow, m') => (.ok flow.bare, m'.bare)
  | .error fault => (.error fault, m.bare)

/-! ## Operands -/

theorem get_bare (m : Machine) (x : Register) :
    Checked.get m.bare.v x = .ok (m.registers.get x) :=
  Table.get_toList m.registers.v x

theorem put_bare (m : Machine) (x : Register) (value : UInt8) :
    Checked.put m.bare.v x value = .ok (m.registers.set x value).v.toList :=
  m.registers.put_bare x value

theorem holds_bare (m : Machine) (c : Condition) : m.bare.holds c.bare = .ok (m.holds c) := by
  cases c with
  | byteIs x byte => rw [Condition.bare, Bare.Machine.holds, get_bare]; rfl
  | byteIsNot x byte => rw [Condition.bare, Bare.Machine.holds, get_bare]; rfl
  | same x y => rw [Condition.bare, Bare.Machine.holds, get_bare, get_bare]; rfl
  | differ x y => rw [Condition.bare, Bare.Machine.holds, get_bare, get_bare]; rfl
  | keyHeld x =>
    rw [Condition.bare, Bare.Machine.holds, get_bare]
    exact m.keypad.isPressed_bare _
  | keyFree x =>
    have hheld : Bare.isPressed m.bare.held (m.registers.get x) = .ok _ :=
      m.keypad.isPressed_bare _
    rw [Condition.bare, Bare.Machine.holds, get_bare, ok_bind, hheld]
    rfl

theorem shiftOperand_bare (m : Machine) (x y : Register) :
    m.bare.shiftOperand x y = .ok (m.shiftOperand x y) := by
  have hconfig : m.bare.config = m.config := rfl
  rw [Bare.Machine.shiftOperand, shiftOperand, hconfig]
  cases m.config.shift with
  | vy => exact m.get_bare y
  | vx => exact m.get_bare x

theorem arithmetic_bare (m : Machine) (o : Arithmetic) (x y : Register) :
    m.bare.arithmetic o x y = .ok (m.arithmetic o x y).v.toList := by
  cases o with
  | copy => simp only [Bare.Machine.arithmetic, get_bare, ok_bind, put_bare]; rfl
  | or => simp only [Bare.Machine.arithmetic, get_bare, ok_bind, put_bare]; rfl
  | and => simp only [Bare.Machine.arithmetic, get_bare, ok_bind, put_bare]; rfl
  | xor => simp only [Bare.Machine.arithmetic, get_bare, ok_bind, put_bare]; rfl
  | add =>
    simp only [Bare.Machine.arithmetic, get_bare, ok_bind, put_bare, Registers.putFlag_bare]; rfl
  | sub =>
    simp only [Bare.Machine.arithmetic, get_bare, ok_bind, put_bare, Registers.putFlag_bare]; rfl
  | subFrom =>
    simp only [Bare.Machine.arithmetic, get_bare, ok_bind, put_bare, Registers.putFlag_bare]; rfl
  | shiftRight =>
    simp only [Bare.Machine.arithmetic, shiftOperand_bare, ok_bind, put_bare,
      Registers.putFlag_bare]; rfl
  | shiftLeft =>
    simp only [Bare.Machine.arithmetic, shiftOperand_bare, ok_bind, put_bare,
      Registers.putFlag_bare]; rfl

/-- Behind a block that is in memory there is room for the index. -/
theorem pastBlock_bare (r : Registers) (x : Register) (h : Memory.Fits r.index (x + 1)) :
    Bare.Machine.pastBlock r.index x = .ok (pastBlock r x).index := by
  have hfits : r.index.toNat + (x.val + 1) ≤ 4096 := h
  have hx : (UInt16.ofNat x.val).toNat = x.val := by
    rw [UInt16.toNat_ofNat']
    omega
  have hlength : UInt16.ofNat x.val + 1 = UInt16.ofNat (x.val + 1) := (UInt16.ofNat_add _ 1).symm
  have hone : (1 : UInt16).toNat = 1 := rfl
  have hlen : (UInt16.ofNat (x.val + 1)).toNat = x.val + 1 := by
    rw [UInt16.toNat_ofNat']
    omega
  rw [Bare.Machine.pastBlock, Checked.addWord_eq_ok (by omega), ok_bind, hlength,
    Checked.addWord_eq_ok (by omega), pastBlock]

theorem glyph_bare (digit : UInt8) :
    (Checked.mulWord digit.toUInt16 5 >>= Checked.addWord 0) = .ok (Font.address digit) := by
  have hdigit := digit.toNat_lt
  have hfive : (5 : UInt16).toNat = 5 := rfl
  have hzero : (0 : UInt16).toNat = 0 := rfl
  have hmul : (digit.toUInt16 * 5).toNat = digit.toNat * 5 := by
    rw [UInt16.toNat_mul, UInt8.toNat_toUInt16, hfive]
    omega
  have haddress : digit.toUInt16 * 5 = Font.address digit := by
    rw [← UInt16.toNat_inj, hmul, Font.address, UInt16.toNat_ofNat']
    change _ = digit.toNat * 5 % 2 ^ 16
    omega
  rw [Checked.mulWord_eq_ok (by rw [UInt8.toNat_toUInt16, hfive]; omega), ok_bind,
    Checked.addWord_eq_ok (by omega), UInt16.zero_add, haddress]

theorem skipIf_bare (b : Bool) : (Flow.skipIf b).bare = Bare.Flow.skipIf b := by
  cases b <;> rfl

/-! ## Execution -/

section Execute

variable (m : Machine)

theorem execute_ret_bare : m.bare.execute .ret = .ok (m.bareAnswer (m.execute .ret)) := by
  have hlast : m.bare.stack.getLast? = m.registers.stack.head? := by
    rw [bare, List.getLast?_reverse]
  rw [Bare.Machine.execute, hlast, execute, Registers.pop]
  cases hs : m.registers.stack with
  | nil => rfl
  | cons target rest =>
    have hdrop : m.bare.stack.dropLast = rest.reverse := by
      rw [bare, hs, List.reverse_cons, List.dropLast_concat]
    dsimp only [List.head?_cons]
    rw [hdrop]
    rfl

/-- A call adds to the counter before it looks at the stack, so the sum is in range whether
or not there is room. -/
theorem execute_call_bare (hpc : m.registers.pc.toNat ≤ 0xFFE) (a : Address) :
    m.bare.execute (.call (word a)) = .ok (m.bareAnswer (m.execute (.call a))) := by
  have hsum : Checked.addWord m.bare.pc 2 = .ok (m.registers.pc + 2) := by
    refine Checked.addWord_eq_ok (?_ : m.registers.pc.toNat + 2 < 65536)
    omega
  have hlen : m.bare.stack.length = m.registers.stack.length := List.length_reverse
  have hpush : m.bare.stack ++ [m.registers.pc + 2] =
      ((m.registers.pc + 2) :: m.registers.stack).reverse := List.reverse_cons.symm
  rw [Bare.Machine.execute, toNat_word, execute]
  split
  · rfl
  · rw [hsum, ok_bind, hlen, hpush, Registers.push]
    split
    · rfl
    · rfl

theorem execute_jumpOffset_bare (a : Address) :
    m.bare.execute (.jumpOffset (word a)) = .ok (m.bareAnswer (m.execute (.jumpOffset a))) := by
  have hroom : (word a).toNat + (m.registers.get .first).toUInt16.toNat < 65536 := by
    have ha := a.isLt
    have hb := (m.registers.get .first).toNat_lt
    rw [toNat_word, UInt8.toNat_toUInt16]
    omega
  have hget : Checked.get m.bare.v 0 = .ok (m.registers.get .first) := m.get_bare .first
  rw [Bare.Machine.execute, hget, ok_bind, Checked.addWord_eq_ok hroom]
  rfl

theorem execute_draw_bare (x y : Register) (n : Fin 16) :
    m.bare.execute (.draw x y n) = .ok (m.bareAnswer (m.execute (.draw x y n))) := by
  have hn : n.val < 16 := n.isLt
  have hslice : Bare.slice m.bare.memory m.bare.index n = .ok _ :=
    m.memory.slice_bare m.registers.index (Nat.le_trans (Nat.le_of_lt hn) (by decide))
  rw [Bare.Machine.execute, get_bare, ok_bind, get_bare, ok_bind, hslice, ok_bind, execute]
  cases hs : m.memory.slice m.registers.index n with
  | error fault => rfl
  | ok sprite =>
    obtain ⟨-, hsprite⟩ := Memory.slice_eq_ok_iff.1 hs
    have hlines : (m.registers.get y).toNat + 0 + sprite.length < 18446744073709551616 := by
      have hrow := (m.registers.get y).toNat_lt
      rw [hsprite, Memory.length_peek]
      omega
    have hdraw : Bare.drawLines (m.registers.get y).toNat (m.registers.get x).toNat 0 sprite false
        m.bare.rows = .ok ((m.screen.draw _ _ sprite).map id fun s => s.rows.toList) :=
      Screen.drawLines_bare _ _ 0 sprite false m.screen hlines
    dsimp only
    rw [hdraw, ok_bind, ok_bind]
    generalize m.screen.draw _ _ sprite = p
    obtain ⟨hit, screen⟩ := p
    have hflag : Checked.put m.bare.v 15 hit.toUInt8 = .ok (m.registers.setFlag hit).v.toList :=
      m.registers.putFlag_bare _
    dsimp only [Prod.map, id]
    rw [hflag]
    rfl

theorem execute_glyph_bare (x : Register) :
    m.bare.execute (.glyph x) = .ok (m.bareAnswer (m.execute (.glyph x))) := by
  rw [Bare.Machine.execute, get_bare, ok_bind, ← bind_assoc, glyph_bare]
  rfl

theorem execute_storeDecimal_bare (x : Register) :
    m.bare.execute (.storeDecimal x) = .ok (m.bareAnswer (m.execute (.storeDecimal x))) := by
  have hlen : (decimalDigits (m.registers.get x)).length = 3 := rfl
  have hwrite : Bare.write m.bare.memory (decimalDigits (m.registers.get x)) m.bare.index = .ok _ :=
    m.memory.write_bare _ m.registers.index (by rw [hlen]; decide)
  rw [Bare.Machine.execute, get_bare, ok_bind, hwrite, ok_bind, execute]
  cases m.memory.write (decimalDigits (m.registers.get x)) m.registers.index with
  | error fault => rfl
  | ok memory => rfl

theorem execute_storeRegisters_bare (x : Register) :
    m.bare.execute (.storeRegisters x) = .ok (m.bareAnswer (m.execute (.storeRegisters x))) := by
  have hx : x.val + 1 ≤ 16 := x.isLt
  have hlen : (m.registers.upTo x).length ≤ Memory.capacity := by
    rw [Registers.length_upTo]
    exact Nat.le_trans hx (by decide)
  have hblock : Checked.range m.bare.v 0 (x + 1) = .ok (m.registers.upTo x) :=
    m.registers.range_upTo x
  have hwrite : Bare.write m.bare.memory (m.registers.upTo x) m.bare.index = .ok _ :=
    m.memory.write_bare _ m.registers.index hlen
  rw [Bare.Machine.execute, Checked.addSize_eq_ok (by omega), ok_bind, hblock, ok_bind, hwrite,
    ok_bind, execute]
  cases hw : m.memory.write (m.registers.upTo x) m.registers.index with
  | error fault => rfl
  | ok memory =>
    obtain ⟨hfits, -⟩ := Memory.write_eq_ok_iff.1 hw
    rw [Registers.length_upTo] at hfits
    have hindex : Bare.Machine.pastBlock m.bare.index x = .ok _ :=
      pastBlock_bare m.registers x hfits
    dsimp only [Except.map]
    rw [hindex]
    rfl

theorem execute_loadRegisters_bare (x : Register) :
    m.bare.execute (.loadRegisters x) = .ok (m.bareAnswer (m.execute (.loadRegisters x))) := by
  have hx : x.val + 1 ≤ 16 := x.isLt
  have hslice : Bare.slice m.bare.memory m.bare.index (x + 1) = .ok _ :=
    m.memory.slice_bare m.registers.index (Nat.le_trans hx (by decide))
  rw [Bare.Machine.execute, Checked.addSize_eq_ok (by omega), ok_bind, hslice, ok_bind, execute]
  cases hs : m.memory.slice m.registers.index (x + 1) with
  | error fault => rfl
  | ok block =>
    obtain ⟨hfits, hblock⟩ := Memory.slice_eq_ok_iff.1 hs
    have hcopy : Checked.copy m.bare.v 0 (x + 1) block = .ok _ :=
      m.registers.copy_setFirst block x (by rw [hblock, Memory.length_peek])
    have hindex : Bare.Machine.pastBlock m.bare.index x = .ok _ :=
      pastBlock_bare m.registers x hfits
    have hbare : Machine.bare { m with registers := pastBlock (m.registers.setFirst block) x } =
        { m.bare with
          v := (m.registers.setFirst block).v.toList, index := (pastBlock m.registers x).index } :=
      m.bare_withRegisters (by simp) (by simp) (by simp [pastBlock])
    dsimp only
    rw [hcopy, ok_bind, hindex, ok_bind, ok_bind, pure_eq_ok, pure_eq_ok, bareAnswer, hbare]
    rfl

theorem execute_bare (hpc : m.registers.pc.toNat ≤ 0xFFE) (i : Instruction) :
    m.bare.execute i.bare = .ok (m.bareAnswer (m.execute i)) := by
  cases i with
  | clear => rw [Instruction.bare, Bare.Machine.execute, ← Screen.toList_blank]; rfl
  | ret => exact m.execute_ret_bare
  | jump a => rfl
  | call a => exact m.execute_call_bare hpc a
  | skip c =>
    rw [Instruction.bare, Bare.Machine.execute, holds_bare, ok_bind, ← skipIf_bare]
    rfl
  | load x b => rw [Instruction.bare, Bare.Machine.execute, put_bare]; rfl
  | addByte x b => rw [Instruction.bare, Bare.Machine.execute, get_bare, ok_bind, put_bare]; rfl
  | arithmetic o x y =>
    rw [Instruction.bare, Bare.Machine.execute, arithmetic_bare]
    cases o <;> rfl
  | loadIndex a => rfl
  | jumpOffset a => exact m.execute_jumpOffset_bare a
  | random x mask =>
    have hput (b : UInt8) : Checked.put m.bare.v x b = .ok (m.registers.set x b).v.toList :=
      m.put_bare x b
    rw [Instruction.bare, Bare.Machine.execute]
    dsimp only
    rw [hput]
    rfl
  | draw x y n => exact m.execute_draw_bare x y n
  | readDelay x => rw [Instruction.bare, Bare.Machine.execute, put_bare]; rfl
  | waitKey x => rfl
  | setDelay x => rw [Instruction.bare, Bare.Machine.execute, get_bare]; rfl
  | setSound x => rw [Instruction.bare, Bare.Machine.execute, get_bare]; rfl
  | addIndex x => rw [Instruction.bare, Bare.Machine.execute, get_bare]; rfl
  | glyph x => exact m.execute_glyph_bare x
  | storeDecimal x => exact m.execute_storeDecimal_bare x
  | storeRegisters x => exact m.execute_storeRegisters_bare x
  | loadRegisters x => exact m.execute_loadRegisters_bare x

end Execute

end Machine

end Chip8
