import Chip8.Proofs.Tracing

/-!
# The bytes of the font

The font lies in the same memory as everything else and nothing protects it.  A program is
loaded above it, and of the instructions only the two that store can reach it, with an index
below `0x050`.  So a byte of the font is the built-in one until a store covers it, and then the
one that was stored there last, until a reset brings the built-in one back (`font_byte`).

What was stored at an address last is a note kept along the run (`latestStore`).
-/

namespace Chip8

/-- The bytes that an instruction stores from the index up. -/
def Instruction.stores (r : Registers) : Instruction → List UInt8
  | storeDecimal x => Machine.decimalDigits (r.get x)
  | storeRegisters x => r.upTo x
  | _ => []

theorem Memory.byteAt_powerOn {a : Nat} (ha : a < 0x50) :
    powerOn.byteAt a = Font.glyphs.getD a 0 := by
  have hcapacity : a < capacity := Nat.lt_trans ha (by decide)
  have hlength : Font.glyphs.length = 0x50 := rfl
  rw [powerOn, loadFont, byteAt_poke _ _ _ _ hcapacity, if_pos (by omega), Nat.sub_zero]

namespace Machine

variable {m m' : Machine} {i : Instruction} {a : Nat}

/-! ## What is stored at an address -/

/-- The byte that an instruction stores at an address, if it stores one there. -/
def storedAt (m : Machine) (a : Nat) (i : Instruction) : Option UInt8 :=
  if m.registers.index.toNat ≤ a then (i.stores m.registers)[a - m.registers.index.toNat]?
  else none

/-- The byte that operations without frames among them have stored at an address last, since
the last reset if there was one. -/
def latestStore (m : Machine) (a : Nat) (ops : List Operation) : Option UInt8 :=
  track (noting none fun m i latest => (m.storedAt a i).or latest) m none ops

/-- After an instruction a byte of memory is the one that it stored there, or the one before. -/
theorem byteAt_of_execute {flow : Flow} (h : m.execute i = .ok (flow, m'))
    (ha : a < Memory.capacity) :
    m'.memory.byteAt a = (m.storedAt a i).getD (m.memory.byteAt a) := by
  have hsame (hi : .byte a ∉ i.footprint m.registers.index) (hnone : i.stores m.registers = []) :
      m'.memory.byteAt a = (m.storedAt a i).getD (m.memory.byteAt a) := by
    have hkept : m'.memory.byteAt a = m.memory.byteAt a := execute_keeps h hi
    rw [hkept, storedAt, hnone]
    simp
  have hwrite {memory : Memory}
      (hw : m.memory.write (i.stores m.registers) m.registers.index = .ok memory) :
      memory.byteAt a = (m.storedAt a i).getD (m.memory.byteAt a) := by
    obtain ⟨-, rfl⟩ := Memory.write_eq_ok_iff.1 hw
    exact Memory.byteAt_poke_eq_getD _ _ _ _ ha
  cases i with
  | storeDecimal x =>
    obtain ⟨memory, hw, h⟩ := bind_eq_ok_iff.1 h
    cases h
    exact hwrite hw
  | storeRegisters x =>
    obtain ⟨memory, hw, h⟩ := bind_eq_ok_iff.1 h
    cases h
    exact hwrite hw
  | arithmetic o x y =>
    refine hsame ?_ rfl
    rw [Instruction.footprint]
    split <;> simp
  | loadRegisters x => exact hsame (by simp [Instruction.footprint, Part.generalUpTo]) rfl
  | _ => exact hsame (by simp [Instruction.footprint]) rfl

/-- A byte of the font is the one that was stored there last, and the built-in one if none was. -/
theorem traces_byte (ha : a < 0x50) :
    Traces (.byte a) none (fun m i latest => (m.storedAt a i).or latest)
      (fun m (latest : Option UInt8) => m.memory.byteAt a = latest.getD (Font.glyphs.getD a 0)) where
  internal := Nat.lt_trans ha (by decide)
  congr hkeeps h := Eq.trans hkeeps h
  reset _ := Memory.byteAt_powerOn ha
  execute {m _ i _ _} he h := by
    rw [byteAt_of_execute he (Nat.lt_trans ha (by decide)), h]
    cases m.storedAt a i <;> rfl

/-! ## The font along a run -/

/-- At the end of a run, and at every moment of it, of which the end is the last, a byte of the font
is the one that an instruction stored there last since power-on or the last reset, and the built-in
one if none did. -/
theorem font_byte (config : Config) (entropy : ChaCha.Key) (ops : List Operation) {a : Nat}
    (ha : a < 0x50) :
    let m₀ := powerOn config entropy
    let AsStored (m : Machine) (parts : List Operation) :=
      m.memory.byteAt a = (m₀.latestStore a parts).getD (Font.glyphs.getD a 0)
    AsStored (m₀.run ops) (m₀.unrolled ops) ∧
      (∀ k, AsStored (m₀.moment ops k) ((m₀.unrolled ops).take k)) ∧
      m₀.moment ops (m₀.unrolled ops).length = m₀.run ops := by
  intro m₀ AsStored
  have hstart : m₀.memory.byteAt a = (none : Option UInt8).getD (Font.glyphs.getD a 0) :=
    Memory.byteAt_powerOn ha
  have hstored (k : Nat) : AsStored (m₀.moment ops k) ((m₀.unrolled ops).take k) :=
    (traces_byte ha).moment hstart ops k
  exact ⟨run_of_moment hstored, hstored, m₀.moment_length ops⟩

/-- Digits are stored over the first three bytes of the font, and a reset brings them back. -/
theorem font_byte_restored :
    let m₀ := powerOn {} 0
    let ops := [.load [0xA0, 0x00, 0xF0, 0x33], .step, .step, .reset]
    m₀.latestStore 0 ((m₀.unrolled ops).take 3) = some 0 ∧ (m₀.moment ops 3).memory.byteAt 0 = 0 ∧
      (m₀.moment ops 3).memory.byteAt 3 = 0x90 ∧ (m₀.moment ops 4).memory.byteAt 0 = 0xF0 := by
  intro m₀ ops
  obtain ⟨hstored, hkept, hreset⟩ : m₀.latestStore 0 ((m₀.unrolled ops).take 3) = some 0 ∧
      m₀.latestStore 3 ((m₀.unrolled ops).take 3) = none ∧
      m₀.latestStore 0 ((m₀.unrolled ops).take 4) = none := by
    decide +kernel
  obtain ⟨-, hfirst, -⟩ := font_byte {} 0 ops (a := 0) (by decide)
  obtain ⟨-, hfourth, -⟩ := font_byte {} 0 ops (a := 3) (by decide)
  refine ⟨hstored, ?_, ?_, ?_⟩
  · exact (hfirst 3).trans (by rw [hstored]; rfl)
  · exact (hfourth 3).trans (by rw [hkept]; rfl)
  · exact (hfirst 4).trans (by rw [hreset]; rfl)

/-- So the font is not the built-in one in all machines that can be reached. -/
theorem font_overwritten :
    ¬ ∀ m : Machine, m.Reachable → m.memory.peek 0 0x50 = Font.glyphs := by
  intro h
  have hfont := h _ ⟨{}, 0, [.load [0xA0, 0x00, 0xF0, 0x33], .step, .step], rfl⟩
  have hfirst := congrArg List.head? hfont
  revert hfirst
  decide +kernel

end Machine

end Chip8
