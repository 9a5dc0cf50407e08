import Chip8.Proofs.Bare.Step

/-!
# Images on the bare machine

Every machine has an image on the bare machine: tables become lists, numbers of registers
lose their bounds, and the keypad becomes one word.  The checked operations on an image
never panic where they are used, and give the image of what the operations of the machine
give.  This is shown here for each part of the machine by itself.
-/

namespace Chip8

/-! ## Instructions -/

def Condition.bare : Condition → Bare.Condition
  | byteIs x byte => .byteIs x byte
  | byteIsNot x byte => .byteIsNot x byte
  | same x y => .same x y
  | differ x y => .differ x y
  | keyHeld x => .keyHeld x
  | keyFree x => .keyFree x

def Instruction.bare : Instruction → Bare.Instruction
  | clear => .clear
  | ret => .ret
  | jump a => .jump (Machine.word a)
  | call a => .call (Machine.word a)
  | skip c => .skip c.bare
  | load x byte => .load x byte
  | addByte x byte => .addByte x byte
  | arithmetic o x y => .arithmetic o x y
  | loadIndex a => .loadIndex (Machine.word a)
  | jumpOffset a => .jumpOffset (Machine.word a)
  | random x mask => .random x mask
  | draw x y lines => .draw x y lines
  | readDelay x => .readDelay x
  | waitKey x => .waitKey x
  | setDelay x => .setDelay x
  | setSound x => .setSound x
  | addIndex x => .addIndex x
  | glyph x => .glyph x
  | storeDecimal x => .storeDecimal x
  | storeRegisters x => .storeRegisters x
  | loadRegisters x => .loadRegisters x

def Flow.bare : Flow → Bare.Flow
  | next => .next
  | skip => .skip
  | jump target => .jump target
  | redraw => .redraw
  | wait x => .wait x

def Activity.bare : Activity → Bare.Activity
  | running => .running
  | awaitingKey x => .awaitingKey x
  | halted t => .halted t

namespace Bare

theorem digit_eq_mod (op shift : UInt16) (h : shift.toNat < 16) :
    digit op shift = (op.toNat >>> shift.toNat) % 16 := by
  rw [digit, UInt16.toNat_and, UInt16.toNat_shiftRight, Nat.mod_eq_of_lt h]
  exact Nat.and_two_pow_sub_one_eq_mod _ 4

theorem digit_family (op : UInt16) : digit op 12 = Opcode.family op := by
  have h := op.toNat_lt
  have hshift : op.toNat >>> 12 = op.toNat / 4096 := Nat.shiftRight_eq_div_pow _ 12
  rw [digit_eq_mod op 12 (by decide), Opcode.family]
  change op.toNat >>> 12 % 16 = _
  omega

theorem digit_x (op : UInt16) : digit op 8 = Opcode.x op := by
  rw [digit_eq_mod op 8 (by decide), Opcode.x]
  exact congrArg (· % 16) (Nat.shiftRight_eq_div_pow _ 8)

theorem digit_y (op : UInt16) : digit op 4 = Opcode.y op := by
  rw [digit_eq_mod op 4 (by decide), Opcode.y]
  exact congrArg (· % 16) (Nat.shiftRight_eq_div_pow _ 4)

theorem digit_n (op : UInt16) : digit op 0 = Opcode.n op := digit_eq_mod op 0 (by decide)

theorem lowByte_eq_nn (op : UInt16) : lowByte op = Opcode.nn op := by
  rw [← UInt8.toNat_inj, lowByte, Opcode.nn, UInt16.toNat_toUInt8, UInt16.toNat_and,
    UInt8.toNat_ofNat']
  exact congrArg (· % 2 ^ 8) (Nat.and_two_pow_sub_one_eq_mod _ 8)

theorem address_eq_nnn (op : UInt16) : address op = Machine.word (Opcode.nnn op) := by
  rw [← UInt16.toNat_inj, address, UInt16.toNat_and, Machine.word, UInt16.toNat_ofNat']
  change op.toNat &&& 2 ^ 12 - 1 = op.toNat % 4096 % 2 ^ 16
  rw [Nat.and_two_pow_sub_one_eq_mod, Nat.mod_eq_of_lt (b := 2 ^ 16)]
  omega

theorem decodeMisc?_eq (op : UInt16) (k : Nat) :
    decodeMisc? (Opcode.x op) k = (Instruction.decodeMisc? op k).map Instruction.bare := by
  fun_cases Instruction.decodeMisc? op k <;> simp_all [decodeMisc?, Instruction.bare]

theorem decode_eq (op : UInt16) : decode op = (Instruction.decode op).map Instruction.bare := by
  rw [decode, digit_family, digit_x, digit_y, digit_n, lowByte_eq_nn, address_eq_nnn,
    decodeMisc?_eq]
  -- One case for each way through the table of `Instruction.decode`.
  fun_cases Instruction.decode op <;>
    simp_all [Instruction.bare, Condition.bare, Function.comp_def]

end Bare

/-! ## Tables -/

namespace Table

variable {n : Nat} {α : Type}

theorem get_toList (t : Table n α) (k : Fin n) : Checked.get t.toList k = .ok (t.get k) := by
  rw [Checked.get_eq_ok (by simp)]
  simp [get]

theorem put_toList (t : Table n α) (k : Fin n) (a : α) :
    Checked.put t.toList k a = .ok (t.put k a).toList := by
  rw [Checked.put_eq_ok (by simp), put, Vector.toList_set]

end Table

/-! ## Registers -/

namespace Registers

theorem range_upTo (r : Registers) (x : Register) :
    Checked.range r.v.toList 0 (x + 1) = .ok (r.upTo x) := by
  have hlen : 0 + (x.val + 1) ≤ r.v.toList.length := by
    have hx := x.isLt
    rw [Vector.length_toList]
    omega
  rw [← Nat.zero_add (x.val + 1), Checked.range_eq_ok hlen, List.drop_zero, upTo]

theorem toList_setFirst (r : Registers) (values : List UInt8) (h : values.length ≤ 16) :
    (r.setFirst values).v.toList = values ++ r.v.toList.drop values.length := by
  rw [setFirst, Table.ofFn, Vector.toList_ofFn]
  refine List.ext_getElem (by simp; omega) fun i hi _ => ?_
  have hi16 : i < 16 := by simpa using hi
  rw [List.getElem_ofFn, List.getElem_append]
  split
  · next hlt => simp [hlt]
  · next hge =>
    have hle : values.length ≤ i := Nat.le_of_not_lt hge
    have hsum : values.length + (i - values.length) = i := by omega
    simp [get, Table.get, hle, hsum]

theorem copy_setFirst (r : Registers) (values : List UInt8) (x : Register)
    (h : values.length = x + 1) :
    Checked.copy r.v.toList 0 (x + 1) values = .ok (r.setFirst values).v.toList := by
  have hx := x.isLt
  have hlen : 0 + values.length ≤ r.v.toList.length := by
    rw [Vector.length_toList]
    omega
  rw [← Nat.zero_add (x.val + 1), ← h, Checked.copy_eq_ok hlen,
    toList_setFirst r values (by omega)]
  simp

end Registers

/-! ## Memory -/

namespace Memory

theorem bounds_of_fits {addr : UInt16} {len : Nat} (h : Fits addr len) :
    Bare.bounds addr len = .ok (.ok (addr.toNat, addr.toNat + len)) := by
  have hle : addr.toNat + len ≤ 4096 := h
  rw [Bare.bounds, Checked.addSize_eq_ok (by omega), ok_bind, if_neg (Nat.not_lt.2 h)]
  rfl

theorem bounds_of_not_fits {addr : UInt16} {len : Nat} (hlen : len ≤ capacity)
    (h : ¬ Fits addr len) : Bare.bounds addr len = .ok (.error (rangeFault addr)) := by
  have haddr := addr.toNat_lt
  have hle : len ≤ 4096 := hlen
  rw [Bare.bounds, Checked.addSize_eq_ok (by omega), ok_bind, if_pos (Nat.lt_of_not_le h)]
  rfl

theorem slice_bare (m : Memory) (addr : UInt16) {len : Nat} (hlen : len ≤ capacity) :
    Bare.slice m.bytes.toList addr len = .ok (m.slice addr len) := by
  by_cases h : Fits addr len
  · have hrange : Checked.range m.bytes.toList addr.toNat (addr.toNat + len) = .ok _ :=
      Checked.range_eq_ok (by rw [Vector.length_toList]; exact h)
    rw [Bare.slice, bounds_of_fits h, slice, if_pos h, ok_bind]
    dsimp only
    rw [hrange, ok_bind, peek_eq_take_drop m h, pure_eq_ok]
  · rw [Bare.slice, bounds_of_not_fits hlen h, slice, if_neg h]
    rfl

theorem write_bare (m : Memory) (data : List UInt8) (addr : UInt16)
    (hlen : data.length ≤ capacity) :
    Bare.write m.bytes.toList data addr =
      .ok ((m.write data addr).map fun m => m.bytes.toList) := by
  by_cases h : Fits addr data.length
  · have hcopy :
        Checked.copy m.bytes.toList addr.toNat (addr.toNat + data.length) data = .ok _ :=
      Checked.copy_eq_ok (by rw [Vector.length_toList]; exact h)
    rw [Bare.write, bounds_of_fits h, write, if_pos h, ok_bind]
    dsimp only
    rw [hcopy, ok_bind, Except.map, toList_poke m _ _ h, pure_eq_ok]
  · rw [Bare.write, bounds_of_not_fits hlen h, write, if_neg h]
    rfl

theorem readWord_bare (m : Memory) (addr : UInt16) :
    Bare.readWord m.bytes.toList addr = .ok (m.readWord addr) := by
  rw [Bare.readWord, slice_bare m addr (by decide), ok_bind, slice, readWord]
  by_cases h : Fits addr 2
  · rw [if_pos h, if_pos h]
    rfl
  · rw [if_neg h, if_neg h]
    rfl

theorem powerOnMemory_eq : Bare.powerOnMemory = .ok powerOn.bytes.toList := by
  have hfont : 0 + Font.glyphs.length ≤ (List.replicate capacity (0 : UInt8)).length := by
    rw [List.length_replicate]
    decide
  rw [Bare.powerOnMemory, Checked.addSize_eq_ok (by decide), ok_bind, Checked.copy_eq_ok hfont,
    powerOn, loadFont, toList_poke _ _ _ (by decide), Vector.toList_replicate]
  rfl

theorem loadProgram_bare (m : Memory) (program : List UInt8) :
    Bare.loadProgram m.bytes.toList program =
      .ok ((m.loadProgram program).map fun m => m.bytes.toList) := by
  rw [Bare.loadProgram, loadProgram]
  by_cases h : program.length ≤ maxProgramBytes
  · have hlen : program.length ≤ 3584 := h
    have hle : programStart + program.length ≤ capacity := by
      change 512 + program.length ≤ 4096
      omega
    have hsum : programStart + program.length < 18446744073709551616 :=
      Nat.lt_of_le_of_lt hle (by decide)
    have hcopy :
        Checked.copy m.bytes.toList programStart (programStart + program.length) program = .ok _ :=
      Checked.copy_eq_ok (by rw [Vector.length_toList]; exact hle)
    rw [if_neg (Nat.not_lt.2 h), if_pos h, Checked.addSize_eq_ok hsum, ok_bind, hcopy, ok_bind,
      Except.map, toList_poke m _ _ hle, pure_eq_ok]
  · rw [if_pos (Nat.lt_of_not_le h), if_neg h]
    rfl

end Memory

/-! ## Keys -/

namespace Keypad

/-- The held keys as one word, with the key of code zero in the lowest bit. -/
def bits (k : Keypad) : UInt16 :=
  ⟨(BitVec.ofBoolListLE k.held.toList).cast k.held.length_toList⟩

theorem getLsbD_bits (k : Keypad) (key : Key) :
    k.bits.toBitVec.getLsbD key = k.held.get key := by
  rw [bits, BitVec.getLsbD_cast, BitVec.getLsbD_ofBoolListLE]
  simp [Table.get]

/-- Two words are equal if they agree on the bit of every key. -/
theorem eq_of_getLsbD {a b : UInt16}
    (h : ∀ j : Key, a.toBitVec.getLsbD j = b.toBitVec.getLsbD j) : a = b :=
  UInt16.eq_of_toBitVec_eq (BitVec.eq_of_getLsbD_eq fun i hi => h ⟨i, hi⟩)

theorem bits_released : released.bits = 0 := by
  refine eq_of_getLsbD fun j => ?_
  rw [getLsbD_bits, held_released]
  simp

section

variable {code : UInt8} {key : Key} (h : code.toNat = key)
include h

theorem toBitVec_bit : (1 <<< code.toUInt16 : UInt16).toBitVec = BitVec.twoPow 16 key := by
  have hshift : (code.toUInt16.toBitVec % 16).toNat = key := by
    rw [BitVec.toNat_umod, UInt16.toNat_toBitVec, UInt8.toNat_toUInt16, h]
    exact Nat.mod_eq_of_lt key.isLt
  rw [UInt16.toBitVec_shiftLeft, BitVec.shiftLeft_eq', hshift, BitVec.twoPow]
  rfl

theorem getLsbD_bit (j : Key) :
    (1 <<< code.toUInt16 : UInt16).toBitVec.getLsbD j = decide (j = key) := by
  rw [toBitVec_bit h, BitVec.getLsbD_twoPow, decide_eq_true key.isLt, Bool.true_and]
  exact decide_eq_decide.2 ⟨fun h => Fin.ext h.symm, fun h => congrArg Fin.val h.symm⟩

theorem bits_press (k : Keypad) : (k.press key).bits = k.bits ||| 1 <<< code.toUInt16 := by
  refine eq_of_getLsbD fun j => ?_
  rw [getLsbD_bits, held_press, UInt16.toBitVec_or, BitVec.getLsbD_or, getLsbD_bits, getLsbD_bit h]
  split <;> simp [*]

theorem bits_release (k : Keypad) : (k.release key).bits = k.bits &&& ~~~(1 <<< code.toUInt16) := by
  refine eq_of_getLsbD fun j => ?_
  rw [getLsbD_bits, held_release, UInt16.toBitVec_and, BitVec.getLsbD_and, getLsbD_bits,
    UInt16.toBitVec_not, BitVec.getLsbD_not, getLsbD_bit h]
  split <;> simp [*]

theorem and_bit_ne_zero (k : Keypad) :
    k.bits &&& 1 <<< code.toUInt16 ≠ 0 ↔ k.held.get key = true := by
  have hbit (j : Key) : (k.bits &&& 1 <<< code.toUInt16).toBitVec.getLsbD j =
      (k.held.get j && decide (j = key)) := by
    rw [UInt16.toBitVec_and, BitVec.getLsbD_and, getLsbD_bits, getLsbD_bit h]
  constructor
  · intro hne
    cases hheld : k.held.get key with
    | true => rfl
    | false =>
      refine absurd (eq_of_getLsbD fun j => ?_) hne
      rw [hbit]
      by_cases hj : j = key
      · simp [hj, hheld]
      · simp [hj]
  · intro hheld hzero
    have hkey := hbit key
    rw [hzero, hheld] at hkey
    simp at hkey

end

theorem press_bare (k : Keypad) {code : UInt8} {key : Key} (h : key? code = some key) :
    Bare.press k.bits code = .ok (k.press key).bits := by
  have hcode := key?_eq_some_iff.1 h
  have hlt : code.toNat < 16 := by omega
  rw [Bare.press, Checked.bit_eq_ok hlt, ok_bind, bits_press hcode, pure_eq_ok]

theorem release_bare (k : Keypad) {code : UInt8} {key : Key} (h : key? code = some key) :
    Bare.release k.bits code = .ok (k.release key).bits := by
  have hcode := key?_eq_some_iff.1 h
  have hlt : code.toNat < 16 := by omega
  rw [Bare.release, Checked.bit_eq_ok hlt, ok_bind, bits_release hcode, pure_eq_ok]

theorem isPressed_bare (k : Keypad) (code : UInt8) :
    Bare.isPressed k.bits code = .ok (k.isPressed code) := by
  rw [Bare.isPressed, isPressed, key?]
  split
  · next hge =>
    rw [dif_neg (by omega)]
    rfl
  · next hlt =>
    have hcode : code.toNat < 16 := by omega
    rw [dif_pos hcode, Checked.bit_eq_ok hcode, ok_bind, pure_eq_ok]
    have hbit := k.and_bit_ne_zero (show code.toNat = (⟨code.toNat, hcode⟩ : Key) from rfl)
    exact congrArg _ (Bool.eq_iff_iff.2 (by simpa using hbit))

end Keypad

/-! ## The screen -/

namespace Screen

theorem toList_blank : blank.rows.toList = List.replicate height 0 := Vector.toList_replicate

theorem drawLines_bare (top col r : Nat) (sprite : List UInt8) (hit : Bool) (s : Screen)
    (h : top + r + sprite.length < 18446744073709551616) :
    Bare.drawLines top col r sprite hit s.rows.toList =
      .ok ((s.drawLines col (top + r) sprite hit).map id fun s => s.rows.toList) := by
  induction sprite generalizing r hit s with
  | nil => rfl
  | cons line rest ih =>
    rw [List.length_cons] at h
    have hget : Checked.get s.rows.toList ((top + r) % height) = .ok (s.row (top + r)) :=
      Table.get_toList s.rows (rowIndex (top + r))
    have hput (bits : BitVec 64) :
        Checked.put s.rows.toList ((top + r) % height) (s.row (top + r) ^^^ bits) =
          .ok (s.flipRow (top + r) bits).rows.toList :=
      Table.put_toList s.rows (rowIndex (top + r)) _
    rw [Bare.drawLines, Checked.addSize_eq_ok (by omega), ok_bind, hget, ok_bind, hput, ok_bind,
      ih (r + 1) _ _ (by omega), drawLines]
    rfl

end Screen

/-! ## Machines -/

/-- The image of a machine. -/
def Machine.bare (m : Machine) : Bare.Machine where
  memory := m.memory.bytes.toList
  v := m.registers.v.toList
  index := m.registers.index
  pc := m.registers.pc
  stack := m.registers.stack.reverse
  timers := m.timers
  rows := m.screen.rows.toList
  held := m.keypad.bits
  activity := m.activity.bare
  config := m.config
  generator := m.generator

end Chip8
