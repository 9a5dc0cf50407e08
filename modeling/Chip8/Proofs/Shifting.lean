import Chip8.Proofs.Lockstep
import Chip8.Proofs.Refitting

/-!
# The two ways to shift

The configuration says which of its two registers a shift reads, and no other instruction looks
at that.  For most shifts the two ways agree, since the registers are one or hold the same value.
So two machines that shift in different ways, and are the same otherwise, stay so until the first
shift of two registers that hold different values (`same_until_shifts_apart`).

There the two do part.  The result and the lost bit together make up the byte that was shifted,
so they can be told apart by them, unless the result is overwritten by the lost bit
(`arithmetic_withShift_ne`).
-/

namespace Chip8

/-- A shift of two registers that hold different values. -/
def Instruction.ShiftsApart (r : Registers) : Instruction → Prop
  | arithmetic .shiftRight x y | arithmetic .shiftLeft x y => r.get x ≠ r.get y
  | _ => False

namespace Machine

/-- The machine with this way to shift. -/
def withShift (m : Machine) (shift : ShiftSource) : Machine :=
  { m with config := { m.config with shift } }

/-- The next step shifts two registers that hold different values. -/
def ShiftsApart (m : Machine) : Prop := ∃ i, m.Runs i ∧ i.ShiftsApart m.registers

variable {m : Machine} {i : Instruction}

theorem Runs.shiftsApart_iff (h : m.Runs i) : m.ShiftsApart ↔ i.ShiftsApart m.registers := by
  constructor
  · rintro ⟨j, hj, hapart⟩
    obtain rfl : j = i := Option.some.inj (hj.2.symm.trans h.2)
    exact hapart
  · exact fun hapart => ⟨i, h, hapart⟩

theorem shiftsApart_withShift (m : Machine) (shift : ShiftSource) :
    (m.withShift shift).ShiftsApart ↔ m.ShiftsApart := Iff.rfl

/-! ## Where the two ways agree -/

/-- Of two registers with the same value either can be shifted. -/
theorem shiftOperand_of_same {x y : Register} (h : m.registers.get x = m.registers.get y) :
    m.shiftOperand x y = m.registers.get y := by
  rw [shiftOperand]
  cases m.config.shift with
  | vy => rfl
  | vx => exact h

theorem arithmetic_withShift {o : Arithmetic} {x y : Register} (shift : ShiftSource)
    (h : ¬ (Instruction.arithmetic o x y).ShiftsApart m.registers) :
    (m.withShift shift).arithmetic o x y = m.arithmetic o x y := by
  have hoperand (hsame : m.registers.get x = m.registers.get y) :
      (m.withShift shift).shiftOperand x y = m.shiftOperand x y := by
    have hsame' : (m.withShift shift).registers.get x = (m.withShift shift).registers.get y := hsame
    rw [shiftOperand_of_same hsame, shiftOperand_of_same hsame']
    rfl
  cases o with
  | shiftRight => simp only [arithmetic, hoperand (not_not.1 h)]; rfl
  | shiftLeft => simp only [arithmetic, hoperand (not_not.1 h)]; rfl
  | _ => rfl

/-! ## One operation -/

/-- A step that shifts no registers apart does the same in both ways. -/
theorem step_withShift (shift : ShiftSource) (h : ¬ m.ShiftsApart) :
    (m.withShift shift).step = (m.step.1, m.step.2.withShift shift) := by
  have hindifferent : ∀ i, m.Runs i →
      m.Indifferent m.timers { m.config with shift } m.generator i := by
    intro i hruns
    refine ⟨fun _ _ => rfl, fun _ _ _ => rfl, ?_⟩
    rintro o x y rfl
    exact arithmetic_withShift shift (hruns.shiftsApart_iff.not.1 h)
  have hstep : (m.withShift shift).step = _ := step_refitted hindifferent
  rw [hstep, ← timers_step, ← generator_step, ← m.config_step]
  rfl

/-- An operation on registers is carried out without fail. -/
theorem Runs.step_of_arithmetic {o : Arithmetic} {x y : Register} (h : m.Runs (.arithmetic o x y)) :
    m.step = (.ok .executed,
      goTo { m with registers := m.arithmetic o x y } (m.registers.pc + 2)) := by
  obtain ⟨opcode, hs⟩ := h.step_of_execute rfl
  cases o with
  | _ => exact hs

/-- No step answers differently for the way to shift. -/
theorem answer_withShift (m : Machine) (shift : ShiftSource) :
    (m.withShift shift).step.1 = m.step.1 := by
  by_cases h : m.ShiftsApart
  · obtain ⟨i, hruns, hapart⟩ := h
    cases i with
    | arithmetic o x y =>
      have hruns' : (m.withShift shift).Runs (.arithmetic o x y) := hruns
      rw [hruns.step_of_arithmetic, hruns'.step_of_arithmetic]
    | _ => exact hapart.elim
  · rw [step_withShift shift h]

/-- Machines that shift in different ways do the same until they shift registers apart. -/
theorem lockstep_withShift (shift : ShiftSource) :
    Lockstep (fun a b => b = a.withShift shift) ShiftsApart where
  cyclesPerFrame := by
    rintro a _ rfl
    rfl
  soundActive := by
    rintro a _ rfl
    rfl
  isAwaitingKey := by
    rintro a _ rfl
    rfl
  load := by
    rintro a _ program rfl
    have hload : (a.withShift shift).load program = _ := a.load_refitted _ _ _ program
    obtain ⟨memory, hl⟩ := a.load_eq program
    rw [hload, hl]
    exact ⟨rfl, rfl⟩
  answer := by
    rintro a _ rfl
    exact a.answer_withShift shift
  step := by
    rintro a _ hapart rfl
    rw [step_withShift shift hapart]
  tick := by
    rintro a _ rfl
    rfl
  keyDown := by
    rintro a _ code rfl
    have hdown : (a.withShift shift).keyDown code = _ := a.keyDown_refitted _ _ _ code
    obtain ⟨keypad, v, activity, hk⟩ := a.keyDown_eq code
    rw [hdown, hk]
    exact ⟨rfl, rfl⟩
  keyUp := by
    rintro a _ code rfl
    have hup : (a.withShift shift).keyUp code = _ := a.keyUp_refitted _ _ _ code
    obtain ⟨keypad, hk⟩ := a.keyUp_eq code
    rw [hup, hk]
    exact ⟨rfl, rfl⟩
  reset := by
    rintro a _ rfl
    rfl

/-! ## Where they part -/

theorem eq_of_shiftedRight {q q' : UInt8} (hresult : q >>> 1 = q' >>> 1)
    (hlost : q &&& 1 = q' &&& 1) : q = q' := by
  have hhalf : q.toNat / 2 = q'.toNat / 2 := congrArg UInt8.toNat hresult
  have hbit : q.toNat % 2 = q'.toNat % 2 := by
    have hand := congrArg UInt8.toNat hlost
    rw [UInt8.toNat_and, UInt8.toNat_and] at hand
    exact (Nat.and_one_is_mod _).symm.trans (hand.trans (Nat.and_one_is_mod _))
  exact UInt8.toNat_inj.1 (by omega)

theorem eq_of_shiftedLeft {q q' : UInt8} (hresult : q <<< 1 = q' <<< 1)
    (hlost : q >>> 7 = q' >>> 7) : q = q' := by
  have hdouble := congrArg UInt8.toNat hresult
  have hbit := congrArg UInt8.toNat hlost
  rw [UInt8.toNat_shiftLeft, UInt8.toNat_shiftLeft, Nat.shiftLeft_eq, Nat.shiftLeft_eq] at hdouble
  rw [UInt8.toNat_shiftRight, UInt8.toNat_shiftRight, Nat.shiftRight_eq_div_pow,
    Nat.shiftRight_eq_div_pow] at hbit
  have hlow : q.toNat * 2 % 256 = q'.toNat * 2 % 256 := hdouble
  have hhigh : q.toNat / 128 = q'.toNat / 128 := hbit
  have hq := q.toNat_lt
  have hq' := q'.toNat_lt
  exact UInt8.toNat_inj.1 (by omega)

theorem shiftOperand_withShift_ne {shift : ShiftSource} {x y : Register}
    (hshift : shift ≠ m.config.shift) (h : m.registers.get x ≠ m.registers.get y) :
    (m.withShift shift).shiftOperand x y ≠ m.shiftOperand x y := by
  have hconfig : (m.withShift shift).config.shift = shift := rfl
  have hregisters : (m.withShift shift).registers = m.registers := rfl
  rw [shiftOperand, shiftOperand, hconfig, hregisters]
  cases hm : m.config.shift with
  | vy =>
    cases shift with
    | vy => exact absurd hm.symm hshift
    | vx => exact h
  | vx =>
    cases shift with
    | vy => exact h.symm
    | vx => exact absurd hm.symm hshift

/-- Registers that are shifted apart are so to be seen, unless the lost bit takes the place of the
result. -/
theorem arithmetic_withShift_ne {shift : ShiftSource} {o : Arithmetic} {x y : Register}
    (hshift : shift ≠ m.config.shift) (hx : x ≠ .flag)
    (h : (Instruction.arithmetic o x y).ShiftsApart m.registers) :
    ((m.withShift shift).arithmetic o x y).v ≠ (m.arithmetic o x y).v := by
  intro hv
  have hsame (z : Register) :
      ((m.withShift shift).arithmetic o x y).get z = (m.arithmetic o x y).get z :=
    congrArg (Table.get · z) hv
  have hresult := hsame x
  have hlost := hsame .flag
  cases o with
  | shiftRight =>
    simp only [arithmetic, Registers.get_set, if_neg hx, if_true] at hresult hlost
    exact shiftOperand_withShift_ne hshift h (eq_of_shiftedRight hresult hlost)
  | shiftLeft =>
    simp only [arithmetic, Registers.get_set, if_neg hx, if_true] at hresult hlost
    exact shiftOperand_withShift_ne hshift h (eq_of_shiftedLeft hresult hlost)
  | _ => exact h

/-! ## Two runs -/

/-- Part `j` of a run is a step that shifts registers apart. -/
def ShiftsApartAt (m : Machine) (ops : List Operation) (j : Nat) : Prop :=
  MeetsAt ShiftsApart m (m.unrolled ops) j

/-- Take a machine and the same machine with another way to shift.  Whatever is done to both, they
go through the same parts, answer the same and are the same but for that choice, at every moment
before which no registers were shifted apart, and they come to shift registers apart at the same
moment.  After the step that does so they differ, unless the lost bit overwrites the result. -/
theorem same_until_shifts_apart (a : Machine) (shift : ShiftSource) :
    let b := a.withShift shift
    (∀ ops,
      (∀ j, (∀ i < j, ¬ a.ShiftsApartAt ops i) →
        (b.unrolled ops)[j]? = (a.unrolled ops)[j]? ∧
        (∀ op, (a.unrolled ops)[j]? = some op →
          ((b.moment ops j).perform op).1 = ((a.moment ops j).perform op).1) ∧
        b.moment ops j = (a.moment ops j).withShift shift ∧
        (b.ShiftsApartAt ops j ↔ a.ShiftsApartAt ops j)) ∧
      ((∀ j, ¬ a.ShiftsApartAt ops j) →
        b.answers ops = a.answers ops ∧ b.run ops = (a.run ops).withShift shift)) ∧
    (shift ≠ a.config.shift → ∀ o x y, a.Runs (.arithmetic o x y) →
      (Instruction.arithmetic o x y).ShiftsApart a.registers → x ≠ .flag →
      b.step.2.registers.v ≠ a.step.2.registers.v) := by
  intro b
  have hlockstep := lockstep_withShift shift
  refine ⟨fun ops => ⟨?_, hlockstep.answers rfl⟩, ?_⟩
  · intro j hno
    obtain ⟨hpart, hanswer, hmoment⟩ := hlockstep.moment (b := b) rfl ops hno
    refine ⟨hpart, hanswer, hmoment, ?_⟩
    rw [ShiftsApartAt, ShiftsApartAt, MeetsAt, MeetsAt, hpart]
    refine and_congr_right fun _ => ?_
    show (b.moment ops j).ShiftsApart ↔ (a.moment ops j).ShiftsApart
    rw [hmoment, shiftsApart_withShift]
  · intro hshift o x y hruns hapart hx
    have hruns' : b.Runs (.arithmetic o x y) := hruns
    rw [hruns.step_of_arithmetic, hruns'.step_of_arithmetic]
    exact arithmetic_withShift_ne hshift hx hapart

/-- A program shifts twice by registers 1 and 2.  The first time they hold the same value, and the
two ways to shift agree; the second time they do not. -/
theorem same_until_shifts_apart_second :
    let a := ((powerOn {} 0).load [0x61, 0x06, 0x62, 0x06, 0x81, 0x26, 0x81, 0x26]).2
    let b := a.withShift .vx
    let ops : List Operation := List.replicate 4 .step
    (a.moment ops 2).Runs (.arithmetic .shiftRight 1 2) ∧
      b.moment ops 3 = (a.moment ops 3).withShift .vx ∧
      a.ShiftsApartAt ops 3 ∧ b.ShiftsApartAt ops 3 ∧
      (b.moment ops 3).step.2.registers.v ≠ (a.moment ops 3).step.2.registers.v := by
  intro a b ops
  obtain ⟨hfirst, hsecond, hagree, hapart, hpart, hsame, hdiffer, hconfig⟩ :
      (a.moment ops 0).Runs (.load 1 6) ∧ (a.moment ops 1).Runs (.load 2 6) ∧
        (a.moment ops 2).Runs (.arithmetic .shiftRight 1 2) ∧
        (a.moment ops 3).Runs (.arithmetic .shiftRight 1 2) ∧
        (a.unrolled ops)[3]? = some .step ∧
        (a.moment ops 2).registers.get 1 = (a.moment ops 2).registers.get 2 ∧
        (a.moment ops 3).registers.get 1 ≠ (a.moment ops 3).registers.get 2 ∧
        ShiftSource.vx ≠ (a.moment ops 3).config.shift := by
    decide +kernel
  have hno : ∀ i < 3, ¬ a.ShiftsApartAt ops i := by
    rintro i hi ⟨-, hi'⟩
    obtain rfl | rfl | rfl : i = 0 ∨ i = 1 ∨ i = 2 := by omega
    · exact hfirst.shiftsApart_iff.1 hi'
    · exact hsecond.shiftsApart_iff.1 hi'
    · exact hagree.shiftsApart_iff.1 hi' hsame
  obtain ⟨-, -, hmoment, hiff⟩ := ((same_until_shifts_apart a .vx).1 ops).1 3 hno
  have ha : a.ShiftsApartAt ops 3 := ⟨hpart, hapart.shiftsApart_iff.2 hdiffer⟩
  refine ⟨hagree, hmoment, ha, hiff.2 ha, ?_⟩
  have hmoment' : b.moment ops 3 = (a.moment ops 3).withShift .vx := hmoment
  rw [hmoment']
  exact (same_until_shifts_apart (a.moment ops 3) .vx).2 hconfig _ _ _ hapart hdiffer (by decide)

end Machine

end Chip8
