import Chip8.Proofs.Encoding
import Chip8.Proofs.Footprint
import Chip8.Proofs.Shifting

/-!
# Results and flags over the integers

Five operations on two registers leave a flag: the sum, the two differences and the two shifts.
Their result and flag together lose nothing of the operands, like a digit and a carry in written
arithmetic.  `Arithmetic.Exact` is the equation that holds between them over the integers, and
there is one result below 256 and one flag below two for which it holds (`Exact.unique`).

Each operation is first told apart from the registers, as a byte and a flag that obey the equation
(`arithmetic_of_raisesFlag`).  Both are computed before anything is written, the byte is written
first and the flag last, so it makes no difference which of `X`, `Y` and `F` are the same register,
but that a result in `VF` does not stay there (`arithmetic_exact`).
-/

namespace Chip8

namespace Arithmetic

/-- The result `r` and the flag `f` of an operation account for its operands, which are the values
`a` of `VX` and `b` of `VY`, or the value `q` that a shift works on. -/
def Exact (a b q : Int) : Arithmetic → (r f : Int) → Prop
  | add, r, f => r + 256 * f = a + b
  | sub, r, f => r = a - b + 256 * (1 - f)
  | subFrom, r, f => r = b - a + 256 * (1 - f)
  | shiftRight, r, f => 2 * r + f = q
  | shiftLeft, r, f => r + 256 * f = 2 * q
  | copy, _, _ | or, _, _ | and, _, _ | xor, _, _ => False

/-- There is one way to account for operands with a byte and a flag. -/
theorem Exact.unique {a b q : Int} {o : Arithmetic} {r r' f f' : Int} (h : Exact a b q o r f)
    (hr : 0 ≤ r ∧ r < 256) (hf : f = 0 ∨ f = 1) (h' : Exact a b q o r' f')
    (hr' : 0 ≤ r' ∧ r' < 256) (hf' : f' = 0 ∨ f' = 1) : r' = r ∧ f' = f := by
  cases o with
  | copy | or | and | xor => exact h.elim
  | add | sub | subFrom | shiftRight | shiftLeft =>
    simp only [Exact] at h h'
    omega

/-! ## Bytes -/

theorem toNat_toUInt8_decide (p : Prop) [Decidable p] :
    (decide p).toUInt8.toNat = if p then 1 else 0 := by
  by_cases h : p
  · rw [decide_eq_true h, if_pos h]
    rfl
  · rw [decide_eq_false h, if_neg h]
    rfl

section Bytes

variable (a b q : UInt8)

theorem exact_add : Exact a.toNat b.toNat q.toNat add (a + b).toNat
    (decide (256 ≤ a.toNat + b.toNat)).toUInt8.toNat := by
  have ha := a.toNat_lt
  have hb := b.toNat_lt
  rw [Exact, UInt8.toNat_add, toNat_toUInt8_decide]
  split <;> omega

/-- Without a borrow a difference of bytes is exact, and with one it is 256 too large. -/
theorem toNat_sub_eq : ((a - b).toNat : Int) =
    a.toNat - b.toNat + 256 * (1 - (decide (b ≤ a)).toUInt8.toNat) := by
  have ha := a.toNat_lt
  have hb := b.toNat_lt
  rw [UInt8.toNat_sub, toNat_toUInt8_decide]
  split
  · next hle =>
    rw [UInt8.le_iff_toNat_le] at hle
    omega
  · next hlt =>
    rw [UInt8.le_iff_toNat_le] at hlt
    omega

theorem exact_shiftRight :
    Exact a.toNat b.toNat q.toNat shiftRight (q >>> 1).toNat (q &&& 1).toNat := by
  have hlost : (q &&& 1).toNat = q.toNat % 2 :=
    (UInt8.toNat_and q 1).trans (Nat.and_one_is_mod q.toNat)
  have hhalf : (q >>> 1).toNat = q.toNat / 2 := rfl
  rw [Exact, hlost, hhalf]
  omega

theorem exact_shiftLeft :
    Exact a.toNat b.toNat q.toNat shiftLeft (q <<< 1).toNat (q >>> 7).toNat := by
  have hq := q.toNat_lt
  have hlost : (q >>> 7).toNat = q.toNat / 128 := by
    rw [UInt8.toNat_shiftRight]
    exact Nat.shiftRight_eq_div_pow q.toNat 7
  have hdouble : (q <<< 1).toNat = q.toNat * 2 % 256 := by
    rw [UInt8.toNat_shiftLeft]
    exact congrArg (· % 256) (Nat.shiftLeft_eq q.toNat 1)
  rw [Exact, hlost, hdouble]
  omega

end Bytes

end Arithmetic

/-! ## Registers -/

theorem Instruction.decode_arithmetic {o : Arithmetic} {x y : Register} {opcode : UInt16}
    (h : opcode.toNat = 0x8000 + 0x100 * x + 0x10 * y + o.digit) :
    decode opcode = some (.arithmetic o x y) := by
  have hcode : opcode = (Instruction.arithmetic o x y).encode :=
    UInt16.toNat_inj.1 (h.trans (toNat_encode (.arithmetic o x y)).symm)
  rw [hcode, decode_encode]

namespace Machine

variable {m : Machine} {o : Arithmetic} {x y : Register}

/-- An operation that raises the flag writes a result and then a flag that account for its
operands. -/
theorem arithmetic_of_raisesFlag (ho : o.raisesFlag = true) :
    ∃ value flag : UInt8, m.arithmetic o x y = (m.registers.set x value).set .flag flag ∧
      Arithmetic.Exact (m.registers.get x).toNat (m.registers.get y).toNat
        (m.shiftOperand x y).toNat o value.toNat flag.toNat := by
  cases o with
  | copy | or | and | xor => cases ho
  | add => exact ⟨_, _, rfl, Arithmetic.exact_add _ _ _⟩
  | sub => exact ⟨_, _, rfl, Arithmetic.toNat_sub_eq _ _⟩
  | subFrom => exact ⟨_, _, rfl, Arithmetic.toNat_sub_eq _ _⟩
  | shiftRight => exact ⟨_, _, rfl, Arithmetic.exact_shiftRight _ _ _⟩
  | shiftLeft => exact ⟨_, _, rfl, Arithmetic.exact_shiftLeft _ _ _⟩

theorem execute_arithmetic (m : Machine) (o : Arithmetic) (x y : Register) :
    m.execute (.arithmetic o x y) = .ok (.next, { m with registers := m.arithmetic o x y }) := rfl

theorem toNat_shiftOperand (m : Machine) (x y : Register) :
    ((m.shiftOperand x y).toNat : Int) = match m.config.shift with
      | .vy => ((m.registers.get y).toNat : Int)
      | .vx => ((m.registers.get x).toNat : Int) := by
  rw [shiftOperand]
  cases m.config.shift with
  | vy => rfl
  | vx => rfl

/-- `8XY4`, `8XY5`, `8XY6`, `8XY7` and `8XYE`, for all registers and whichever of `X`, `Y` and `F`
are the same.  There is exactly one result from 0 to 255 and one flag of 0 or 1 that account for
the operands over the integers.  The instruction is carried out, and then the flag is in `VF`, the
result in `VX` unless that is `VF`, and the other registers are as before. -/
theorem arithmetic_exact (m : Machine) {o : Arithmetic} (ho : o.raisesFlag = true)
    (x y : Register) :
    let a : Int := (m.registers.get x).toNat
    let b : Int := (m.registers.get y).toNat
    let q : Int := match m.config.shift with
      | .vy => b
      | .vx => a
    let Accounts (r f : Int) := (0 ≤ r ∧ r < 256) ∧ (f = 0 ∨ f = 1) ∧ o.Exact a b q r f
    ∃ r f : Int, Accounts r f ∧ (∀ r' f', Accounts r' f' → r' = r ∧ f' = f) ∧
      (∀ opcode : UInt16, opcode.toNat = 0x8000 + 0x100 * x + 0x10 * y + o.digit →
        Instruction.decode opcode = some (.arithmetic o x y)) ∧
      ∃ v : Table 16 UInt8,
        m.execute (.arithmetic o x y) =
          .ok (.next, { m with registers := { m.registers with v } }) ∧
        (m.Runs (.arithmetic o x y) → m.step = (.ok .executed,
          { m with registers := { m.registers with v, pc := m.registers.pc + 2 } })) ∧
        ((v.get Register.flag).toNat = f ∧ (x ≠ .flag → (v.get x).toNat = r) ∧
          ∀ z, z ≠ x → z ≠ .flag → v.get z = m.registers.get z) := by
  intro a b q Accounts
  obtain ⟨value, flag, hregisters, hexact⟩ := arithmetic_of_raisesFlag (m := m) (x := x) (y := y) ho
  have hget (z : Register) : (m.arithmetic o x y).get z =
      if z = .flag then flag else if z = x then value else m.registers.get z := by
    rw [hregisters, Registers.get_set, Registers.get_set]
  have hv : m.arithmetic o x y = { m.registers with v := (m.arithmetic o x y).v } := by
    rw [hregisters]
    rfl
  have hflag : flag.toNat ≤ 1 := by
    have hle := flag_of_execute (m.execute_arithmetic o x y) ho
    rwa [hget, if_pos rfl] at hle
  have hoperand : ((m.shiftOperand x y).toNat : Int) = q := m.toNat_shiftOperand x y
  rw [hoperand] at hexact
  have haccounts : Accounts value.toNat flag.toNat := by
    have hvalue := value.toNat_lt
    exact ⟨by omega, by omega, hexact⟩
  refine ⟨value.toNat, flag.toNat, haccounts, ?_, ?_, (m.arithmetic o x y).v, ?_, ?_, ?_, ?_, ?_⟩
  · rintro r' f' ⟨hr', hf', hexact'⟩
    exact hexact.unique haccounts.1 haccounts.2.1 hexact' hr' hf'
  · exact fun opcode => Instruction.decode_arithmetic
  · rw [execute_arithmetic, ← hv]
  · intro hruns
    rw [hruns.step_of_arithmetic, hv]
    rfl
  · exact congrArg (fun w : UInt8 => (w.toNat : Int)) ((hget .flag).trans (if_pos rfl))
  · intro hx
    have hresult := hget x
    rw [if_neg hx, if_pos rfl] at hresult
    exact congrArg (fun w : UInt8 => (w.toNat : Int)) hresult
  · intro z hz hzflag
    have hother := hget z
    rwa [if_neg hzflag, if_neg hz] at hother

/-- 200 is added to itself in `VF`.  Of the result 144 and the carry 1 only the carry is left. -/
theorem arithmetic_exact_into_flag :
    let m := (powerOn {} 0).run [.load [0x6F, 0xC8, 0x8F, 0xF4], .step]
    Arithmetic.add.raisesFlag = true ∧ m.Runs (.arithmetic .add 15 15) ∧
      (m.registers.get 15).toNat = 200 ∧ (m.step.2.registers.get 15).toNat = 1 := by
  intro m
  obtain ⟨hruns, ha⟩ : m.Runs (.arithmetic .add 15 15) ∧ (m.registers.get 15).toNat = 200 := by
    decide +kernel
  obtain ⟨r, f, ⟨hr, hf, hexact⟩, -, -, v, -, hstep, hflag, -⟩ :=
    arithmetic_exact m (o := .add) rfl 15 15
  refine ⟨rfl, hruns, ha, ?_⟩
  have hsum : r + 256 * f = ((m.registers.get 15).toNat : Int) + (m.registers.get 15).toNat :=
    hexact
  have hcarry : ((v.get Register.flag).toNat : Int) = 1 := by omega
  rw [hstep hruns]
  exact Int.ofNat.inj hcarry

end Machine

end Chip8
