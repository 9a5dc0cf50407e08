import Chip8.Proofs.Halting
import Chip8.Proofs.Reachability

/-!
# Where control can be

A program can put any bytes anywhere above the font and jump to any even address, yet the
program counter never strays far: in every reachable machine it is even and at most
`0x10FE`, and so are the return addresses, which moreover come right behind an instruction
that was fetched (`Registers.Aligned`).  The two are proved together, since a call pushes
what the counter is and a return moves the counter to what was pushed.  A machine that
waits or is halted stands where it stopped (`Activity.Agrees`).

The bound is that of a jump with an offset, `0xFFF + 0xFF`.  No other instruction gets
beyond `0x1002`.
-/

namespace Chip8

/-! ## The invariant -/

/-- An address right behind an instruction that was fetched. -/
structure IsReturnAddress (a : UInt16) : Prop where
  even : a.toNat % 2 = 0
  two_le : 2 ≤ a.toNat
  le : a.toNat ≤ 0x1000

/-- The program counter and the open calls keep to even addresses within reach. -/
structure Registers.Aligned (r : Registers) : Prop where
  pc_even : r.pc.toNat % 2 = 0
  pc_le : r.pc.toNat ≤ 0x10FE
  depth : r.stack.length ≤ 16
  returns : ∀ a ∈ r.stack, IsReturnAddress a

theorem Registers.aligned_powerOn : Registers.powerOn.Aligned where
  pc_even := by decide
  pc_le := by decide
  depth := by decide
  returns := by
    intro a ha
    cases ha

/-- What a machine is doing agrees with the place where it stopped. -/
def Activity.Agrees (pc : UInt16) : Activity → Prop
  | .running => True
  | .awaitingKey _ => pc.toNat ≤ 0x1000
  | .halted t => t.pc = pc ∧ (t.opcode = some 0x00EE → ∀ a, t.fault ≠ .misalignedJump a)

namespace Machine

/-- Control is where a program can have brought it. -/
structure InPlace (m : Machine) : Prop where
  aligned : m.registers.Aligned
  agrees : m.activity.Agrees m.registers.pc

theorem inPlace_powerOn (config : Config) (entropy : ChaCha.Key) :
    (powerOn config entropy).InPlace where
  aligned := Registers.aligned_powerOn
  agrees := trivial

/-! ## Moving the program counter -/

theorem toNat_word (a : Address) : (word a).toNat = a.val := by
  have := a.isLt
  rw [word, UInt16.toNat_ofNat']
  omega

theorem toNat_offset (a : Address) (b : UInt8) :
    (word a + b.toUInt16).toNat = a.val + b.toNat := by
  have ha := a.isLt
  have hb := b.toNat_lt
  rw [UInt16.toNat_add, toNat_word, UInt8.toNat_toUInt16]
  omega

/-- Behind an instruction that was fetched there is room in sixteen bits. -/
theorem toNat_behind {pc : UInt16} (h : pc.toNat ≤ 0xFFE) : (pc + 2).toNat = pc.toNat + 2 := by
  rw [UInt16.toNat_add]
  have h2 : (2 : UInt16).toNat = 2 := rfl
  omega

theorem toNat_behindNext {pc : UInt16} (h : pc.toNat ≤ 0xFFE) : (pc + 4).toNat = pc.toNat + 4 := by
  rw [UInt16.toNat_add]
  have h4 : (4 : UInt16).toNat = 4 := rfl
  omega

theorem isReturnAddress_behind {pc : UInt16} (heven : pc.toNat % 2 = 0) (hle : pc.toNat ≤ 0xFFE) :
    IsReturnAddress (pc + 2) := by
  have h := toNat_behind hle
  exact ⟨by omega, by omega, by omega⟩

end Machine

namespace Registers.Aligned

variable {r r' : Registers}

/-- Alignment reads no more of the registers than the counter and the stack. -/
theorem congr (h : r.Aligned) (hpc : r'.pc = r.pc) (hstack : r'.stack = r.stack) : r'.Aligned where
  pc_even := by rw [hpc]; exact h.pc_even
  pc_le := by rw [hpc]; exact h.pc_le
  depth := by rw [hstack]; exact h.depth
  returns := by rw [hstack]; exact h.returns

theorem goTo (h : r.Aligned) {pc : UInt16} (heven : pc.toNat % 2 = 0) (hle : pc.toNat ≤ 0x10FE) :
    Registers.Aligned { r with pc } :=
  ⟨heven, hle, h.depth, h.returns⟩

theorem push (h : r.Aligned) (hroom : r.stack.length ≠ stackDepth) {a : UInt16}
    (ha : IsReturnAddress a) : Registers.Aligned { r with stack := a :: r.stack } where
  pc_even := h.pc_even
  pc_le := h.pc_le
  depth := by
    have hle := h.depth
    have hne : r.stack.length ≠ 16 := hroom
    simp only [List.length_cons]
    omega
  returns := by
    intro b hb
    cases hb with
    | head => exact ha
    | tail _ hb => exact h.returns b hb

theorem pop (h : r.Aligned) {a : UInt16} {rest : List UInt16} (hs : r.stack = a :: rest) :
    IsReturnAddress a ∧ Registers.Aligned { r with stack := rest } := by
  have hdepth := h.depth
  have hreturns := h.returns
  rw [hs] at hdepth hreturns
  refine ⟨hreturns a (.head _), h.pc_even, h.pc_le, ?_, ?_⟩
  · simp only [List.length_cons] at hdepth
    exact Nat.le_of_succ_le hdepth
  · intro b hb
    exact hreturns b (.tail _ hb)

end Registers.Aligned

/-! ## One step -/

namespace Machine

/-- The instruction that `0x00EE` spells returns, and never asks for anything but its caller. -/
theorem decode_return : Instruction.decode 0x00EE = some .ret := rfl

theorem execute_ret_eq_error_iff {m : Machine} {fault : Fault} :
    m.execute .ret = .error fault ↔ m.registers.stack = [] ∧ fault = .stackUnderflow :=
  bind_pure_eq_error_iff.trans Registers.pop_eq_error_iff

namespace InPlace

variable {m : Machine}

theorem halt (h : m.InPlace) {t : Trap} (hpc : t.pc = m.registers.pc)
    (hreturn : t.opcode = some 0x00EE → ∀ a, t.fault ≠ .misalignedJump a) :
    (m.halt t).2.InPlace :=
  ⟨h.aligned, hpc, hreturn⟩

theorem goTo (h : m.InPlace) (hrun : m.activity = .running) {pc : UInt16}
    (heven : pc.toNat % 2 = 0) (hle : pc.toNat ≤ 0x10FE) : (m.goTo pc).InPlace where
  aligned := h.aligned.goTo heven hle
  agrees := by
    rw [Machine.goTo, hrun]
    trivial

theorem withStack (hrun : m.activity = .running) {stack : List UInt16}
    (h : Registers.Aligned { m.registers with stack }) : (m.withStack stack).InPlace where
  aligned := h
  agrees := by
    rw [Machine.withStack, hrun]
    trivial

/-- Behind an instruction that was fetched and does not jump, control is in place. -/
theorem follow_local (h : m.InPlace) (hrun : m.activity = .running) {opcode : UInt16} {flow : Flow}
    (hlocal : flow.IsLocal) (hle : m.registers.pc.toNat ≤ 0xFFE) :
    (m.follow m.registers.pc opcode flow).2.InPlace := by
  have heven := h.aligned.pc_even
  have h2 := toNat_behind hle
  have h4 := toNat_behindNext hle
  cases flow with
  | next => exact h.goTo hrun (by omega) (by omega)
  | skip => exact h.goTo hrun (by omega) (by omega)
  | redraw => exact h.goTo hrun (by omega) (by omega)
  | jump target => exact hlocal.elim
  | wait target =>
    refine ⟨h.aligned.goTo (by omega) (by omega), ?_⟩
    show (m.registers.pc + 2).toNat ≤ 0x1000
    omega

/-- A jump within reach either arrives in place or is refused in place. -/
theorem follow_jump (h : m.InPlace) (hrun : m.activity = .running) {opcode target : UInt16}
    (hle : target.toNat ≤ 0x10FE) (hreturn : opcode = 0x00EE → target.toNat % 2 = 0) :
    (m.follow m.registers.pc opcode (.jump target)).2.InPlace := by
  rw [follow]
  split
  · next hodd =>
    refine h.halt rfl ?_
    intro hop
    exact absurd (hreturn (Option.some.inj hop)) hodd
  · next heven => exact h.goTo hrun (by omega) hle

/-- Whatever an instruction does to control, it leaves it in place. -/
theorem follow_of_transfer (h : m.InPlace) (hrun : m.activity = .running)
    (hle : m.registers.pc.toNat ≤ 0xFFE) {opcode : UInt16} {i : Instruction} {flow : Flow}
    {m' : Machine} (hd : Instruction.decode opcode = some i) (ht : Transfer m i flow m') :
    (m'.follow m.registers.pc opcode flow).2.InPlace := by
  cases ht with
  | jump a =>
    refine h.follow_jump hrun ?_ ?_
    · rw [toNat_word]
      have := a.isLt
      omega
    · rintro rfl
      rw [decode_return] at hd
      cases hd
  | jumpOffset a =>
    refine h.follow_jump hrun ?_ ?_
    · rw [toNat_offset]
      have ha := a.isLt
      have hb := (m.registers.get .first).toNat_lt
      omega
    · rintro rfl
      rw [decode_return] at hd
      cases hd
  | call a heven hroom =>
    have hback := isReturnAddress_behind h.aligned.pc_even hle
    have hcall := withStack hrun (h.aligned.push hroom hback)
    refine hcall.follow_jump hrun ?_ ?_
    · rw [toNat_word]
      have := a.isLt
      omega
    · intro _
      rw [toNat_word]
      exact heven
  | ret hs =>
    obtain ⟨hback, hrest⟩ := h.aligned.pop hs
    have hle := hback.le
    exact (withStack hrun hrest).follow_jump hrun (by omega) fun _ => hback.even
  | straight hlocal hpc hstack hact =>
    have h' : m'.InPlace := by
      refine ⟨h.aligned.congr hpc hstack, ?_⟩
      rw [hact, hrun]
      trivial
    rw [← hpc]
    exact h'.follow_local (hact.trans hrun) hlocal (by rw [hpc]; exact hle)

theorem cycle (h : m.InPlace) (hrun : m.activity = .running) : m.cycle.2.InPlace := by
  have hc := m.cycle_cases
  generalize m.cycle = r at hc ⊢
  cases hc with
  | unfetched hf => exact h.halt rfl (by intro hop; cases hop)
  | undecoded hf hd => exact h.halt rfl (by intro _ a ha; cases ha)
  | refused hf hd he =>
    refine h.halt rfl ?_
    intro hop a ha
    cases hop
    rw [decode_return] at hd
    cases hd
    have hfault := (execute_ret_eq_error_iff.1 he).2
    rw [hfault] at ha
    cases ha
  | executed hf hd he =>
    exact h.follow_of_transfer hrun (Memory.readWord_eq_ok_iff.1 hf).1 hd (execute_transfer he)

theorem step (h : m.InPlace) : m.step.2.InPlace := by
  cases ha : m.activity with
  | running =>
    rw [step_of_running ha]
    exact h.cycle ha
  | awaitingKey x =>
    rw [step_of_awaitingKey ha]
    exact h
  | halted t =>
    rw [step_of_halted ha]
    exact h

/-! ## All operations -/

theorem load (h : m.InPlace) (program : List UInt8) : (m.load program).2.InPlace := by
  rcases m.load_cases program with ⟨-, hl⟩ | ⟨-, hl⟩
  · rw [hl]
    exact h
  · rw [hl]
    exact ⟨h.aligned, h.agrees⟩

theorem keyDown (h : m.InPlace) (code : UInt8) : (m.keyDown code).2.InPlace := by
  rcases m.keyDown_cases code with ⟨-, hk⟩ | ⟨key, -, ⟨x, -, hk⟩ | ⟨-, hk⟩⟩
  · rw [hk]
    exact h
  · rw [hk]
    exact ⟨h.aligned.congr rfl rfl, trivial⟩
  · rw [hk]
    exact ⟨h.aligned, h.agrees⟩

theorem keyUp (h : m.InPlace) (code : UInt8) : (m.keyUp code).2.InPlace := by
  rcases m.keyUp_cases code with ⟨-, hk⟩ | ⟨key, -, hk⟩
  · rw [hk]
    exact h
  · rw [hk]
    exact ⟨h.aligned, h.agrees⟩

theorem stable : Stable InPlace where
  load program h := h.load program
  step h := h.step
  tick h := ⟨h.aligned, h.agrees⟩
  keyDown code h := h.keyDown code
  keyUp code h := h.keyUp code
  reset _ := ⟨Registers.aligned_powerOn, trivial⟩

end InPlace

theorem Reachable.inPlace {m : Machine} (h : m.Reachable) : m.InPlace :=
  InPlace.stable.of_reachable inPlace_powerOn h

/-- In every reachable machine the program counter and the return addresses are even and
within reach, a wait and a halt are where they began, and no operation answers that a
return led to an odd address. -/
theorem reachable_control {m : Machine} (h : m.Reachable) :
    (m.registers.pc.toNat % 2 = 0 ∧ m.registers.pc.toNat ≤ 0x10FE) ∧
    (m.registers.stack.length ≤ 16 ∧
      ∀ a ∈ m.registers.stack, a.toNat % 2 = 0 ∧ 2 ≤ a.toNat ∧ a.toNat ≤ 0x1000) ∧
    (∀ x, m.activity = .awaitingKey x → x.val < 16 ∧ m.registers.pc.toNat ≤ 0x1000) ∧
    (∀ t, m.activity = .halted t → t.pc = m.registers.pc) ∧
    ∀ op t target, (m.perform op).1 = .error (.trap t) → t.opcode = some 0x00EE →
      t.fault ≠ .misalignedJump target := by
  have hm := h.inPlace
  refine ⟨⟨hm.aligned.pc_even, hm.aligned.pc_le⟩, ⟨hm.aligned.depth, ?_⟩, ?_, ?_, ?_⟩
  · intro a ha
    have hback := hm.aligned.returns a ha
    exact ⟨hback.even, hback.two_le, hback.le⟩
  · intro x hx
    have hagrees := hm.agrees
    rw [hx] at hagrees
    exact ⟨x.isLt, hagrees⟩
  · intro t ht
    have hagrees := hm.agrees
    rw [ht] at hagrees
    exact hagrees.1
  · intro op t target htrap hop
    -- The machine that the operation leaves behind is reachable and halted by `t`.
    have hagrees := (h.perform op).inPlace.agrees
    rw [activity_of_perform_trap htrap] at hagrees
    exact hagrees.2 hop target

/-- A program that calls a routine which waits for a key: the wait and the open call are where
the theorem says. -/
theorem reachable_control_in_call :
    let m := (powerOn {} 0).run [.load [0x22, 0x04, 0x00, 0x00, 0xF0, 0x0A], .step, .step]
    m.Reachable ∧ m.activity = .awaitingKey 0 ∧ m.registers.stack = [0x202] ∧
      m.registers.pc.toNat ≤ 0x1000 ∧ (0x202 : UInt16).toNat % 2 = 0 := by
  intro m
  have h : m.Reachable := ⟨_, _, _, rfl⟩
  have hwait : m.activity = .awaitingKey 0 := by decide +kernel
  have hstack : m.registers.stack = [0x202] := by decide +kernel
  have hm := reachable_control h
  have hback : (0x202 : UInt16) ∈ m.registers.stack := by
    rw [hstack]
    exact .head _
  exact ⟨h, hwait, hstack, (hm.2.2.1 0 hwait).2, (hm.2.1.2 0x202 hback).1⟩

end Machine

end Chip8
