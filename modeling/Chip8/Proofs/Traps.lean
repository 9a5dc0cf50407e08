import Mathlib.Control.Monad.Basic
import Chip8.Proofs.Bare.Agreement

/-!
# Traps are atomic

A step that traps changes nothing but what the machine is doing.  Most faults are raised
before anything is written.  The one that is not is that of a jump: whether the target is
odd is asked after the instruction was carried out, and a return has closed its call by
then.  So atomicity is a fact on runs and not on single steps: it holds since the return
addresses of a reachable machine are even.
-/

namespace Chip8.Machine

/-- An instruction whose jump is refused has changed nothing. -/
theorem eq_of_transfer_jump {m m' : Machine} {i : Instruction} {target : UInt16}
    (hm : m.InPlace) (ht : Transfer m i (.jump target) m') (hodd : target.toNat % 2 ≠ 0) :
    m' = m := by
  cases ht with
  | jump a => rfl
  | jumpOffset a => rfl
  | call a heven hroom =>
    rw [toNat_word] at hodd
    exact absurd heven hodd
  | ret hs => exact absurd (hm.aligned.pop hs).1.even hodd
  | straight hlocal _ _ _ => exact hlocal.elim

/-- The word at an address, the more significant byte first, unless it reaches past the end. -/
def opcodeAt (m : Machine) (pc : UInt16) : Option Nat :=
  if pc.toNat ≤ 0xFFE then
    some (256 * (m.memory.byteAt pc.toNat).toNat + (m.memory.byteAt (pc.toNat + 1)).toNat)
  else none

theorem opcodeAt_of_readWord {m : Machine} {pc opcode : UInt16}
    (h : m.memory.readWord pc = .ok opcode) : m.opcodeAt pc = some opcode.toNat := by
  obtain ⟨hle, hw⟩ := Memory.readWord_eq_ok_iff.1 h
  rw [opcodeAt, if_pos hle, hw]

theorem opcodeAt_of_readWord_error {m : Machine} {pc : UInt16} {fault : Fault}
    (h : m.memory.readWord pc = .error fault) : m.opcodeAt pc = none := by
  have hlt := (Memory.readWord_eq_error_iff.1 h).1
  rw [opcodeAt, if_neg (by omega)]

theorem InPlace.cycle_error {m m' : Machine} {t : Trap} (hm : m.InPlace)
    (h : m.cycle = (.error t, m')) :
    m' = { m with activity := .halted t } ∧ t.pc = m.registers.pc ∧
      t.opcode.map UInt16.toNat = m.opcodeAt m.registers.pc := by
  have hc := m.cycle_cases
  rw [h] at hc
  generalize hr : (Except.error t, m') = r at hc
  cases hc with
  | unfetched hf =>
    cases hr
    exact ⟨rfl, rfl, (opcodeAt_of_readWord_error hf).symm⟩
  | undecoded hf hd =>
    cases hr
    exact ⟨rfl, rfl, (opcodeAt_of_readWord hf).symm⟩
  | refused hf hd he =>
    cases hr
    exact ⟨rfl, rfl, (opcodeAt_of_readWord hf).symm⟩
  | executed hf hd he =>
    obtain ⟨target, rfl, hodd, rfl, rfl⟩ := follow_error hr.symm
    rw [eq_of_transfer_jump hm (execute_transfer he) hodd]
    exact ⟨rfl, rfl, (opcodeAt_of_readWord hf).symm⟩

/-- A step of a reachable running machine that traps halts the machine by the very trap it
answers with and changes nothing else.  The trap names the program counter and the word
there, unless there is none.  The same holds of the bare machine, which has nothing that
takes back what an instruction wrote before its fault. -/
theorem step_trap_atomic {m m' : Machine} {t : Trap} (hm : m.Reachable)
    (hrun : m.activity = .running) (h : m.step = (.error t, m')) :
    m' = { m with activity := .halted t } ∧ t.pc = m.registers.pc ∧
      t.opcode.map UInt16.toNat =
        (if m.registers.pc.toNat ≤ 0xFFE then
          some (256 * (m.memory.byteAt m.registers.pc.toNat).toNat +
            (m.memory.byteAt (m.registers.pc.toNat + 1)).toNat)
        else none) ∧
      m.bare.step = .ok (.error t, { m.bare with activity := .halted t }) := by
  have hbare := m.step_bare
  rw [h] at hbare
  rw [step_of_running hrun] at h
  obtain ⟨rfl, hpc, hopcode⟩ := hm.inPlace.cycle_error h
  exact ⟨rfl, hpc, hopcode, hbare⟩

/-- The digits of a byte do not fit at the last address, and none of them is written. -/
theorem step_trap_atomic_past_end :
    let m := (powerOn {} 0).run [.load [0xAF, 0xFF, 0xF0, 0x33], .step]
    let t : Trap := ⟨.addressOutOfRange 0x1000, 0x202, some 0xF033⟩
    m.Reachable ∧ m.activity = .running ∧
      m.step = (.error t, { m with activity := .halted t }) := by
  intro m t
  have h : m.Reachable := ⟨_, _, _, rfl⟩
  have hrun : m.activity = .running := by decide +kernel
  have htrap : m.step.1 = .error t := by decide +kernel
  have hstep : m.step = (.error t, m.step.2) := by rw [← htrap]
  have hatomic : m.step.2 = { m with activity := .halted t } := (step_trap_atomic h hrun hstep).1
  exact ⟨h, hrun, Prod.ext htrap hatomic⟩

end Chip8.Machine
