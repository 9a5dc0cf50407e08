import Mathlib.Control.Monad.Basic
import Chip8.Proofs.Suspension
import Chip8.Proofs.Traps

/-!
# Standing still for good

Only a reset starts a halted machine again.  Whatever else is done to it, it answers every
step with the trap that halted it, and what the program had come to stays to be looked at:
registers, screen and random numbers are those of the machine whose step trapped, since
that step has changed nothing (`InPlace.cycle_error`) and nothing has been carried out
since (`rests_run`).
-/

namespace Chip8

theorem Activity.withstands_halted {t : Trap} {op : Operation} (h : op ≠ .reset) :
    (Activity.halted t).withstands op := by
  cases op with
  | reset => exact absurd rfl h
  | load program => rfl
  | step => rfl
  | runFrame => rfl
  | tick => rfl
  | keyDown code => rfl
  | keyUp code => rfl

namespace Machine

/-- The step that halts a reachable machine changes nothing else. -/
theorem step_eq_of_halted {m : Machine} {t : Trap} (hm : m.Reachable)
    (hrun : m.activity = .running) (h : m.step.2.activity = .halted t) :
    m.step = (.error t, { m with activity := .halted t }) := by
  have hs := step_error_of_halted hrun h
  rw [step_of_running hrun] at hs ⊢
  rw [hs, (hm.inPlace.cycle_error hs).1]

theorem rests_of_halted {m : Machine} {t : Trap} (h : m.activity = .halted t)
    {ops : List Operation} (hreset : .reset ∉ ops) : m.Rests (m.run ops) := by
  refine rests_run fun op hop => ?_
  rw [h]
  refine Activity.withstands_halted ?_
  rintro rfl
  exact hreset hop

/-- A reachable machine halted by `t` has been so since a step of a running machine that trapped,
and that machine had the registers, the screen and the random numbers that it has now.
Under all operations but a reset it stays halted by `t`: every step answers with `t` and so
does every frame that has a cycle to find out, neither changes anything, and nothing but the
timers, the keypad and the program in memory ever changes. -/
theorem halted_for_good {m : Machine} {t : Trap} (hm : m.Reachable)
    (hhalt : m.activity = .halted t) :
    (∃ (before : Machine) (since : List Operation),
      before.Reachable ∧ before.activity = .running ∧
      before.step = (.error t, { before with activity := .halted t }) ∧
      .reset ∉ since ∧ m = before.step.2.run since ∧
      m.registers = before.registers ∧ m.screen = before.screen ∧
      m.generator = before.generator) ∧
    ∀ ops : List Operation, .reset ∉ ops →
      let w := m.run ops
      w.activity = .halted t ∧
      w.perform .step = (.error (.trap t), w) ∧
      (1 ≤ m.config.cyclesPerFrame.toNat → w.perform .runFrame = (.error (.trap t), w)) ∧
      (w.registers = m.registers ∧ w.screen = m.screen ∧ w.generator = m.generator ∧
        w.config = m.config ∧ ∀ a < Memory.programStart, w.memory.byteAt a = m.memory.byteAt a) := by
  refine ⟨?_, ?_⟩
  · have hrest : m.activity ≠ .running := by
      rw [hhalt]
      simp
    obtain ⟨before, since, hsince⟩ := hm.restBegan hrest
    have hhalted : before.step.2.activity = .halted t := hsince.rests.activity.symm.trans hhalt
    have hstep := step_eq_of_halted hsince.reachable hsince.running hhalted
    refine ⟨before, since, hsince.reachable, hsince.running, hstep, ?_, hsince.eq_run, ?_⟩
    · intro hreset
      have hwithstands := hsince.withstands .reset hreset
      rw [hhalted] at hwithstands
      cases hwithstands
    · have hrests := hsince.rests
      rw [hstep] at hrests
      exact ⟨hrests.registers, hrests.screen, hrests.generator⟩
  · intro ops hreset w
    have hrests : m.Rests w := rests_of_halted hhalt hreset
    have hw : w.activity = .halted t := hrests.activity.trans hhalt
    refine ⟨hw, ?_, ?_, hrests.registers, hrests.screen, hrests.generator, hrests.config,
      hrests.reserved⟩
    · rw [perform, step_of_halted hw]
      rfl
    · intro hcycles
      rw [perform, runFrame_of_halted hw, hrests.config, if_neg (by omega)]
      rfl

/-- A program returns without a call.  Keys, ticks, another program, one that is too long, steps and
frames leave the machine halted there, with what the program had computed. -/
theorem halted_for_good_stray_return :
    let m := (powerOn {} 0).run [.load [0x60, 0x2A, 0x00, 0xEE], .runFrame]
    let t : Trap := ⟨.stackUnderflow, 0x202, some 0x00EE⟩
    let ops : List Operation :=
      [.keyDown 3, .load [0x12, 0x00], .load (List.replicate 3585 0), .keyUp 77, .tick, .runFrame,
        .step]
    m.Reachable ∧ m.activity = .halted t ∧ m.registers.get .first = 0x2A ∧
      (m.run ops).activity = .halted t ∧
      (m.run ops).perform .runFrame = (.error (.trap t), m.run ops) ∧
      (m.run ops).registers = m.registers := by
  intro m t ops
  have hm : m.Reachable := ⟨_, _, _, rfl⟩
  have hhalt : m.activity = .halted t := by decide +kernel
  have hvalue : m.registers.get .first = 0x2A := by decide +kernel
  obtain ⟨-, h⟩ := halted_for_good hm hhalt
  obtain ⟨hstill, -, hframe, hregisters, -⟩ := h ops (by decide +kernel)
  exact ⟨hm, hhalt, hvalue, hstill, hframe (by decide +kernel), hregisters⟩

end Machine

end Chip8
