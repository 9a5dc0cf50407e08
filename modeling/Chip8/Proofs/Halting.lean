import Chip8.Proofs.Cycle
import Chip8.Proofs.Operations

/-!
# Halting

A trap is never only an answer.  Whichever operation answers with one, the machine it
leaves behind is halted by that very trap, so that what holds of the traps of halted
machines holds of all traps that a run answers with.
-/

namespace Chip8.Machine

theorem activity_of_cycle_error {m m' : Machine} {t : Trap} (h : m.cycle = (.error t, m')) :
    m'.activity = .halted t := by
  have hc := m.cycle_cases
  rw [h] at hc
  generalize hr : (Except.error t, m') = r at hc
  cases hc with
  | unfetched hf => cases hr; rfl
  | undecoded hf hd => cases hr; rfl
  | refused hf hd he => cases hr; rfl
  | executed hf hd he =>
    obtain ⟨target, -, -, -, rfl⟩ := follow_error hr.symm
    rfl

theorem activity_of_step_error {m m' : Machine} {t : Trap} (h : m.step = (.error t, m')) :
    m'.activity = .halted t := by
  cases ha : m.activity with
  | running =>
    rw [step_of_running ha] at h
    exact activity_of_cycle_error h
  | awaitingKey x =>
    rw [step_of_awaitingKey ha] at h
    cases h
  | halted t' =>
    rw [step_of_halted ha] at h
    cases h
    exact ha

/-- A step that halts a running machine answers with the trap that halted it. -/
theorem step_error_of_halted {m : Machine} {t : Trap} (hrun : m.activity = .running)
    (h : m.step.2.activity = .halted t) : m.step = (.error t, m.step.2) := by
  have hc := m.step_cases
  generalize m.step = r at hc h ⊢
  cases hc with
  | waits hx => cases hrun.symm.trans hx
  | stays ht => cases hrun.symm.trans ht
  | halts t' _ =>
    cases h
    rfl
  | @executes opcode i flow m₁ _ he =>
    have hstill : m₁.activity = .running := (activity_of_execute he).trans hrun
    cases flow with
    | next => cases hstill.symm.trans h
    | skip => cases hstill.symm.trans h
    | redraw => cases hstill.symm.trans h
    | wait target => cases h
    | jump target =>
      rw [follow] at h ⊢
      split at h
      · next hodd =>
        cases h
        rw [if_pos hodd]
        rfl
      · cases hstill.symm.trans h

theorem activity_of_frameSteps_error {t : Trap} {m' : Machine} :
    ∀ {k : Nat} {report : FrameReport} {m : Machine},
      frameSteps k report m = (.error t, m') → m'.activity = .halted t
  | 0, _, _, h => by cases h
  | k + 1, report, m, h => by
      rw [frameSteps] at h
      split at h
      · next t' m₁ hs =>
        cases h
        exact activity_of_step_error hs
      · exact activity_of_frameSteps_error h
      · exact activity_of_frameSteps_error h
      · cases h

/-- Whichever operation answers with a trap, it leaves a machine that the trap halted. -/
theorem activity_of_perform_trap {m : Machine} {op : Operation} {t : Trap}
    (h : (m.perform op).1 = .error (.trap t)) : (m.perform op).2.activity = .halted t := by
  cases op with
  | load program =>
    rw [perform] at h
    rcases m.load_cases program with ⟨-, hl⟩ | ⟨-, hl⟩
    · rw [hl] at h
      cases h
    · rw [hl] at h
      cases h
  | step =>
    simp only [perform] at h ⊢
    cases hs : m.step with
    | mk r m' =>
      rw [hs] at h
      cases r with
      | error t' =>
        cases h
        exact activity_of_step_error hs
      | ok s => cases h
  | runFrame =>
    simp only [perform] at h ⊢
    cases hs : m.runFrame with
    | mk r m' =>
      rw [hs] at h
      cases r with
      | error t' =>
        cases h
        exact activity_of_frameSteps_error hs
      | ok s => cases h
  | tick => cases h
  | keyDown code =>
    rw [perform] at h
    rcases m.keyDown_cases code with ⟨-, hk⟩ | ⟨key, -, ⟨x, -, hk⟩ | ⟨-, hk⟩⟩
    · rw [hk] at h
      cases h
    · rw [hk] at h
      cases h
    · rw [hk] at h
      cases h
  | keyUp code =>
    rw [perform] at h
    rcases m.keyUp_cases code with ⟨-, hk⟩ | ⟨key, -, hk⟩
    · rw [hk] at h
      cases h
    · rw [hk] at h
      cases h
  | reset => cases h

end Chip8.Machine
