import Chip8.Machine.Run

/-!
# Reachable machines

A property is `Stable` if no operation on a machine destroys it.  Frames are not among
what has to be checked: a frame is made of steps and one tick, and `frameSteps_keeps`
follows it.  What holds at power-on and is stable holds of every reachable machine
(`Stable.of_reachable`).
-/

namespace Chip8.Machine

/-! ## Reaching machines -/

theorem reachable_powerOn (config : Config) (entropy : ChaCha.Key) :
    (powerOn config entropy).Reachable :=
  ⟨config, entropy, [], rfl⟩

theorem run_append (m : Machine) (ops ops' : List Operation) :
    m.run (ops ++ ops') = (m.run ops).run ops' := by
  simp only [run, List.foldl_append]

theorem Reachable.perform {m : Machine} (h : m.Reachable) (op : Operation) :
    (m.perform op).2.Reachable := by
  obtain ⟨config, entropy, ops, rfl⟩ := h
  exact ⟨config, entropy, ops ++ [op], (run_append _ ops [op]).symm⟩

/-! ## Stable properties -/

/-- What steps and ticks keep is kept by a frame. -/
theorem frameSteps_keeps {P : Machine → Prop} (hstep : ∀ {m : Machine}, P m → P m.step.2)
    (htick : ∀ {m : Machine}, P m → P m.tick) :
    ∀ (k : Nat) (report : FrameReport) {m : Machine}, P m → P (frameSteps k report m).2
  | 0, _, _, hm => htick hm
  | k + 1, report, m, hm => by
      have hs : P m.step.2 := hstep hm
      rw [frameSteps]
      cases hr : m.step with
      | mk r m' =>
        rw [hr] at hs
        cases r with
        | error t => exact hs
        | ok s =>
          cases s with
          | executed => exact frameSteps_keeps (P := P) hstep htick k _ hs
          | redrawn => exact frameSteps_keeps (P := P) hstep htick k _ hs
          | awaitingKey => exact htick hs

/-- A property of machines that every operation keeps, whatever it answers. -/
structure Stable (P : Machine → Prop) : Prop where
  load : ∀ {m : Machine} (program : List UInt8), P m → P (m.load program).2
  step : ∀ {m : Machine}, P m → P m.step.2
  tick : ∀ {m : Machine}, P m → P m.tick
  keyDown : ∀ {m : Machine} (code : UInt8), P m → P (m.keyDown code).2
  keyUp : ∀ {m : Machine} (code : UInt8), P m → P (m.keyUp code).2
  reset : ∀ {m : Machine}, P m → P m.reset

namespace Stable

variable {P : Machine → Prop}

theorem runFrame (h : Stable P) {m : Machine} (hm : P m) : P m.runFrame.2 :=
  frameSteps_keeps (P := P) h.step h.tick _ _ hm

theorem perform (h : Stable P) {m : Machine} (op : Operation) (hm : P m) :
    P (m.perform op).2 := by
  cases op with
  | load program => exact h.load program hm
  | step => exact h.step hm
  | runFrame => exact h.runFrame hm
  | tick => exact h.tick hm
  | keyDown code => exact h.keyDown code hm
  | keyUp code => exact h.keyUp code hm
  | reset => exact h.reset hm

theorem run (h : Stable P) {m : Machine} (ops : List Operation) (hm : P m) : P (m.run ops) := by
  induction ops generalizing m with
  | nil => exact hm
  | cons op ops ih => exact ih (h.perform op hm)

/-- What holds at power-on and is stable holds of every reachable machine. -/
theorem of_reachable (h : Stable P)
    (start : ∀ (config : Config) (entropy : ChaCha.Key), P (powerOn config entropy))
    {m : Machine} (hm : m.Reachable) : P m := by
  obtain ⟨config, entropy, ops, rfl⟩ := hm
  exact h.run ops (start config entropy)

end Stable

end Chip8.Machine
