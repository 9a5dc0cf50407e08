import Chip8.Proofs.Cycle
import Chip8.Proofs.Reachability

/-!
# Frames are steps and a tick

A frame is a loop with three ways out: the cycles are used up, the machine starts to wait,
or a step traps.  `Cycles` is a run of steps that each carry out an instruction, counted and
with a note whether any of them changed the screen, and `FrameRun` says that a frame is such
a run and then either its end or a trap.  What a frame reports, and that a trap comes
without a tick, is read off these two (`runFrame_steps`).

`unrolled` takes the frames of a list of operations apart, so that the moments inside a
frame are moments of a run like all others.  The parts of a frame are its steps and, if it
succeeds, a tick behind them (`exists_parts_eq`), and they do what the frame does
(`run_parts`).  So the last moment of a list of operations is where running it leads
(`moment_length`).
-/

namespace Chip8

@[simp] theorem FrameReport.executed_count (r : FrameReport) (redraw : Bool) :
    (r.count redraw).executed = r.executed + 1 := rfl

@[simp] theorem FrameReport.redraw_count (r : FrameReport) (redraw : Bool) :
    (r.count redraw).redraw = (r.redraw || redraw) := rfl

namespace Machine

/-! ## Steps in a row -/

/-- The machine after a number of steps, whatever they answer. -/
def stepped (m : Machine) (n : Nat) : Machine := m.run (List.replicate n .step)

@[simp] theorem stepped_zero (m : Machine) : m.stepped 0 = m := rfl

theorem stepped_succ (m : Machine) (n : Nat) : m.stepped (n + 1) = m.step.2.stepped n := rfl

/-- One more step at the end is one more at the beginning. -/
theorem step_stepped (m : Machine) (n : Nat) : (m.stepped n).step.2 = m.stepped (n + 1) := by
  induction n generalizing m with
  | zero => rfl
  | succ n ih => rw [stepped_succ, ih, ← stepped_succ]

/-- Steps that each carry out an instruction, with their number and whether any of them
changed the screen. -/
inductive Cycles : Machine → Nat → Bool → Machine → Prop where
  | none (m : Machine) : Cycles m 0 false m
  | executed {m m₁ m' : Machine} {n : Nat} {redraw : Bool} :
      m.step = (.ok .executed, m₁) → Cycles m₁ n redraw m' → Cycles m (n + 1) redraw m'
  | redrawn {m m₁ m' : Machine} {n : Nat} {redraw : Bool} :
      m.step = (.ok .redrawn, m₁) → Cycles m₁ n redraw m' → Cycles m (n + 1) true m'

namespace Cycles

variable {m m' : Machine} {n : Nat} {redraw : Bool}

theorem eq_stepped (h : Cycles m n redraw m') : m' = m.stepped n := by
  induction h with
  | none m => rfl
  | executed hs _ ih => rw [stepped_succ, hs, ih]
  | redrawn hs _ ih => rw [stepped_succ, hs, ih]

/-- Each of the steps says that it carried out an instruction. -/
theorem answers (h : Cycles m n redraw m') :
    ∀ j < n, (m.stepped j).step.1 = .ok .executed ∨ (m.stepped j).step.1 = .ok .redrawn := by
  induction h with
  | none m =>
    intro j hj
    omega
  | executed hs _ ih =>
    intro j hj
    cases j with
    | zero => exact .inl (by rw [stepped_zero, hs])
    | succ j =>
      rw [stepped_succ, hs]
      exact ih j (by omega)
  | redrawn hs _ ih =>
    intro j hj
    cases j with
    | zero => exact .inr (by rw [stepped_zero, hs])
    | succ j =>
      rw [stepped_succ, hs]
      exact ih j (by omega)

/-- The note is kept exactly if one of the steps changed the screen. -/
theorem redraw_iff (h : Cycles m n redraw m') :
    redraw = true ↔ ∃ j < n, (m.stepped j).step.1 = .ok .redrawn := by
  induction h with
  | none m =>
    constructor
    · intro h
      cases h
    · rintro ⟨j, hj, -⟩
      omega
  | executed hs _ ih =>
    rw [ih]
    constructor
    · rintro ⟨j, hj, hr⟩
      refine ⟨j + 1, by omega, ?_⟩
      rw [stepped_succ, hs]
      exact hr
    · rintro ⟨j, hj, hr⟩
      cases j with
      | zero =>
        rw [stepped_zero, hs] at hr
        cases hr
      | succ j =>
        rw [stepped_succ, hs] at hr
        exact ⟨j, by omega, hr⟩
  | redrawn hs _ _ => exact ⟨fun _ => ⟨0, by omega, by rw [stepped_zero, hs]⟩, fun _ => rfl⟩

/-- Without a note the screen is the one before. -/
theorem screen_eq (h : Cycles m n redraw m') (hredraw : redraw = false) :
    m'.screen = m.screen := by
  induction h with
  | none m => rfl
  | executed hs _ ih =>
    have hone := screen_of_step hs (by simp)
    exact (ih hredraw).trans hone
  | redrawn _ _ _ => cases hredraw

end Cycles

/-! ## The ways a frame can go -/

/-- The results that up to `k` cycles of a frame can have, with what the frame reported before
them. -/
inductive FrameRun (k : Nat) (m : Machine) (report : FrameReport) :
    Except Trap FrameReport × Machine → Prop where
  /-- The cycles are used up or the machine waits, and the frame comes to its end. -/
  | finished {n : Nat} {redraw : Bool} {m' : Machine} {total : FrameReport} :
      Cycles m n redraw m' → n ≤ k → (n < k → ∃ x, m'.activity = .awaitingKey x) →
      total.executed = report.executed + n → total.redraw = (report.redraw || redraw) →
      FrameRun k m report (m'.endFrame total)
  /-- A step traps, and the frame breaks off there. -/
  | trapped {n : Nat} {redraw : Bool} {m₁ m' : Machine} {t : Trap} :
      Cycles m n redraw m₁ → n < k → m₁.step = (.error t, m') →
      FrameRun k m report (.error t, m')

namespace FrameRun

variable {k : Nat} {m m₁ : Machine} {report : FrameReport}
  {r : Except Trap FrameReport × Machine}

theorem executed (hs : m.step = (.ok .executed, m₁)) (h : FrameRun k m₁ (report.count false) r) :
    FrameRun (k + 1) m report r := by
  cases h with
  | finished hc hle hwait hexecuted hredraw =>
    refine .finished (.executed hs hc) (by omega) (fun hlt => hwait (by omega)) ?_ ?_
    · rw [hexecuted, FrameReport.executed_count]
      omega
    · rw [hredraw, FrameReport.redraw_count, Bool.or_false]
  | trapped hc hlt ht => exact .trapped (.executed hs hc) (by omega) ht

theorem redrawn (hs : m.step = (.ok .redrawn, m₁)) (h : FrameRun k m₁ (report.count true) r) :
    FrameRun (k + 1) m report r := by
  cases h with
  | finished hc hle hwait hexecuted hredraw =>
    refine .finished (.redrawn hs hc) (by omega) (fun hlt => hwait (by omega)) ?_ ?_
    · rw [hexecuted, FrameReport.executed_count]
      omega
    · rw [hredraw, FrameReport.redraw_count, Bool.or_true, Bool.true_or]
  | trapped hc hlt ht => exact .trapped (.redrawn hs hc) (by omega) ht

end FrameRun

theorem frameSteps_cases :
    ∀ (k : Nat) (report : FrameReport) (m : Machine),
      FrameRun k m report (frameSteps k report m)
  | 0, report, m =>
      .finished (.none m) (Nat.le_refl 0) (fun h => absurd h (Nat.lt_irrefl 0)) rfl
        (Bool.or_false _).symm
  | k + 1, report, m => by
      rw [frameSteps]
      split
      · next t m' hs => exact .trapped (.none m) (Nat.succ_pos k) hs
      · next m' hs => exact .executed hs (frameSteps_cases k _ m')
      · next m' hs => exact .redrawn hs (frameSteps_cases k _ m')
      · next m' hs =>
        obtain ⟨rfl, hwait⟩ := awaiting_of_step hs
        exact .finished (.none m') (Nat.zero_le _) (fun _ => hwait) rfl (Bool.or_false _).symm

theorem runFrame_cases (m : Machine) :
    FrameRun m.config.cyclesPerFrame.toNat m {} m.runFrame :=
  frameSteps_cases _ _ m

theorem isAwaitingKey_iff {m : Machine} :
    m.isAwaitingKey = true ↔ ∃ x, m.activity = .awaitingKey x := by
  rw [isAwaitingKey]
  cases m.activity with
  | running => simp
  | awaitingKey x => simp
  | halted t => simp

theorem soundActive_iff {m : Machine} : m.soundActive = true ↔ m.timers.sound ≠ 0 := by
  simp [soundActive, Timers.soundActive]

/-- A frame is as many steps as it reports and then one tick, and what it reports is so: it
stops short of the configured number only to wait, it tells whether the machine waits and
whether it sounds, and it asks for a redraw exactly if one of the steps did, so that the
screen is the same if it does not.  A frame that traps is steps alone, of which the last is
the one that traps. -/
theorem runFrame_steps (m : Machine) :
    (∀ report m', m.runFrame = (.ok report, m') →
      (∀ j < report.executed,
        (m.stepped j).step.1 = .ok .executed ∨ (m.stepped j).step.1 = .ok .redrawn) ∧
      m' = (m.stepped report.executed).tick ∧
      report.executed ≤ m.config.cyclesPerFrame.toNat ∧
      (report.executed < m.config.cyclesPerFrame.toNat → ∃ x, m'.activity = .awaitingKey x) ∧
      (report.awaitingKey = true ↔ ∃ x, m'.activity = .awaitingKey x) ∧
      (report.soundActive = true ↔ m'.timers.sound ≠ 0) ∧
      (report.redraw = true ↔ ∃ j < report.executed, (m.stepped j).step.1 = .ok .redrawn) ∧
      (report.redraw = false → m'.screen = m.screen)) ∧
    (∀ t m', m.runFrame = (.error t, m') →
      ∃ j < m.config.cyclesPerFrame.toNat,
        (∀ i < j, (m.stepped i).step.1 = .ok .executed ∨ (m.stepped i).step.1 = .ok .redrawn) ∧
        (m.stepped j).step.1 = .error t ∧
        m' = m.stepped (j + 1)) := by
  have hc := m.runFrame_cases
  generalize m.runFrame = r at hc
  cases hc with
  | @finished n redraw m₁ total hc hle hwait hexecuted hredraw =>
    refine ⟨?_, ?_⟩
    · intro report m' hr
      cases hr
      have hn : total.executed = n := hexecuted.trans (Nat.zero_add n)
      have hnote : total.redraw = redraw := hredraw
      subst hn hnote
      refine ⟨hc.answers, ?_, hle, hwait, isAwaitingKey_iff, soundActive_iff, hc.redraw_iff,
        hc.screen_eq⟩
      rw [hc.eq_stepped]
    · intro t m' hr
      cases hr
  | @trapped n redraw m₁ m₂ t hc hlt ht =>
    refine ⟨?_, ?_⟩
    · intro report m' hr
      cases hr
    · intro t' m' hr
      cases hr
      -- The step that traps is not among the cycles before it.
      refine ⟨n, hlt, hc.answers, ?_, ?_⟩
      · rw [← hc.eq_stepped, ht]
      · rw [← step_stepped, ← hc.eq_stepped, ht]

/-! ## Taking frames apart -/

/-- What up to `k` cycles of a frame and its end consist of.  A step that only finds the machine
waiting does nothing, and is left out. -/
def frameParts : Nat → Machine → List Operation
  | 0, _ => [.tick]
  | k + 1, m =>
    match m.step with
    | (.error _, _) => [.step]
    | (.ok .executed, m') | (.ok .redrawn, m') => .step :: frameParts k m'
    | (.ok .awaitingKey, _) => [.tick]

/-- What an operation consists of: a frame of its steps and its tick, any other of itself. -/
def parts (m : Machine) : Operation → List Operation
  | .runFrame => frameParts m.config.cyclesPerFrame.toNat m
  | op => [op]

/-- A list of operations with its frames taken apart. -/
def unrolled (m : Machine) : List Operation → List Operation
  | [] => []
  | op :: ops => m.parts op ++ (m.perform op).2.unrolled ops

/-- The machine after the first `j` parts of a list of operations. -/
def moment (m : Machine) (ops : List Operation) (j : Nat) : Machine :=
  m.run ((m.unrolled ops).take j)

theorem run_frameParts :
    ∀ (k : Nat) (report : FrameReport) (m : Machine),
      m.run (frameParts k m) = (frameSteps k report m).2
  | 0, _, _ => rfl
  | k + 1, report, m => by
      rw [frameParts, frameSteps]
      cases hs : m.step with
      | mk r m' =>
        have hstep : (m.perform .step).2 = m' := by rw [perform, hs]
        cases r with
        | error t => exact hstep
        | ok s =>
          cases s with
          | executed =>
            show (m.perform .step).2.run (frameParts k m') = _
            rw [hstep]
            exact run_frameParts k _ m'
          | redrawn =>
            show (m.perform .step).2.run (frameParts k m') = _
            rw [hstep]
            exact run_frameParts k _ m'
          | awaitingKey =>
            obtain ⟨rfl, -⟩ := awaiting_of_step hs
            rfl

theorem parts_of_ne {m : Machine} {op : Operation} (h : op ≠ .runFrame) : m.parts op = [op] := by
  cases op with
  | runFrame => exact absurd rfl h
  | load program => rfl
  | step => rfl
  | tick => rfl
  | keyDown code => rfl
  | keyUp code => rfl
  | reset => rfl

/-- The parts of an operation do what the operation does. -/
theorem run_parts (m : Machine) (op : Operation) : m.run (m.parts op) = (m.perform op).2 := by
  by_cases hframe : op = .runFrame
  · subst hframe
    exact run_frameParts _ _ m
  · rw [parts_of_ne hframe]
    rfl

theorem run_unrolled (m : Machine) (ops : List Operation) : m.run (m.unrolled ops) = m.run ops := by
  induction ops generalizing m with
  | nil => rfl
  | cons op ops ih =>
    rw [unrolled, run_append, run_parts, ih]
    rfl

/-- The last moment is the end of the run. -/
theorem moment_length (m : Machine) (ops : List Operation) :
    m.moment ops (m.unrolled ops).length = m.run ops := by
  rw [moment, List.take_length, run_unrolled]

/-- What holds at every moment, of the parts up to there, holds at the end, of all parts. -/
theorem run_of_moment {P : Machine → List Operation → Prop} {m : Machine} {ops : List Operation}
    (h : ∀ k, P (m.moment ops k) ((m.unrolled ops).take k)) : P (m.run ops) (m.unrolled ops) := by
  have hend := h (m.unrolled ops).length
  rwa [moment_length, List.take_length] at hend

/-- The parts of a frame are steps, with a tick behind them if the frame succeeds. -/
theorem exists_frameParts_eq :
    ∀ (k : Nat) (report : FrameReport) (m : Machine), ∃ n ≤ k,
      frameParts k m = List.replicate n .step ++
        if (frameSteps k report m).1.isOk then [.tick] else []
  | 0, _, _ => ⟨0, Nat.le_refl 0, rfl⟩
  | k + 1, report, m => by
      have hcycle (report : FrameReport) (m' : Machine) : ∃ n ≤ k + 1,
          .step :: frameParts k m' = List.replicate n .step ++
            if (frameSteps k report m').1.isOk then [.tick] else [] := by
        obtain ⟨n, hn, hparts⟩ := exists_frameParts_eq k report m'
        exact ⟨n + 1, Nat.succ_le_succ hn, by rw [hparts, List.replicate_succ, List.cons_append]⟩
      rw [frameParts, frameSteps]
      cases m.step with
      | mk r m' =>
        cases r with
        | error t => exact ⟨1, Nat.succ_pos k, rfl⟩
        | ok s =>
          cases s with
          | executed => exact hcycle _ m'
          | redrawn => exact hcycle _ m'
          | awaitingKey => exact ⟨0, Nat.zero_le _, rfl⟩

theorem exists_parts_eq (m : Machine) : ∃ n ≤ m.config.cyclesPerFrame.toNat,
    m.parts .runFrame = List.replicate n .step ++ if m.runFrame.1.isOk then [.tick] else [] :=
  exists_frameParts_eq _ {} m

theorem mem_parts_runFrame {m : Machine} {op : Operation} (h : op ∈ m.parts .runFrame) :
    op = .step ∨ op = .tick := by
  obtain ⟨n, -, hparts⟩ := m.exists_parts_eq
  rw [hparts] at h
  rcases List.mem_append.1 h with h | h
  · exact .inl (List.eq_of_mem_replicate h)
  · split at h
    · exact .inr (List.mem_singleton.1 h)
    · cases h

/-- No part is a frame, and the parts that are not the operation itself are steps and ticks. -/
theorem mem_parts {m : Machine} {op op' : Operation} (h : op ∈ m.parts op') :
    op ≠ .runFrame ∧ (op = op' ∨ op = .step ∨ op = .tick) := by
  by_cases hframe : op' = .runFrame
  · subst hframe
    rcases mem_parts_runFrame h with rfl | rfl
    · exact ⟨by simp, .inr (.inl rfl)⟩
    · exact ⟨by simp, .inr (.inr rfl)⟩
  · rw [parts_of_ne hframe, List.mem_singleton] at h
    subst h
    exact ⟨hframe, .inl rfl⟩

theorem mem_unrolled {m : Machine} {op : Operation} {ops : List Operation}
    (h : op ∈ m.unrolled ops) : op ≠ .runFrame ∧ (op ∈ ops ∨ op = .step ∨ op = .tick) := by
  induction ops generalizing m with
  | nil => cases h
  | cons op' ops ih =>
    rw [unrolled] at h
    rcases List.mem_append.1 h with h | h
    · obtain ⟨hframe, hop⟩ := mem_parts h
      refine ⟨hframe, hop.imp_left ?_⟩
      rintro rfl
      exact .head _
    · obtain ⟨hframe, hop⟩ := ih h
      exact ⟨hframe, hop.imp_left (List.mem_cons_of_mem _)⟩

/-- The next part takes a moment to the next moment. -/
theorem moment_succ {m : Machine} {ops : List Operation} {j : Nat} {op : Operation}
    (h : (m.unrolled ops)[j]? = some op) :
    m.moment ops (j + 1) = ((m.moment ops j).perform op).2 := by
  rw [moment, List.take_add_one, h, run_append]
  rfl

/-- After the last part there are no new moments. -/
theorem moment_succ_of_none {m : Machine} {ops : List Operation} {j : Nat}
    (h : (m.unrolled ops)[j]? = none) : m.moment ops (j + 1) = m.moment ops j := by
  rw [moment, List.take_add_one, h, Option.toList_none, List.append_nil]
  rfl

end Machine

end Chip8
