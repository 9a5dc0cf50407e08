import Chip8.Proofs.Timing
import Chip8.Proofs.Tracing

/-!
# How far a timer has counted down

Beside a run there goes, for each of the two timers, what it was set to last and how many ticks
have come since then (`countdown`).  An instruction that sets the timer starts it anew, a tick
is counted whatever the machine is doing, and a reset puts it back to zero without ticks.  The
timer is what is left of it at every moment, and that is what a program reads
(`timers_as_counted`).

The note is moved by the parts of a run.  A frame that succeeds has one tick among its parts, behind
its steps, and a frame that traps has none (`count_tick_parts`); and the parts lead where the frame
does (`run_parts`).
-/

namespace Chip8

/-- What a timer was set to last, and the ticks since then. -/
structure Countdown where
  value : UInt8 := 0
  ticks : Nat := 0
deriving DecidableEq

/-- What the ticks have left of the value, which is nothing after as many ticks. -/
def Countdown.left (c : Countdown) : Nat := c.value.toNat - c.ticks

theorem Timers.read_tick (t : Timers) (timer : Timer) :
    t.tick.read timer = countDown (t.read timer) := by
  cases timer with
  | delay => rfl
  | sound => rfl

namespace Machine

variable {m m' : Machine} {timer : Timer} {c : Countdown}

/-! ## The note -/

/-- Brings the note of a timer up to date with an operation other than a frame. -/
def noteCountdown (timer : Timer) (m : Machine) (op : Operation) (c : Countdown) : Countdown :=
  match op with
  | .reset => {}
  | .tick => { c with ticks := c.ticks + 1 }
  | .step => (m.carriedOut?.bind (·.sets m.registers timer)).elim c fun value => { value }
  | _ => c

/-- What a timer was set to last by operations without frames among them, and the ticks since then,
from a machine whose timers stand at zero. -/
def countdown (m : Machine) (timer : Timer) (ops : List Operation) : Countdown :=
  track (noteCountdown timer) m {} ops

/-- The timer is what is left of the note. -/
def Counts (timer : Timer) (m : Machine) (c : Countdown) : Prop :=
  (m.timers.read timer).toNat = c.left

theorem Counts.congr (h : m.Counts timer c) (htimers : m'.timers = m.timers) :
    m'.Counts timer c := by
  rw [Counts, htimers]
  exact h

/-! ## One operation -/

theorem Counts.tick (h : m.Counts timer c) :
    m.tick.Counts timer { c with ticks := c.ticks + 1 } := by
  have hbefore : (m.timers.read timer).toNat = c.value.toNat - c.ticks := h
  show (m.timers.tick.read timer).toNat = c.value.toNat - (c.ticks + 1)
  rw [Timers.read_tick, Timers.toNat_countDown, hbefore]
  omega

theorem Counts.step (h : m.Counts timer c) :
    m.step.2.Counts timer (noteCountdown timer m .step c) := by
  rw [noteCountdown]
  rcases m.carriedOut_cases with ⟨i, flow, m', pc, activity, hi, he, hs⟩ |
    ⟨hnone, stack, activity, hs⟩
  · have hread : m.step.2.timers.read timer =
        (i.sets m.registers timer).getD (m.timers.read timer) := by
      rw [hs, ← Timers.read_setTimers, ← timers_of_execute he]
      rfl
    rw [hi, Option.bind_some, Counts, hread]
    cases i.sets m.registers timer with
    | none => exact h
    | some value => rfl
  · have htimers : m.step.2.timers = m.timers := by
      rw [hs]
      rfl
    rw [hnone]
    exact h.congr htimers

theorem Counts.perform {op : Operation} (hop : op ≠ .runFrame) (h : m.Counts timer c) :
    (m.perform op).2.Counts timer (noteCountdown timer m op c) := by
  cases op with
  | runFrame => exact absurd rfl hop
  | step => exact h.step
  | tick => exact h.tick
  | load program =>
    obtain ⟨memory, hl⟩ := m.load_eq program
    have htimers : (m.load program).2.timers = m.timers := by rw [hl]
    exact h.congr htimers
  | keyDown code =>
    obtain ⟨keypad, v, activity, hk⟩ := m.keyDown_eq code
    have htimers : (m.keyDown code).2.timers = m.timers := by rw [hk]
    exact h.congr htimers
  | keyUp code =>
    obtain ⟨keypad, hk⟩ := m.keyUp_eq code
    have htimers : (m.keyUp code).2.timers = m.timers := by rw [hk]
    exact h.congr htimers
  | reset =>
    cases timer with
    | delay => rfl
    | sound => rfl

/-! ## The ticks of a frame -/

theorem count_tick_parts (m : Machine) :
    (m.parts .runFrame).count .tick = if m.runFrame.1.isOk then 1 else 0 := by
  obtain ⟨n, -, hparts⟩ := m.exists_parts_eq
  have hsteps : (List.replicate n Operation.step).count .tick = 0 :=
    List.count_eq_zero.2 fun h => nomatch List.eq_of_mem_replicate h
  rw [hparts, List.count_append, hsteps, Nat.zero_add]
  split <;> rfl

/-! ## A run -/

/-- At the end of a run, and at every moment of it, each timer is what it was set to last, by an
instruction carried out since power-on or the last reset, less the ticks since then, down to zero;
and that is what an instruction that reads the delay timer finds.  What is counted are the parts of
the operations, and the last moment is the end of the run.  The parts of a frame do what the frame
does, and they are its steps with one tick behind them if the frame succeeds, and its steps alone if
it traps. -/
theorem timers_as_counted (config : Config) (entropy : ChaCha.Key) (ops : List Operation) :
    let m₀ := powerOn config entropy
    let AsCounted (m : Machine) (parts : List Operation) :=
      (∀ timer, (m.timers.read timer).toNat = (m₀.countdown timer parts).left) ∧
        ∀ x, m.Runs (.readDelay x) → m.step.1 = .ok .executed ∧
          (m.step.2.registers.get x).toNat = (m₀.countdown .delay parts).left
    AsCounted (m₀.run ops) (m₀.unrolled ops) ∧
    (∀ k, AsCounted (m₀.moment ops k) ((m₀.unrolled ops).take k)) ∧
    m₀.moment ops (m₀.unrolled ops).length = m₀.run ops ∧
    ∀ m : Machine, m.run (m.parts .runFrame) = m.runFrame.2 ∧
      (m.parts .runFrame).count .tick = (if m.runFrame.1.isOk then 1 else 0) ∧
      ∃ n ≤ m.config.cyclesPerFrame.toNat, m.parts .runFrame =
        List.replicate n .step ++ if m.runFrame.1.isOk then [.tick] else [] := by
  intro m₀ AsCounted
  have hcounted (k : Nat) : AsCounted (m₀.moment ops k) ((m₀.unrolled ops).take k) := by
    have hcounts (timer : Timer) :
        (m₀.moment ops k).Counts timer (m₀.countdown timer ((m₀.unrolled ops).take k)) := by
      have hstart : m₀.Counts timer {} := by
        cases timer with
        | delay => rfl
        | sound => rfl
      exact track_moment (fun hop h => h.perform hop) hstart ops k
    refine ⟨hcounts, fun x hruns => ?_⟩
    have hdelay : (m₀.moment ops k).timers.delay.toNat =
        (m₀.countdown .delay ((m₀.unrolled ops).take k)).left := hcounts .delay
    rw [hruns.get_of_readDelay, hdelay, hruns.step_of_readDelay]
    exact ⟨rfl, rfl⟩
  exact ⟨run_of_moment hcounted, hcounted, m₀.moment_length ops, fun m =>
    ⟨m.run_parts .runFrame, m.count_tick_parts, m.exists_parts_eq⟩⟩

/-- The delay timer is set to five in a frame, and the program comes to wait for a key in the next.
Each of the two frames ticks once, and there is a tick by itself while the machine waits, so two is
read when a key has gone down. -/
theorem timers_as_counted_while_waiting :
    let m₀ := powerOn { cyclesPerFrame := 2 } 0
    let program := [0x60, 0x05, 0xF0, 0x15, 0xF1, 0x0A, 0xF2, 0x07]
    let ops : List Operation := [.load program, .runFrame, .runFrame, .tick, .keyDown 3]
    (m₀.run ops).Runs (.readDelay 2) ∧ m₀.countdown .delay (m₀.unrolled ops) = ⟨5, 3⟩ ∧
      (m₀.run ops).timers.delay.toNat = 2 ∧
      ((m₀.run ops).step.2.registers.get 2).toNat = 2 := by
  intro m₀ program ops
  obtain ⟨hruns, hcountdown⟩ : (m₀.run ops).Runs (.readDelay 2) ∧
      m₀.countdown .delay (m₀.unrolled ops) = ⟨5, 3⟩ := by
    decide +kernel
  obtain ⟨⟨htimers, hread⟩, -⟩ := timers_as_counted { cyclesPerFrame := 2 } 0 ops
  have hdelay := htimers .delay
  have hvalue := (hread 2 hruns).2
  rw [hcountdown] at hdelay hvalue
  exact ⟨hruns, hcountdown, hdelay, hvalue⟩

end Machine

end Chip8
