import Mathlib.Control.Monad.Basic
import Chip8.Proofs.Control
import Chip8.Proofs.Frames
import Chip8.Proofs.Operations

/-!
# Going on with what one is doing

What a machine does, it goes on doing under many operations: a halted machine under all but
a reset, one that waits for a key unless there is a reset or a key of the keypad goes down,
and a running one as long as it is not asked for steps.  `Activity.withstands` lists them.
Meanwhile the machine rests: what changes is at most the timers, the keypad and the program
in memory (`rests_run`).

A rest has a beginning too.  Each machine that does not run comes from a running one by a step
and then operations that it withstood (`Reachable.restBegan`).  For a machine that waits, the
instruction of that step was to wait (`Reachable.wait_began`), so the program counter is
still right behind it when a key ends the wait (`wait_for_key`).
-/

namespace Chip8

/-- Whether a machine that is doing this goes on with it when it is made to do that. -/
def Activity.withstands : Activity → Operation → Bool
  | _, .reset => false
  | .running, .step => false
  | .running, .runFrame => false
  | .awaitingKey _, .keyDown code => 16 ≤ code.toNat
  | _, _ => true

namespace Machine

/-! ## Resting -/

/-- The machine has become another one, but for its timers, its keypad and the program in its
memory it is the same. -/
structure Rests (m m' : Machine) : Prop where
  activity : m'.activity = m.activity
  registers : m'.registers = m.registers
  screen : m'.screen = m.screen
  generator : m'.generator = m.generator
  config : m'.config = m.config
  reserved : ∀ a < Memory.programStart, m'.memory.byteAt a = m.memory.byteAt a

namespace Rests

variable {m m₁ m' : Machine}

theorem refl (m : Machine) : m.Rests m := ⟨rfl, rfl, rfl, rfl, rfl, fun _ _ => rfl⟩

theorem trans (h₁ : m.Rests m₁) (h₂ : m₁.Rests m') : m.Rests m' where
  activity := h₂.activity.trans h₁.activity
  registers := h₂.registers.trans h₁.registers
  screen := h₂.screen.trans h₁.screen
  generator := h₂.generator.trans h₁.generator
  config := h₂.config.trans h₁.config
  reserved a ha := (h₂.reserved a ha).trans (h₁.reserved a ha)

theorem load (m : Machine) (program : List UInt8) : m.Rests (m.load program).2 := by
  rcases m.load_cases program with ⟨-, hl⟩ | ⟨-, hl⟩
  · rw [hl]
    exact .refl m
  · rw [hl]
    refine ⟨rfl, rfl, rfl, rfl, rfl, ?_⟩
    intro a ha
    have hcapacity : a < Memory.capacity := Nat.lt_trans ha (by decide)
    exact (m.memory.byteAt_poke _ a program hcapacity).trans (if_neg (by omega))

theorem tick (m : Machine) : m.Rests m.tick := ⟨rfl, rfl, rfl, rfl, rfl, fun _ _ => rfl⟩

theorem keyUp (m : Machine) (code : UInt8) : m.Rests (m.keyUp code).2 := by
  obtain ⟨keypad, hk⟩ := m.keyUp_eq code
  rw [hk]
  exact ⟨rfl, rfl, rfl, rfl, rfl, fun _ _ => rfl⟩

/-- A key that goes down changes no more than the keypad, unless it ends a wait. -/
theorem keyDown (m : Machine) {code : UInt8}
    (h : ∀ x, m.activity = .awaitingKey x → 16 ≤ code.toNat) : m.Rests (m.keyDown code).2 := by
  rcases m.keyDown_cases code with ⟨-, hk⟩ | ⟨key, hkey, ⟨x, hx, hk⟩ | ⟨-, hk⟩⟩
  · rw [hk]
    exact .refl m
  · -- A wait that a key of the keypad ends is excluded.
    have hcode := Keypad.key?_eq_some_iff.1 hkey
    have hlarge := h x hx
    have hsmall := key.isLt
    omega
  · rw [hk]
    exact ⟨rfl, rfl, rfl, rfl, rfl, fun _ _ => rfl⟩

end Rests

theorem runFrame_of_awaitingKey {m : Machine} {x : Register} (h : m.activity = .awaitingKey x) :
    m.runFrame = (.ok { soundActive := m.tick.soundActive, awaitingKey := true }, m.tick) := by
  have hend : m.endFrame {} =
      (.ok { soundActive := m.tick.soundActive, awaitingKey := true }, m.tick) := by
    have hwait : m.tick.isAwaitingKey = true := isAwaitingKey_iff.2 ⟨x, h⟩
    rw [endFrame, hwait]
  rw [runFrame]
  cases m.config.cyclesPerFrame.toNat with
  | zero => exact hend
  | succ k =>
    rw [frameSteps, step_of_awaitingKey h]
    exact hend

/-- A frame of a halted machine answers with the trap, unless it has no cycles to find out. -/
theorem runFrame_of_halted {m : Machine} {t : Trap} (h : m.activity = .halted t) :
    m.runFrame =
      if m.config.cyclesPerFrame.toNat = 0 then m.endFrame {} else (.error t, m) := by
  rw [runFrame]
  cases m.config.cyclesPerFrame.toNat with
  | zero => rfl
  | succ k => rw [frameSteps, step_of_halted h, if_neg (Nat.succ_ne_zero k)]

/-- What a machine withstands lets it rest. -/
theorem rests_perform {m : Machine} {op : Operation} (h : m.activity.withstands op) :
    m.Rests (m.perform op).2 := by
  cases op with
  | load program => exact .load m program
  | step =>
    show m.Rests m.step.2
    cases ha : m.activity with
    | running =>
      rw [ha] at h
      cases h
    | awaitingKey x =>
      rw [step_of_awaitingKey ha]
      exact .refl m
    | halted t =>
      rw [step_of_halted ha]
      exact .refl m
  | runFrame =>
    show m.Rests m.runFrame.2
    cases ha : m.activity with
    | running =>
      rw [ha] at h
      cases h
    | awaitingKey x =>
      rw [runFrame_of_awaitingKey ha]
      exact .tick m
    | halted t =>
      rw [runFrame_of_halted ha]
      split
      · exact .tick m
      · exact .refl m
  | tick => exact .tick m
  | keyDown code =>
    refine .keyDown m fun x hx => ?_
    rw [hx] at h
    exact of_decide_eq_true h
  | keyUp code => exact .keyUp m code
  | reset =>
    rw [Activity.withstands] at h
    cases h

theorem rests_run {m : Machine} {ops : List Operation}
    (h : ∀ op ∈ ops, m.activity.withstands op) : m.Rests (m.run ops) := by
  induction ops generalizing m with
  | nil => exact .refl m
  | cons op ops ih =>
    have hone := rests_perform (h op (.head _))
    -- The activity is the same after the first operation, so it withstands the rest as well.
    refine hone.trans (ih ?_)
    intro op' hop'
    rw [hone.activity]
    exact h op' (.tail _ hop')

/-! ## How a rest begins -/

/-- `m` rests since a step of `began`, which was running, and what has been done to it since then
is something that it withstands. -/
structure RestsSince (m began : Machine) (since : List Operation) : Prop where
  reachable : began.Reachable
  running : began.activity = .running
  withstands : ∀ op ∈ since, began.step.2.activity.withstands op
  eq_run : m = began.step.2.run since

namespace RestsSince

variable {m began : Machine} {since : List Operation}

theorem rests (h : m.RestsSince began since) : began.step.2.Rests m := by
  rw [h.eq_run]
  exact rests_run h.withstands

theorem perform (h : m.RestsSince began since) {op : Operation} (hop : m.activity.withstands op) :
    (m.perform op).2.RestsSince began (since ++ [op]) where
  reachable := h.reachable
  running := h.running
  withstands op' hop' := by
    rcases List.mem_append.1 hop' with hold | hnew
    · exact h.withstands op' hold
    · rw [List.mem_singleton.1 hnew, ← h.rests.activity]
      exact hop
  eq_run := by
    rw [run_append, ← h.eq_run]
    rfl

end RestsSince

/-- If a machine does not run, there is a machine since whose step it has rested. -/
def RestBegan (m : Machine) : Prop :=
  m.activity ≠ .running → ∃ began since, m.RestsSince began since

/-- What a resting machine does not withstand makes it run. -/
theorem activity_of_not_withstands {m : Machine} {op : Operation} (hrest : m.activity ≠ .running)
    (hop : ¬ m.activity.withstands op) : (m.perform op).2.activity = .running := by
  cases ha : m.activity with
  | running => exact absurd ha hrest
  | halted t =>
    rw [ha] at hop
    cases op with
    | reset => rfl
    | load program => exact absurd rfl hop
    | step => exact absurd rfl hop
    | runFrame => exact absurd rfl hop
    | tick => exact absurd rfl hop
    | keyDown code => exact absurd rfl hop
    | keyUp code => exact absurd rfl hop
  | awaitingKey x =>
    rw [ha] at hop
    cases op with
    | reset => rfl
    | load program => exact absurd rfl hop
    | step => exact absurd rfl hop
    | runFrame => exact absurd rfl hop
    | tick => exact absurd rfl hop
    | keyUp code => exact absurd rfl hop
    | keyDown code =>
      show (m.keyDown code).2.activity = .running
      rcases m.keyDown_cases code with ⟨hnone, -⟩ | ⟨key, -, ⟨y, -, hk⟩ | ⟨hother, -⟩⟩
      · exact absurd (decide_eq_true (Keypad.key?_eq_none_iff.1 hnone)) hop
      · rw [hk]
      · exact absurd ha (hother x)

theorem RestBegan.perform {m : Machine} (h : m.RestBegan) (hm : m.Reachable) (op : Operation)
    (hframe : op ≠ .runFrame) : (m.perform op).2.RestBegan := by
  intro hrest
  by_cases hop : m.activity.withstands op
  · have hsame := (rests_perform hop).activity
    obtain ⟨began, since, hsince⟩ := h (hsame ▸ hrest)
    exact ⟨began, since ++ [op], hsince.perform hop⟩
  · by_cases hrun : m.activity = .running
    · rw [hrun] at hop
      cases op with
      | step =>
        -- If the machine rests now, this is the step that it began with.
        refine ⟨m, [], hm, hrun, ?_, rfl⟩
        intro op hop
        cases hop
      | reset => exact absurd rfl hrest
      | runFrame => exact absurd rfl hframe
      | load program => exact absurd rfl hop
      | tick => exact absurd rfl hop
      | keyDown code => exact absurd rfl hop
      | keyUp code => exact absurd rfl hop
    · exact absurd (activity_of_not_withstands hrun hop) hrest

theorem stable_restBegan : Stable fun m => m.Reachable ∧ m.RestBegan where
  load program h := ⟨h.1.perform (.load program), h.2.perform h.1 (.load program) nofun⟩
  step h := ⟨h.1.perform .step, h.2.perform h.1 .step nofun⟩
  tick h := ⟨h.1.perform .tick, h.2.perform h.1 .tick nofun⟩
  keyDown code h := ⟨h.1.perform (.keyDown code), h.2.perform h.1 (.keyDown code) nofun⟩
  keyUp code h := ⟨h.1.perform (.keyUp code), h.2.perform h.1 (.keyUp code) nofun⟩
  reset h := ⟨h.1.perform .reset, h.2.perform h.1 .reset nofun⟩

/-- A reachable machine that does not run has rested since a step of some reachable machine. -/
theorem Reachable.restBegan {m : Machine} (hm : m.Reachable) : m.RestBegan := by
  have h := stable_restBegan.of_reachable (m := m) ?_ hm
  · exact h.2
  · intro config entropy
    exact ⟨reachable_powerOn config entropy, fun hrest => absurd rfl hrest⟩

/-! ## How a wait begins -/

/-- An instruction that waits for a key does so whatever keys are held, and leaves everything
else as it is. -/
theorem step_of_waitKey {m : Machine} {x : Register} (h : m.Runs (.waitKey x)) :
    m.step =
      (.ok .executed, { m.goTo (m.registers.pc + 2) with activity := .awaitingKey x }) := by
  have he : m.execute (.waitKey x) = .ok (.wait x, m) := rfl
  obtain ⟨opcode, hs⟩ := h.step_of_execute he
  exact hs

/-- The one way for a running machine to begin to wait is to carry out that instruction. -/
theorem runs_waitKey_of_step {m : Machine} {x : Register} (hrun : m.activity = .running)
    (h : m.step.2.activity = .awaitingKey x) : m.Runs (.waitKey x) := by
  have hc := m.step_cases
  generalize m.step = r at hc h
  cases hc with
  | waits hx => cases hrun.symm.trans hx
  | stays ht => cases hrun.symm.trans ht
  | halts t _ => cases h
  | @executes opcode i flow m₁ hruns he =>
    have hstill : m₁.activity = .running := (activity_of_execute he).trans hrun
    cases flow with
    | next => cases hstill.symm.trans h
    | skip => cases hstill.symm.trans h
    | redraw => cases hstill.symm.trans h
    | jump target =>
      rw [follow] at h
      split at h
      · cases h
      · cases hstill.symm.trans h
    | wait target =>
      obtain ⟨rfl, rfl⟩ := eq_waitKey_of_execute he
      cases h
      exact hruns

/-- `m` waits for a key to put into `x` since `asked` was asked to, and what has been done to it
since then is something that a wait withstands. -/
structure WaitsSince (m : Machine) (x : Register) (asked : Machine) (since : List Operation) :
    Prop where
  reachable : asked.Reachable
  runs : asked.Runs (.waitKey x)
  withstands : ∀ op ∈ since, (Activity.awaitingKey x).withstands op
  eq_run : m = asked.step.2.run since

/-- If a machine waits, there is a machine from which it has waited since. -/
def WaitBegan (m : Machine) : Prop :=
  ∀ x, m.activity = .awaitingKey x → ∃ asked since, m.WaitsSince x asked since

/-- A wait is a rest, and the step that it began with carried out the instruction that waits. -/
theorem Reachable.waitBegan {m : Machine} (hm : m.Reachable) : m.WaitBegan := by
  intro x hwait
  have hrest : m.activity ≠ .running := by
    rw [hwait]
    simp
  obtain ⟨asked, since, hsince⟩ := hm.restBegan hrest
  have hasked : asked.step.2.activity = .awaitingKey x := hsince.rests.activity.symm.trans hwait
  have hwithstands := hsince.withstands
  rw [hasked] at hwithstands
  exact ⟨asked, since, hsince.reachable, runs_waitKey_of_step hsince.running hasked, hwithstands,
    hsince.eq_run⟩

/-- A reachable machine that waits has done so since some reachable machine was asked to. -/
theorem Reachable.wait_began {m : Machine} (hm : m.Reachable) {x : Register}
    (hwait : m.activity = .awaitingKey x) : ∃ asked since, m.WaitsSince x asked since :=
  hm.waitBegan x hwait

/-! ## The wait as a whole -/

theorem WaitsSince.registers {m asked : Machine} {x : Register} {since : List Operation}
    (h : m.WaitsSince x asked since) :
    m.registers = { asked.registers with pc := asked.registers.pc + 2 } := by
  have hwaits := h.withstands
  have hrests : asked.step.2.Rests (asked.step.2.run since) := by
    refine rests_run ?_
    rw [step_of_waitKey h.runs]
    exact hwaits
  rw [h.eq_run, hrests.registers, step_of_waitKey h.runs]
  rfl

/-- The first key that goes down answers a wait: its code is written to the register that waits,
and the machine runs on from where it stands. -/
theorem keyDown_of_awaitingKey {m : Machine} {x : Register} (hwait : m.activity = .awaitingKey x)
    {code : UInt8} (hcode : code.toNat < 16) :
    ∃ answered, m.keyDown code = (.ok (), answered) ∧ answered.activity = .running ∧
      answered.registers = m.registers.set x code := by
  rcases m.keyDown_cases code with ⟨hnone, -⟩ | ⟨key, -, ⟨y, hy, hk⟩ | ⟨hother, -⟩⟩
  · have hlarge := Keypad.key?_eq_none_iff.1 hnone
    omega
  · cases hwait.symm.trans hy
    exact ⟨_, hk, rfl, rfl⟩
  · exact absurd hwait (hother x)

/-- A reachable machine that waits for a key to put into `x` has done so since a machine that
was asked to, whatever keys were held then.  Under operations that it withstands it goes on
waiting: a step does nothing and says so, a frame is one tick of the timers and says so, and
registers, screen and random numbers stay.  The first key of the keypad that then goes down
is written to `x` and to no other register, and the machine runs on right behind the
instruction that waited.  More keys that go down before the next step change no register. -/
theorem wait_for_key {m : Machine} {x : Register} (hm : m.Reachable)
    (hwait : m.activity = .awaitingKey x) :
    (∀ asked : Machine, asked.Runs (.waitKey x) →
      asked.step.1 = .ok .executed ∧ asked.step.2.keypad = asked.keypad ∧
      ∀ ops : List Operation, (∀ op ∈ ops, (Activity.awaitingKey x).withstands op) →
        (asked.step.2.run ops).activity = .awaitingKey x) ∧
    ∃ asked since, m.WaitsSince x asked since ∧
      ∀ ops : List Operation, (∀ op ∈ ops, (Activity.awaitingKey x).withstands op) →
        let w := m.run ops
        (w.activity = .awaitingKey x ∧ w.registers = m.registers ∧ w.screen = m.screen ∧
          w.generator = m.generator) ∧
        w.step = (.ok .awaitingKey, w) ∧
        w.runFrame =
          (.ok { executed := 0, redraw := false, soundActive := w.tick.soundActive,
                 awaitingKey := true }, w.tick) ∧
        ∀ code : UInt8, code.toNat < 16 → ∃ answered, w.keyDown code = (.ok (), answered) ∧
          answered.activity = .running ∧ answered.registers = m.registers.set x code ∧
          answered.registers.pc.toNat = asked.registers.pc.toNat + 2 ∧
          ∀ later : List Operation, (∀ op ∈ later, Activity.running.withstands op) →
            (answered.run later).registers = answered.registers := by
  refine ⟨?_, ?_⟩
  · intro asked hasked
    rw [step_of_waitKey hasked]
    exact ⟨rfl, rfl, fun ops hops => (rests_run hops).activity⟩
  · obtain ⟨asked, since, hsince⟩ := hm.wait_began hwait
    refine ⟨asked, since, hsince, ?_⟩
    intro ops hops w
    have hrests : m.Rests w := rests_run (by rw [hwait]; exact hops)
    have hw : w.activity = .awaitingKey x := hrests.activity.trans hwait
    refine ⟨⟨hw, hrests.registers, hrests.screen, hrests.generator⟩, step_of_awaitingKey hw,
      runFrame_of_awaitingKey hw, ?_⟩
    intro code hcode
    obtain ⟨answered, hk, hrun, hregisters⟩ := keyDown_of_awaitingKey hw hcode
    rw [hrests.registers] at hregisters
    refine ⟨answered, hk, hrun, hregisters, ?_, ?_⟩
    · rw [hregisters, Registers.pc_set, hsince.registers]
      exact toNat_behind hsince.runs.pc_le
    · intro later hlater
      exact (rests_run (by rw [hrun]; exact hlater)).registers

/-- A program waits for a key while key 2 is held already.  Steps, frames, a key code that names
no key, the release of key 2 and another program leave it waiting, key 9 ends the wait, and
key 5 comes too late. -/
theorem wait_for_key_held :
    let m := (powerOn {} 0).run [.load [0xF3, 0x0A, 0x12, 0x00], .keyDown 2, .step]
    let ops : List Operation :=
      [.step, .runFrame, .keyDown 16, .keyUp 2, .load [0x12, 0x00], .tick]
    m.Reachable ∧ m.activity = .awaitingKey 3 ∧ m.keypad.isPressed 2 = true ∧
      (m.run ops).activity = .awaitingKey 3 ∧
      ∃ answered, (m.run ops).keyDown 9 = (.ok (), answered) ∧ answered.activity = .running ∧
        answered.registers = m.registers.set 3 9 ∧
        (answered.run [.keyDown 5]).registers = answered.registers := by
  intro m ops
  have hm : m.Reachable := ⟨_, _, _, rfl⟩
  have hwait : m.activity = .awaitingKey 3 := by decide +kernel
  have hheld : m.keypad.isPressed 2 = true := by decide +kernel
  have hops : ∀ op ∈ ops, (Activity.awaitingKey 3).withstands op := by decide +kernel
  obtain ⟨-, asked, since, -, h⟩ := wait_for_key hm hwait
  obtain ⟨⟨hstill, -⟩, -, -, hanswer⟩ := h ops hops
  obtain ⟨answered, hk, hrun, hregisters, -, hlater⟩ := hanswer 9 (by decide)
  exact ⟨hm, hwait, hheld, hstill, answered, hk, hrun, hregisters, hlater [.keyDown 5] (by decide)⟩

end Machine

end Chip8
