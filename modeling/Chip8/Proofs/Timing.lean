import Chip8.Proofs.Lockstep
import Chip8.Proofs.Refitting

/-!
# Time and execution

A tick moves the timers and nothing else, and one instruction reads a timer.  So a program goes
the same way whenever the ticks come, up to the first time that it reads the delay timer.  Two
runs that consist of the same operations but for their ticks, like the same instructions in
frames of different lengths, are compared at moments before which the same has been done but for
ticks.  There the machines are the same but for their timers and the lengths of their frames,
and answer the same (`decoupled_from_ticks`).

That two lists are the same but for ticks is unfolded into `Retimed`, which walks along both of
them and passes the ticks of either by themselves.
-/

namespace Chip8

/-- The operations without the ticks among them. -/
def Operation.untimed (ops : List Operation) : List Operation := ops.filter (· ≠ .tick)

namespace Machine

open Operation (untimed)

/-- The second machine differs from the first in its timers and in how many cycles its frames have,
if at all. -/
def SameButTiming (a b : Machine) : Prop :=
  ∃ timers cyclesPerFrame, b = a.refitted timers { a.config with cyclesPerFrame } a.generator

/-- The next step reads the delay timer. -/
def ReadsDelay (m : Machine) : Prop := ∃ x, m.Runs (.readDelay x)

instance (m : Machine) : Decidable m.ReadsDelay := inferInstanceAs (Decidable (∃ _ : Fin 16, _))

variable {m a b : Machine}

/-- The delay timer is read without fail. -/
theorem Runs.step_of_readDelay {x : Register} (h : m.Runs (.readDelay x)) :
    m.step = (.ok .executed,
      goTo { m with registers := m.registers.set x m.timers.delay } (m.registers.pc + 2)) := by
  obtain ⟨opcode, hs⟩ := h.step_of_execute rfl
  exact hs

theorem Runs.get_of_readDelay {x : Register} (h : m.Runs (.readDelay x)) :
    m.step.2.registers.get x = m.timers.delay := by
  rw [h.step_of_readDelay]
  exact m.registers.get_set_self x _

/-! ## One operation -/

namespace SameButTiming

theorem runs_iff (h : a.SameButTiming b) (i : Instruction) : b.Runs i ↔ a.Runs i := by
  obtain ⟨t, n, rfl⟩ := h
  exact Iff.rfl

theorem readsDelay_iff (h : a.SameButTiming b) : b.ReadsDelay ↔ a.ReadsDelay :=
  exists_congr fun x => h.runs_iff (.readDelay x)

theorem step (h : a.SameButTiming b) (hread : ¬ a.ReadsDelay) :
    b.step.1 = a.step.1 ∧ a.step.2.SameButTiming b.step.2 := by
  obtain ⟨t, n, rfl⟩ := h
  have hindifferent : ∀ i, a.Runs i →
      a.Indifferent t { a.config with cyclesPerFrame := n } a.generator i := by
    intro i hruns
    refine ⟨?_, fun _ _ _ => rfl, fun _ _ _ _ => rfl⟩
    rintro x rfl
    exact absurd ⟨x, hruns⟩ hread
  rw [step_refitted hindifferent]
  exact ⟨rfl, _, n, by rw [config_step, generator_step]⟩

/-- A step answers the same even if it reads the delay timer. -/
theorem answer_step (h : a.SameButTiming b) : b.step.1 = a.step.1 := by
  by_cases hread : a.ReadsDelay
  · obtain ⟨x, hruns⟩ := hread
    rw [hruns.step_of_readDelay, ((h.runs_iff _).2 hruns).step_of_readDelay]
  · exact (h.step hread).1

theorem tick_left (h : a.SameButTiming b) : a.tick.SameButTiming b := by
  obtain ⟨t, n, rfl⟩ := h
  exact ⟨t, n, rfl⟩

theorem tick_right (h : a.SameButTiming b) : a.SameButTiming b.tick := by
  obtain ⟨t, n, rfl⟩ := h
  exact ⟨t.tick, n, rfl⟩

theorem load (h : a.SameButTiming b) (program : List UInt8) :
    (b.load program).1 = (a.load program).1 ∧
      (a.load program).2.SameButTiming (b.load program).2 := by
  obtain ⟨t, n, rfl⟩ := h
  obtain ⟨memory, hl⟩ := a.load_eq program
  rw [load_refitted]
  exact ⟨rfl, t, n, by rw [hl]⟩

theorem keyDown (h : a.SameButTiming b) (code : UInt8) :
    (b.keyDown code).1 = (a.keyDown code).1 ∧
      (a.keyDown code).2.SameButTiming (b.keyDown code).2 := by
  obtain ⟨t, n, rfl⟩ := h
  obtain ⟨keypad, v, activity, hk⟩ := a.keyDown_eq code
  rw [keyDown_refitted]
  exact ⟨rfl, t, n, by rw [hk]⟩

theorem keyUp (h : a.SameButTiming b) (code : UInt8) :
    (b.keyUp code).1 = (a.keyUp code).1 ∧
      (a.keyUp code).2.SameButTiming (b.keyUp code).2 := by
  obtain ⟨t, n, rfl⟩ := h
  obtain ⟨keypad, hk⟩ := a.keyUp_eq code
  rw [keyUp_refitted]
  exact ⟨rfl, t, n, by rw [hk]⟩

theorem reset (h : a.SameButTiming b) : a.reset.SameButTiming b.reset := by
  obtain ⟨t, n, rfl⟩ := h
  -- The machine is taken apart, lest its memory be compared with that at power-on.
  obtain ⟨memory, registers, timers, screen, keypad, activity, config, generator⟩ := a
  exact ⟨{}, n, rfl⟩

theorem answer (h : a.SameButTiming b) {op : Operation} (hframe : op ≠ .runFrame) :
    (b.perform op).1 = (a.perform op).1 := by
  cases op with
  | runFrame => exact absurd rfl hframe
  | step => exact congrArg (fun r => (r.mapError Error.trap).map Reply.stepped) h.answer_step
  | load program => exact congrArg (Except.map fun _ => Reply.done) (h.load program).1
  | keyDown code => exact congrArg (Except.map fun _ => Reply.done) (h.keyDown code).1
  | keyUp code => exact congrArg (Except.map fun _ => Reply.done) (h.keyUp code).1
  | tick => rfl
  | reset => rfl

theorem perform (h : a.SameButTiming b) {op : Operation} (hframe : op ≠ .runFrame)
    (hread : op = .step → ¬ a.ReadsDelay) : (a.perform op).2.SameButTiming (b.perform op).2 := by
  cases op with
  | runFrame => exact absurd rfl hframe
  | step => exact (h.step (hread rfl)).2
  | load program => exact (h.load program).2
  | keyDown code => exact (h.keyDown code).2
  | keyUp code => exact (h.keyUp code).2
  | tick => exact h.tick_left.tick_right
  | reset => exact h.reset

end SameButTiming

end Machine

/-! ## Runs that differ in their ticks -/

namespace Operation

/-- Two lists of operations are the same but for ticks. -/
inductive Retimed : List Operation → List Operation → Prop where
  | nil : Retimed [] []
  | left {ops ops' : List Operation} : Retimed ops ops' → Retimed (.tick :: ops) ops'
  | right {ops ops' : List Operation} : Retimed ops ops' → Retimed ops (.tick :: ops')
  | both {ops ops' : List Operation} (op : Operation) :
      Retimed ops ops' → Retimed (op :: ops) (op :: ops')

theorem untimed_cons {op : Operation} (h : op ≠ .tick) (ops : List Operation) :
    untimed (op :: ops) = op :: untimed ops :=
  List.filter_cons_of_pos (decide_eq_true h)

theorem retimed_of_untimed_eq {ops ops' : List Operation} (h : untimed ops = untimed ops') :
    Retimed ops ops' := by
  induction ops generalizing ops' with
  | nil =>
    -- What is left on the right are ticks.
    induction ops' with
    | nil => exact .nil
    | cons op' ops' ih' =>
      by_cases hop' : op' = .tick
      · subst hop'
        exact .right (ih' h)
      · rw [untimed_cons hop'] at h
        cases h
  | cons op ops ih =>
    by_cases hop : op = .tick
    · subst hop
      exact .left (ih h)
    · rw [untimed_cons hop] at h
      induction ops' with
      | nil => cases h
      | cons op' ops' ih' =>
        by_cases hop' : op' = .tick
        · subst hop'
          exact .right (ih' h)
        · rw [untimed_cons hop'] at h
          obtain ⟨rfl, hrest⟩ := List.cons.inj h
          exact .both op (ih hrest)

end Operation

namespace Machine

open Operation (untimed Retimed)

variable {a b : Machine}

theorem MeetsAt.of_take {P : Machine → Prop} {m : Machine} {parts : List Operation} {i j : Nat}
    (h : MeetsAt P m (parts.take j) i) : i < j ∧ MeetsAt P m parts i := by
  obtain ⟨hpart, hmeets⟩ := h
  have hlt : i < j := by
    have := (List.getElem?_eq_some_iff.1 hpart).1
    rw [List.length_take] at this
    omega
  rw [List.getElem?_take_of_lt hlt] at hpart
  rw [List.take_take, Nat.min_eq_left (Nat.le_of_lt hlt)] at hmeets
  exact ⟨hlt, hpart, hmeets⟩

theorem SameButTiming.run {ops ops' : List Operation} (hops : Retimed ops ops')
    (h : a.SameButTiming b) (hframe : ∀ op ∈ ops, op ≠ .runFrame)
    (hno : ∀ i, ¬ MeetsAt ReadsDelay a ops i) : (a.run ops).SameButTiming (b.run ops') := by
  induction hops generalizing a b with
  | nil => exact h
  | left _ ih =>
    exact ih h.tick_left (fun op hop => hframe op (.tail _ hop))
      fun i hmeets => hno (i + 1) (hmeets.cons rfl)
  | right _ ih => exact ih h.tick_right hframe hno
  | both op _ ih =>
    have hread : op = .step → ¬ a.ReadsDelay := by
      rintro rfl hread
      exact hno 0 ⟨rfl, hread⟩
    exact ih (h.perform (hframe op (.head _)) hread) (fun op' hop => hframe op' (.tail _ hop))
      fun i hmeets => hno (i + 1) (hmeets.cons rfl)

theorem SameButTiming.moment (h : a.SameButTiming b) {ops₁ ops₂ : List Operation} {j₁ j₂ : Nat}
    (hsame : untimed ((a.unrolled ops₁).take j₁) = untimed ((b.unrolled ops₂).take j₂))
    (hno : ∀ i < j₁, ¬ MeetsAt ReadsDelay a (a.unrolled ops₁) i) :
    (a.moment ops₁ j₁).SameButTiming (b.moment ops₂ j₂) := by
  have hframe : ∀ op ∈ (a.unrolled ops₁).take j₁, op ≠ .runFrame :=
    fun op hop => (mem_unrolled (List.mem_of_mem_take hop)).1
  have hbefore : ∀ i, ¬ MeetsAt ReadsDelay a ((a.unrolled ops₁).take j₁) i := by
    intro i hmeets
    obtain ⟨hlt, hmeets⟩ := hmeets.of_take
    exact hno i hlt hmeets
  exact SameButTiming.run (Operation.retimed_of_untimed_eq hsame) h hframe hbefore

/-- Take two machines that are the same but for their timers and the lengths of their frames, and
a run of each, at moments before which both have done the same but for ticks, none of it a step
that reads the delay timer.  Then the machines are still the same but for timing, whatever is
done next is answered the same, and if a step would read the delay timer on one of them it would
on the other.  If that is so of all that both do, then the machines are the same but for timing at
the end. -/
theorem decoupled_from_ticks (h : a.SameButTiming b) (ops₁ ops₂ : List Operation) :
    (∀ j₁ j₂, untimed ((a.unrolled ops₁).take j₁) = untimed ((b.unrolled ops₂).take j₂) →
      (∀ i < j₁, ¬ MeetsAt ReadsDelay a (a.unrolled ops₁) i) →
      (a.moment ops₁ j₁).SameButTiming (b.moment ops₂ j₂) ∧
        (∀ op ≠ .runFrame,
          ((b.moment ops₂ j₂).perform op).1 = ((a.moment ops₁ j₁).perform op).1) ∧
        ((b.moment ops₂ j₂).ReadsDelay ↔ (a.moment ops₁ j₁).ReadsDelay)) ∧
    (untimed (a.unrolled ops₁) = untimed (b.unrolled ops₂) →
      (∀ i, ¬ MeetsAt ReadsDelay a (a.unrolled ops₁) i) →
      (a.run ops₁).SameButTiming (b.run ops₂)) := by
  refine ⟨fun j₁ j₂ hsame hno => ?_, fun hsame hno => ?_⟩
  · have hmoment := h.moment hsame hno
    exact ⟨hmoment, fun op hop => hmoment.answer hop, hmoment.readsDelay_iff⟩
  · -- All that both do is what they do up to their last moments.
    rw [← moment_length a, ← moment_length b]
    refine h.moment ?_ fun i _ => hno i
    rwa [List.take_length, List.take_length]

/-- Two machines run the same program, in frames of one cycle and in frames of three.  Where it has
set the delay timer, one timer has been ticked since and the other has not, and the machines are the
same in all else.  The next instruction is answered the same and tells them apart.  Two frames of
the first machine do what two steps of the second do. -/
theorem decoupled_from_ticks_in_frames :
    let program : List UInt8 := [0x60, 0x05, 0xF0, 0x15, 0xF2, 0x07]
    let a := ((powerOn { cyclesPerFrame := 1 } 0).load program).2
    let b := ((powerOn { cyclesPerFrame := 3 } 0).load program).2
    let frames (n : Nat) : List Operation := List.replicate n .runFrame
    (a.moment (frames 2) 4).SameButTiming (b.moment (frames 1) 2) ∧
      (a.run (frames 2)).SameButTiming (b.run [.step, .step]) ∧
      ((b.moment (frames 1) 2).perform .step).1 = ((a.moment (frames 2) 4).perform .step).1 ∧
      (a.moment (frames 2) 4).timers.delay = 4 ∧ (b.moment (frames 1) 2).timers.delay = 5 ∧
      (a.moment (frames 2) 4).step.2.registers.get 2 = 4 ∧
      (b.moment (frames 1) 2).step.2.registers.get 2 = 5 := by
  intro program a b frames
  have hstart : (powerOn { cyclesPerFrame := 1 } 0).SameButTiming
      (powerOn { cyclesPerFrame := 3 } 0) := ⟨{}, 3, rfl⟩
  have hsame : a.SameButTiming b := (hstart.load program).2
  obtain ⟨hparts, hall, hlength, hno, hdelay, hdelay', hruns⟩ :
      untimed ((a.unrolled (frames 2)).take 4) = untimed ((b.unrolled (frames 1)).take 2) ∧
        untimed (a.unrolled (frames 2)) = untimed (b.unrolled [.step, .step]) ∧
        (a.unrolled (frames 2)).length = 4 ∧
        (∀ i < 4, ¬ MeetsAt ReadsDelay a (a.unrolled (frames 2)) i) ∧
        (a.moment (frames 2) 4).timers.delay = 4 ∧ (b.moment (frames 1) 2).timers.delay = 5 ∧
        (a.moment (frames 2) 4).Runs (.readDelay 2) := by
    decide +kernel
  have hnever : ∀ i, ¬ MeetsAt ReadsDelay a (a.unrolled (frames 2)) i := by
    intro i hmeets
    have hlt := (List.getElem?_eq_some_iff.1 hmeets.1).1
    exact hno i (hlength ▸ hlt) hmeets
  obtain ⟨hmoments, -⟩ := decoupled_from_ticks hsame (frames 2) (frames 1)
  obtain ⟨-, hend⟩ := decoupled_from_ticks hsame (frames 2) [.step, .step]
  obtain ⟨hmoment, hanswers, -⟩ := hmoments 4 2 hparts hno
  have hruns' := (hmoment.runs_iff (.readDelay 2)).2 hruns
  exact ⟨hmoment, hend hall hnever, hanswers .step nofun, hdelay, hdelay',
    hruns.get_of_readDelay.trans hdelay, hruns'.get_of_readDelay.trans hdelay'⟩

end Machine

end Chip8
