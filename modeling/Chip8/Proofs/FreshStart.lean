import Chip8.Proofs.Lockstep
import Chip8.Proofs.Refitting

/-!
# Starting over

A reset leaves nothing of what a machine has been through but where its random numbers stand.
Two machines that are the same but for the generator stay so until one of them takes a random
number, since that is the one instruction that looks at the generator.  So a machine that was
reset and given a program goes on like a new machine with that program, however it was driven
before, up to the first random number (`reset_load_as_new`).
-/

namespace Chip8.Machine

/-! ## Machines that differ in their generators -/

def withGenerator (m : Machine) (generator : Generator) : Machine := { m with generator }

/-- The second machine differs from the first in the generator alone, if at all. -/
def SameButGenerator (a b : Machine) : Prop := b = a.withGenerator b.generator

/-- The next step takes a random number. -/
def TakesRandom (m : Machine) : Prop := ∃ x mask, m.Runs (.random x mask)

variable {m a b : Machine}

theorem SameButGenerator.exists_eq (h : SameButGenerator a b) : ∃ g, b = a.withGenerator g :=
  ⟨b.generator, h⟩

theorem takesRandom_withGenerator (m : Machine) (g : Generator) :
    (m.withGenerator g).TakesRandom ↔ m.TakesRandom := Iff.rfl

/-! ## Steps -/

/-- A random number is taken without fail. -/
theorem Runs.step_of_random {x : Register} {mask : UInt8} (h : m.Runs (.random x mask)) :
    m.step = (.ok .executed, goTo
      { m with
        registers := m.registers.set x (m.generator.next.1.toUInt8 &&& mask)
        generator := m.generator.next.2 } (m.registers.pc + 2)) := by
  obtain ⟨opcode, hs⟩ := h.step_of_execute rfl
  exact hs

theorem generatorAfterStep_of_not_takesRandom (h : ¬ m.TakesRandom) (g : Generator) :
    m.generatorAfterStep g = g := by
  rw [generatorAfterStep]
  cases hi : m.upcoming? with
  | none => rfl
  | some i =>
    cases i with
    | random x mask => exact absurd ⟨x, mask, upcoming?_eq_some_iff.1 hi⟩ h
    | _ => rfl

/-- A step that takes no random number does the same with any generator. -/
theorem step_withGenerator (h : ¬ m.TakesRandom) (g : Generator) :
    (m.withGenerator g).step = (m.step.1, m.step.2.withGenerator g) := by
  have hindifferent : ∀ i, m.Runs i → m.Indifferent m.timers m.config g i := by
    intro i hruns
    refine ⟨fun _ _ => rfl, ?_, fun _ _ _ _ => rfl⟩
    rintro x mask rfl
    exact absurd ⟨x, mask, hruns⟩ h
  have hstep : (m.withGenerator g).step = _ := step_refitted hindifferent
  rw [hstep, generatorAfterStep_of_not_takesRandom h, ← timers_step, ← m.config_step]
  rfl

/-- No step answers differently with another generator. -/
theorem answer_withGenerator (m : Machine) (g : Generator) :
    (m.withGenerator g).step.1 = m.step.1 := by
  by_cases h : m.TakesRandom
  · obtain ⟨x, mask, hruns⟩ := h
    have hruns' : (m.withGenerator g).Runs (.random x mask) := hruns
    rw [hruns.step_of_random, hruns'.step_of_random]
  · rw [step_withGenerator h]

/-! ## Everything else -/

theorem load_withGenerator (m : Machine) (g : Generator) (program : List UInt8) :
    (m.withGenerator g).load program =
      ((m.load program).1, (m.load program).2.withGenerator g) := by
  have hload : (m.withGenerator g).load program = _ := m.load_refitted m.timers m.config g program
  obtain ⟨memory, hl⟩ := m.load_eq program
  rw [hload, hl]
  rfl

theorem keyDown_withGenerator (m : Machine) (g : Generator) (code : UInt8) :
    (m.withGenerator g).keyDown code =
      ((m.keyDown code).1, (m.keyDown code).2.withGenerator g) := by
  have hdown : (m.withGenerator g).keyDown code = _ := m.keyDown_refitted m.timers m.config g code
  obtain ⟨keypad, v, activity, hk⟩ := m.keyDown_eq code
  rw [hdown, hk]
  rfl

theorem keyUp_withGenerator (m : Machine) (g : Generator) (code : UInt8) :
    (m.withGenerator g).keyUp code = ((m.keyUp code).1, (m.keyUp code).2.withGenerator g) := by
  have hup : (m.withGenerator g).keyUp code = _ := m.keyUp_refitted m.timers m.config g code
  obtain ⟨keypad, hk⟩ := m.keyUp_eq code
  rw [hup, hk]
  rfl

/-- Machines that differ in their generators do the same until they take a random number. -/
theorem lockstep_sameButGenerator : Lockstep SameButGenerator TakesRandom where
  cyclesPerFrame h := by
    obtain ⟨g, rfl⟩ := h.exists_eq
    rfl
  soundActive h := by
    obtain ⟨g, rfl⟩ := h.exists_eq
    rfl
  isAwaitingKey h := by
    obtain ⟨g, rfl⟩ := h.exists_eq
    rfl
  load program h := by
    obtain ⟨g, rfl⟩ := h.exists_eq
    rw [load_withGenerator]
    exact ⟨rfl, rfl⟩
  answer h := by
    obtain ⟨g, rfl⟩ := h.exists_eq
    exact answer_withGenerator _ g
  step hparting h := by
    obtain ⟨g, rfl⟩ := h.exists_eq
    rw [step_withGenerator hparting]
    rfl
  tick h := by
    obtain ⟨g, rfl⟩ := h.exists_eq
    rfl
  keyDown code h := by
    obtain ⟨g, rfl⟩ := h.exists_eq
    rw [keyDown_withGenerator]
    exact ⟨rfl, rfl⟩
  keyUp code h := by
    obtain ⟨g, rfl⟩ := h.exists_eq
    rw [keyUp_withGenerator]
    exact ⟨rfl, rfl⟩
  reset h := by
    obtain ⟨g, rfl⟩ := h.exists_eq
    rfl

/-! ## A machine that was reset and a new one -/

/-- Part `j` of a run is a step that takes a random number. -/
def TakesRandomAt (m : Machine) (ops : List Operation) (j : Nat) : Prop :=
  MeetsAt TakesRandom m (m.unrolled ops) j

/-- A reset leads back to power-on, in all but the generator. -/
theorem sameButGenerator_reset (m : Machine) (entropy : ChaCha.Key) :
    SameButGenerator m.reset (powerOn m.config entropy) := by
  rw [SameButGenerator, withGenerator, reset, powerOn]

/-- A machine that was reset and given a program is not to be told from a new machine with the
same configuration and program.  Whatever is done to both, they go through the same parts, answer
the same and are the same but for the generator, at every moment before which no random number
was taken, and they take the first at the same moment. -/
theorem reset_load_as_new (m : Machine) (entropy : ChaCha.Key) (program : List UInt8) :
    let new := powerOn m.config entropy
    let a := (m.reset.load program).2
    let b := (new.load program).2
    (new.load program).1 = (m.reset.load program).1 ∧
    (program.length ≤ Memory.maxProgramBytes → (m.reset.load program).1 = .ok ()) ∧
    ∀ ops,
      (∀ j, (∀ i < j, ¬ a.TakesRandomAt ops i) →
        (b.unrolled ops)[j]? = (a.unrolled ops)[j]? ∧
        (∀ op, (a.unrolled ops)[j]? = some op →
          ((b.moment ops j).perform op).1 = ((a.moment ops j).perform op).1) ∧
        SameButGenerator (a.moment ops j) (b.moment ops j) ∧
        (b.TakesRandomAt ops j ↔ a.TakesRandomAt ops j)) ∧
      ((∀ j, ¬ a.TakesRandomAt ops j) →
        b.answers ops = a.answers ops ∧ SameButGenerator (a.run ops) (b.run ops)) := by
  intro new a b
  obtain ⟨hanswer, hload⟩ :=
    lockstep_sameButGenerator.load program (m.sameButGenerator_reset entropy)
  refine ⟨hanswer, ?_, ?_⟩
  · intro hfits
    rcases m.reset.load_cases program with ⟨hlong, -⟩ | ⟨-, hl⟩
    · exact absurd hfits (Nat.not_le.2 hlong)
    · rw [hl]
  · intro ops
    refine ⟨?_, lockstep_sameButGenerator.answers hload⟩
    intro j hno
    obtain ⟨hpart, hsame, hmoment⟩ := lockstep_sameButGenerator.moment hload ops hno
    refine ⟨hpart, hsame, hmoment, ?_⟩
    have htakes : (b.moment ops j).TakesRandom ↔ (a.moment ops j).TakesRandom := by
      rw [hmoment, takesRandom_withGenerator]
    rw [TakesRandomAt, TakesRandomAt, MeetsAt, MeetsAt, hpart]
    exact and_congr_right fun _ => htakes

/-- A machine has taken a random number, holds a key and was halted by a stray return.  Started over,
it does as a new machine does up to the second instruction of its program, and there the two
are given different random numbers. -/
theorem reset_load_as_new_halted :
    let halted := (powerOn {} 0).run [.load [0xC0, 0xFF, 0x00, 0xEE], .keyDown 5, .step, .step]
    let program : List UInt8 := [0x60, 0x2A, 0xC1, 0xFF]
    let a := (halted.reset.load program).2
    let b := ((powerOn halted.config 0).load program).2
    let ops : List Operation := [.step, .step]
    halted.activity ≠ .running ∧ halted.keypad ≠ .released ∧
      SameButGenerator (a.moment ops 1) (b.moment ops 1) ∧
      a.TakesRandomAt ops 1 ∧ b.TakesRandomAt ops 1 ∧
      (b.run ops).registers.get 1 ≠ (a.run ops).registers.get 1 := by
  intro halted program a b ops
  obtain ⟨hactivity, hkeypad, hfirst, hsecond, hpart, hdiffer⟩ :
      halted.activity ≠ .running ∧ halted.keypad ≠ .released ∧ a.Runs (.load 0 0x2A) ∧
        (a.moment ops 1).Runs (.random 1 0xFF) ∧ (a.unrolled ops)[1]? = some .step ∧
        (b.run ops).registers.get 1 ≠ (a.run ops).registers.get 1 := by
    decide +kernel
  have hno : ∀ i < 1, ¬ a.TakesRandomAt ops i := by
    rintro i hi ⟨-, x, mask, hruns⟩
    obtain rfl : i = 0 := Nat.lt_one_iff.1 hi
    cases hruns.2.symm.trans hfirst.2
  obtain ⟨-, -, hops⟩ := halted.reset_load_as_new 0 program
  obtain ⟨-, -, hsame, htakes⟩ := (hops ops).1 1 hno
  have ha : a.TakesRandomAt ops 1 := ⟨hpart, 1, 0xFF, hsecond⟩
  exact ⟨hactivity, hkeypad, hsame, ha, htakes.2 ha, hdiffer⟩

end Chip8.Machine
