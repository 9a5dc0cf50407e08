import Mathlib.Control.Monad.Basic
import Chip8.Proofs.Cycle
import Chip8.Proofs.Operations

/-!
# Machines with exchanged parts

The timers, the configuration and the generator of a machine are looked at by a few
instructions only: one reads a timer, one takes a random number, and two shift as the
configuration says.  So a machine `refitted` with other such parts does what it did before, as
long as it does not come to an instruction that is told the difference (`Indifferent`), and the
exchanged parts go their own way: an instruction sets a timer, or takes a word from the
generator, whatever stands there (`Instruction.setTimers`, `Instruction.takeFrom`).

What a step makes of the machine's own timers and generator is the case in which nothing was
exchanged (`timers_step`, `generator_step`).
-/

namespace Chip8

/-- One of the two timers. -/
inductive Timer where
  | delay
  | sound
deriving DecidableEq

def Timers.read (t : Timers) : Timer → UInt8
  | .delay => t.delay
  | .sound => t.sound

namespace Instruction

/-- What an instruction sets a timer to, if it does. -/
def sets (r : Registers) : Timer → Instruction → Option UInt8
  | .delay, setDelay x => some (r.get x)
  | .sound, setSound x => some (r.get x)
  | _, _ => none

/-- What an instruction makes of the timers. -/
def setTimers (r : Registers) (t : Timers) (i : Instruction) : Timers :=
  ⟨(i.sets r .delay).getD t.delay, (i.sets r .sound).getD t.sound⟩

/-- What an instruction leaves of a generator. -/
def takeFrom (g : Generator) : Instruction → Generator
  | random _ _ => g.next.2
  | _ => g

end Instruction

theorem Timers.read_setTimers (r : Registers) (t : Timers) (i : Instruction) (timer : Timer) :
    (i.setTimers r t).read timer = (i.sets r timer).getD (t.read timer) := by
  cases timer with
  | delay => rfl
  | sound => rfl

namespace Machine

/-- The machine with these timers, this configuration and this generator. -/
def refitted (m : Machine) (timers : Timers) (config : Config) (generator : Generator) : Machine :=
  { m with timers, config, generator }

variable {m m' : Machine} {t : Timers} {c : Config} {g : Generator} {i : Instruction}

/-- The instruction is not told the difference between the parts of a machine and those that they
are exchanged for. -/
structure Indifferent (m : Machine) (t : Timers) (c : Config) (g : Generator) (i : Instruction) :
    Prop where
  delay : ∀ x, i = .readDelay x → t.delay = m.timers.delay
  word : ∀ x mask, i = .random x mask → g.next.1 = m.generator.next.1
  arithmetic : ∀ o x y, i = .arithmetic o x y →
    (m.refitted t c g).arithmetic o x y = m.arithmetic o x y

theorem indifferent_self (m : Machine) (i : Instruction) :
    m.Indifferent m.timers m.config m.generator i :=
  ⟨fun _ _ => rfl, fun _ _ _ => rfl, fun _ _ _ _ => rfl⟩

/-! ## Instructions -/

theorem execute_refitted (h : m.Indifferent t c g i) :
    (m.refitted t c g).execute i =
      (fun p => (p.1, p.2.refitted (i.setTimers m.registers t) c (i.takeFrom g))) <$>
        m.execute i := by
  cases i with
  | random x mask =>
    have hexecuted : (m.refitted t c g).execute (.random x mask) =
        .ok (.next, { m.refitted t c g with
          registers := m.registers.set x (g.next.1.toUInt8 &&& mask)
          generator := g.next.2 }) := rfl
    rw [hexecuted, h.word x mask rfl]
    rfl
  | readDelay x =>
    have hexecuted : (m.refitted t c g).execute (.readDelay x) =
        .ok (.next, { m.refitted t c g with registers := m.registers.set x t.delay }) := rfl
    rw [hexecuted, h.delay x rfl]
    rfl
  | arithmetic o x y =>
    have harithmetic := h.arithmetic o x y rfl
    simp only [execute, harithmetic]
    rfl
  | ret =>
    simp only [execute, map_bind]
    rfl
  | call a =>
    simp only [execute]
    split
    · rfl
    · rw [map_bind]
      rfl
  | draw x y n =>
    simp only [execute, map_bind]
    rfl
  | storeDecimal x =>
    simp only [execute, map_bind]
    rfl
  | storeRegisters x =>
    simp only [execute, map_bind]
    rfl
  | loadRegisters x =>
    simp only [execute, map_bind]
    rfl
  | _ => rfl

/-- An instruction leaves the timers and the generator as if nothing else were there. -/
theorem eq_refitted_of_execute {flow : Flow} (h : m.execute i = .ok (flow, m')) :
    m' = m'.refitted (i.setTimers m.registers m.timers) m.config (i.takeFrom m.generator) := by
  have hself := execute_refitted (m.indifferent_self i)
  have hm : m.refitted m.timers m.config m.generator = m := rfl
  rw [hm, h] at hself
  exact congrArg Prod.snd (Except.ok.inj hself)

theorem timers_of_execute {flow : Flow} (h : m.execute i = .ok (flow, m')) :
    m'.timers = i.setTimers m.registers m.timers := by
  rw [eq_refitted_of_execute h]
  rfl

/-! ## Steps -/

theorem follow_refitted (m : Machine) (t : Timers) (c : Config) (g : Generator)
    (pc opcode : UInt16) (flow : Flow) :
    (m.refitted t c g).follow pc opcode flow =
      ((m.follow pc opcode flow).1, (m.follow pc opcode flow).2.refitted t c g) := by
  cases flow with
  | jump target =>
    rw [follow, follow]
    split
    · rfl
    · rfl
  | _ => rfl

/-- The instruction that the next step is about, if the machine runs. -/
def upcoming? (m : Machine) : Option Instruction :=
  match m.activity with
  | .running => m.nextInstruction?
  | _ => none

theorem upcoming?_eq_some_iff : m.upcoming? = some i ↔ m.Runs i := by
  rw [upcoming?, Runs]
  cases m.activity with
  | running => exact (and_iff_right rfl).symm
  | awaitingKey x => exact iff_of_false nofun fun h => nomatch h.1
  | halted trap => exact iff_of_false nofun fun h => nomatch h.1

/-- What the next step makes of timers, if they are those of the machine. -/
def timersAfterStep (m : Machine) (t : Timers) : Timers :=
  m.upcoming?.elim t fun i => i.setTimers m.registers t

/-- What the next step leaves of a generator, if it is that of the machine. -/
def generatorAfterStep (m : Machine) (g : Generator) : Generator :=
  m.upcoming?.elim g fun i => i.takeFrom g

/-- Instructions that set timers or take words do not fail. -/
theorem untouched_of_execute_error {fault : Fault} (h : m.execute i = .error fault) (t : Timers)
    (g : Generator) : i.setTimers m.registers t = t ∧ i.takeFrom g = g := by
  cases i with
  | setDelay x => cases h
  | setSound x => cases h
  | random x mask => cases h
  | _ => exact ⟨rfl, rfl⟩

/-- A step that is not told the difference answers the same and leaves the same machine but for
the exchanged parts, which go on from what they were exchanged for. -/
theorem step_refitted (h : ∀ i, m.Runs i → m.Indifferent t c g i) :
    (m.refitted t c g).step =
      (m.step.1, m.step.2.refitted (m.timersAfterStep t) c (m.generatorAfterStep g)) := by
  rw [timersAfterStep, generatorAfterStep]
  cases ha : m.activity with
  | awaitingKey x =>
    rw [step_of_awaitingKey ha, upcoming?, ha]
    exact step_of_awaitingKey ha
  | halted trap =>
    rw [step_of_halted ha, upcoming?, ha]
    exact step_of_halted ha
  | running =>
    have hrefitted : (m.refitted t c g).step = (m.refitted t c g).cycle := step_of_running ha
    have hmemory : (m.refitted t c g).memory = m.memory := rfl
    have hregisters : (m.refitted t c g).registers = m.registers := rfl
    have hupcoming : m.upcoming? = m.nextInstruction? := by rw [upcoming?, ha]
    rw [hrefitted, step_of_running ha, cycle, cycle, hmemory, hregisters, hupcoming,
      nextInstruction?]
    cases hf : m.memory.readWord m.registers.pc with
    | error fault => rfl
    | ok opcode =>
      dsimp only
      cases hd : Instruction.decode opcode with
      | none => rfl
      | some i =>
        have hi := h i ⟨ha, nextInstruction?_eq_some_iff.2 ⟨opcode, hf, hd⟩⟩
        dsimp only [Option.elim_some]
        rw [execute_refitted hi]
        cases he : m.execute i with
        | error fault =>
          obtain ⟨ht, hg⟩ := untouched_of_execute_error he t g
          rw [ht, hg]
          rfl
        | ok r => exact follow_refitted r.2 _ _ _ _ _ _

/-- What a step makes of the machine's own timers and generator. -/
theorem step_eq_refitted (m : Machine) :
    m.step.2 = m.step.2.refitted (m.timersAfterStep m.timers) m.config
      (m.generatorAfterStep m.generator) :=
  congrArg Prod.snd (step_refitted (t := m.timers) (c := m.config) (g := m.generator)
    fun i _ => m.indifferent_self i)

theorem timers_step (m : Machine) : m.step.2.timers = m.timersAfterStep m.timers := by
  rw [step_eq_refitted]
  rfl

theorem generator_step (m : Machine) : m.step.2.generator = m.generatorAfterStep m.generator := by
  rw [step_eq_refitted]
  rfl

/-! ## Everything else -/

theorem load_refitted (m : Machine) (t : Timers) (c : Config) (g : Generator)
    (program : List UInt8) :
    (m.refitted t c g).load program = ((m.load program).1, (m.load program).2.refitted t c g) := by
  have hmemory : (m.refitted t c g).memory = m.memory := rfl
  rw [load, load, hmemory]
  cases m.memory.loadProgram program with
  | error e => rfl
  | ok memory => rfl

theorem keyDown_refitted (m : Machine) (t : Timers) (c : Config) (g : Generator) (code : UInt8) :
    (m.refitted t c g).keyDown code =
      ((m.keyDown code).1, (m.keyDown code).2.refitted t c g) := by
  cases hkey : Keypad.key? code with
  | none => rw [keyDown, keyDown, hkey]
  | some key =>
    rw [keyDown, keyDown, hkey]
    cases ha : m.activity with
    | running => simp only [ha, refitted]
    | awaitingKey x => simp only [ha, refitted]
    | halted trap => simp only [ha, refitted]

theorem keyUp_refitted (m : Machine) (t : Timers) (c : Config) (g : Generator) (code : UInt8) :
    (m.refitted t c g).keyUp code = ((m.keyUp code).1, (m.keyUp code).2.refitted t c g) := by
  rw [keyUp, keyUp]
  cases Keypad.key? code with
  | none => rfl
  | some key => rfl

end Machine

end Chip8
