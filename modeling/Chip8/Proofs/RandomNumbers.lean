import Mathlib.Data.Nat.Count
import Chip8.Proofs.Core
import Chip8.Proofs.FreshStart

/-!
# Random numbers in order

A machine reads one stream of words from its power-on to its end, that of the key it starts with.
The instruction that takes a random number takes the word that the stream has reached, and nothing
else touches the generator, not even a reset.  So the number of words that were taken is the number
of such instructions that were carried out, at every moment of a run, and the one after `n` others
is given word `n` of the stream (`random_in_order`).

A console adds nothing to that, since all its calls come down to operations on its machine.
-/

namespace Chip8

namespace Instruction

def isRandom : Instruction → Bool
  | random _ _ => true
  | _ => false

theorem isRandom_iff {i : Instruction} : i.isRandom = true ↔ ∃ x mask, i = random x mask := by
  cases i with
  | random x mask => exact iff_of_true rfl ⟨x, mask, rfl⟩
  | _ => exact iff_of_false nofun nofun

end Instruction

namespace Machine

variable {m : Machine}

theorem takesRandom_iff : m.TakesRandom ↔ m.upcoming?.any Instruction.isRandom = true := by
  simp only [TakesRandom, ← upcoming?_eq_some_iff, Option.any_eq_true, Instruction.isRandom_iff]
  constructor
  · rintro ⟨x, mask, hi⟩
    exact ⟨_, hi, x, mask, rfl⟩
  · rintro ⟨_, hi, x, mask, rfl⟩
    exact ⟨x, mask, hi⟩

instance (m : Machine) : Decidable m.TakesRandom := decidable_of_iff _ takesRandom_iff.symm

instance (m : Machine) (ops : List Operation) : DecidablePred (m.TakesRandomAt ops) :=
  fun j => inferInstanceAs (Decidable (MeetsAt TakesRandom m (m.unrolled ops) j))

/-! ## One operation -/

/-- A random number takes a word, and any other step takes none. -/
theorem generator_step_eq_ite (m : Machine) :
    m.step.2.generator = if m.TakesRandom then m.generator.next.2 else m.generator := by
  rw [generator_step]
  split
  · next h =>
    obtain ⟨x, mask, hruns⟩ := h
    rw [generatorAfterStep, upcoming?_eq_some_iff.2 hruns]
    rfl
  · next h => exact generatorAfterStep_of_not_takesRandom h m.generator

theorem generator_reset (m : Machine) : m.reset.generator = m.generator := by
  -- The machine is taken apart, lest its memory be compared with that at power-on.
  obtain ⟨_, _, _, _, _, _, _, generator⟩ := m
  exact @rfl _ generator

/-- Nothing but steps takes words. -/
theorem generator_perform {op : Operation} (hframe : op ≠ .runFrame) (hstep : op ≠ .step)
    (m : Machine) : (m.perform op).2.generator = m.generator := by
  cases op with
  | runFrame => exact absurd rfl hframe
  | step => exact absurd rfl hstep
  | tick => rfl
  | reset => exact m.generator_reset
  | load program =>
    obtain ⟨memory, hl⟩ := m.load_eq program
    rw [perform, hl]
  | keyDown code =>
    obtain ⟨keypad, v, activity, hk⟩ := m.keyDown_eq code
    rw [perform, hk]
  | keyUp code =>
    obtain ⟨keypad, hk⟩ := m.keyUp_eq code
    rw [perform, hk]

/-! ## A run -/

/-- The words that were taken by some moment are as many as the random numbers before it. -/
theorem generator_moment (m : Machine) (ops : List Operation) (k : Nat) :
    (m.moment ops k).generator =
      ⟨m.generator.key, m.generator.drawn + Nat.count (m.TakesRandomAt ops) k⟩ := by
  induction k with
  | zero => rfl
  | succ k ih =>
    cases hpart : (m.unrolled ops)[k]? with
    | none =>
      have hno : ¬ m.TakesRandomAt ops k := by
        rintro ⟨hstep, -⟩
        rw [hpart] at hstep
        cases hstep
      rw [moment_succ_of_none hpart, ih, Nat.count_succ, if_neg hno, Nat.add_zero]
    | some op =>
      rw [moment_succ hpart, Nat.count_succ]
      by_cases hstep : op = .step
      · subst hstep
        have htakes : m.TakesRandomAt ops k ↔ (m.moment ops k).TakesRandom := and_iff_right hpart
        rw [perform, generator_step_eq_ite, ih]
        by_cases h : (m.moment ops k).TakesRandom
        · rw [if_pos h, if_pos (htakes.2 h)]
          rfl
        · rw [if_neg h, if_neg (htakes.not.2 h), Nat.add_zero]
      · have hframe := (mem_unrolled (List.mem_of_getElem? hpart)).1
        have hno : ¬ m.TakesRandomAt ops k := by
          rintro ⟨hpart', -⟩
          rw [hpart] at hpart'
          exact hstep (Option.some.inj hpart')
        rw [generator_perform hframe hstep, ih, if_neg hno, Nat.add_zero]

end Machine

namespace Console

variable {δ ι σ : Type} [Display δ] [EventSource ι] [Speaker σ]

/-- Whatever calls are made to a console, what they do to its machine is a list of operations.  Along
any operations from power-on, up to the last moment, which is the end of the run, the instruction
that takes a random number after `n` others have, resets and loads or not between them, is given
word `n` of the stream, whatever its mask, and the generator has gone through `n` words before it
and `n + 1` after it.  The stream is that of the seed, or of the entropy if there is no seed. -/
theorem random_in_order (config : Config) (entropy : ChaCha.Key) (display : δ) (source : ι)
    (speaker : σ) :
    let m₀ := Machine.powerOn config entropy
    let console : Console δ ι σ := { machine := m₀, display, source, speaker }
    let key := config.seed.elim entropy Generator.keyOfSeed
    (∀ calls, (console.run calls).machine = m₀.run (console.operations calls)) ∧
      ∀ ops, m₀.moment ops (m₀.unrolled ops).length = m₀.run ops ∧
        ∀ k,
          let m := m₀.moment ops k
          let n := Nat.count (m₀.TakesRandomAt ops) k
          m.generator = ⟨key, n⟩ ∧
            ∀ x mask, m.Runs (.random x mask) →
              m.step.1 = .ok .executed ∧
              m.step.2.registers.get x = (ChaCha.word key n).toUInt8 &&& mask ∧
              m.step.2.generator = ⟨key, n + 1⟩ := by
  intro m₀ console key
  refine ⟨console.machine_run, fun ops => ⟨m₀.moment_length ops, ?_⟩⟩
  intro k m n
  have hgenerator : m.generator = ⟨key, n⟩ := by
    have hmoment := m₀.generator_moment ops k
    have hdrawn : m₀.generator.drawn = 0 := rfl
    rwa [hdrawn, Nat.zero_add] at hmoment
  refine ⟨hgenerator, ?_⟩
  intro x mask hruns
  rw [hruns.step_of_random, hgenerator]
  exact ⟨rfl, m.registers.get_set_self x _, rfl⟩

/-- A word is taken under a mask that leaves nothing of it, a trap and a reset follow, and the next
program takes the next word. -/
example :
    let halted := (Machine.powerOn { seed := some 7 } 0).run
      [.load [0xC0, 0x00, 0x00, 0xEE], .step, .step]
    let m := halted.run [.reset, .load [0xC1, 0x0F], .step]
    halted.activity ≠ .running ∧ halted.generator = ⟨Generator.keyOfSeed 7, 1⟩ ∧
      m.generator = ⟨Generator.keyOfSeed 7, 2⟩ := by
  decide +kernel

end Console

end Chip8
