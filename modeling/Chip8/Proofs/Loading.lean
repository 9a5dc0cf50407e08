import Mathlib.Control.Monad.Basic
import Chip8.Console
import Chip8.Device.Mute
import Chip8.Device.Recorder
import Chip8.Device.Script
import Chip8.Proofs.Operations

/-!
# Loads that fail

A machine refuses a program that is too long before it writes anything.  A console does
not: it has started the machine over by the time the machine looks at the length.  The
program that is kept for a restart survives every load that fails, but the machine
survives only if nothing could be read, or if it had nothing to lose
(`load_error_atomic_iff`).
-/

namespace Chip8

namespace Machine

/-- A machine has nothing to lose by a reset exactly if all that a reset sets is as at power-on
already. -/
theorem reset_eq_self_iff (m : Machine) :
    m.reset = m ↔ m.memory = .powerOn ∧ m.registers = .powerOn ∧ m.timers = {} ∧
      m.screen = .blank ∧ m.keypad = .released ∧ m.activity = .running := by
  constructor
  · intro h
    rw [← h]
    exact ⟨rfl, rfl, rfl, rfl, rfl, rfl⟩
  · rintro ⟨hmemory, hregisters, htimers, hscreen, hkeypad, hactivity⟩
    rw [reset, ← hmemory, ← hregisters, ← htimers, ← hscreen, ← hkeypad, ← hactivity]

end Machine

namespace Console

variable {δ ι σ : Type}

theorem insert_of_load {c : Console δ ι σ} {program : List UInt8} {r : Except Error Unit}
    {machine : Machine} (h : c.machine.load program = (r, machine)) :
    c.insert program =
      (r, { c with machine, journal := c.machine.report (.load program) c.journal }) := by
  rw [insert, h]

/-- What a load does: it passes on that nothing could be read, or resets the machine and finds
the program too long, or resets the machine and loads the program. -/
theorem load_cases (c : Console δ ι σ) (read : Except IoError (List UInt8)) :
    (∃ reason, read = .error reason ∧ c.load read = (.error (.io reason), c)) ∨
    (∃ program journal, read = .ok program ∧ Memory.maxProgramBytes < program.length ∧
      c.load read =
        (.error (.programTooLarge program.length Memory.maxProgramBytes),
          { c with machine := c.machine.reset, journal })) ∨
    ∃ program journal, read = .ok program ∧ program.length ≤ Memory.maxProgramBytes ∧
      c.load read =
        (.ok (), { c with
          machine := { c.machine.reset with
            memory := c.machine.reset.memory.poke Memory.programStart program }
          program
          journal }) := by
  cases read with
  | error reason => exact .inl ⟨reason, rfl, rfl⟩
  | ok program =>
    let journal := c.reset.machine.report (.load program) c.reset.journal
    rcases c.reset.machine.load_cases program with ⟨hlong, hl⟩ | ⟨hshort, hl⟩
    · refine .inr (.inl ⟨program, journal, rfl, hlong, ?_⟩)
      rw [load, insert_of_load hl]
      dsimp only [reset, journal]
    · refine .inr (.inr ⟨program, journal, rfl, hshort, ?_⟩)
      rw [load, insert_of_load hl]
      dsimp only [reset, journal]

/-- A load that fails leaves the machine and the kept program as they were, for exactly those
consoles whose machine has nothing to lose, since all but its configuration and its random numbers
is as at power-on, and those sources that fail or give no more than fits. -/
theorem load_error_atomic_iff (c : Console δ ι σ) (read : Except IoError (List UInt8)) :
    (∀ e, (c.load read).1 = .error e →
      (c.load read).2.machine = c.machine ∧ (c.load read).2.program = c.program) ↔
    (c.machine.memory = .powerOn ∧ c.machine.registers = .powerOn ∧ c.machine.timers = {} ∧
        c.machine.screen = .blank ∧ c.machine.keypad = .released ∧
        c.machine.activity = .running) ∨
      ∀ program, read = .ok program → program.length ≤ Memory.maxProgramBytes := by
  rw [← c.machine.reset_eq_self_iff]
  rcases c.load_cases read with ⟨reason, rfl, hl⟩ | ⟨program, journal, rfl, hlong, hl⟩ |
    ⟨program, journal, rfl, hshort, hl⟩
  · rw [hl]
    refine ⟨fun _ => .inr ?_, fun _ _ _ => ⟨rfl, rfl⟩⟩
    intro program h
    cases h
  · rw [hl]
    constructor
    · intro h
      exact .inl (h _ rfl).1
    · rintro (hreset | hfits)
      · exact fun _ _ => ⟨hreset, rfl⟩
      · exact absurd (hfits program rfl) (Nat.not_le.2 hlong)
  · rw [hl]
    constructor
    · intro _
      refine .inr fun p hp => ?_
      cases hp
      exact hshort
    · intro _ e h
      cases h

/-- A console runs a program of two instructions for a frame and is then given one byte too many:
it answers that the program is too long, and what had been computed is gone. -/
theorem load_error_not_atomic :
    let fresh : Console Recorder Script Mute :=
      { machine := .powerOn {} 0, display := {}, source := ⟨[]⟩, speaker := {} }
    let c := (fresh.load (.ok [0x60, 0x2A, 0x12, 0x02])).2.frame.2
    let long := List.replicate 3585 0
    (c.load (.ok long)).1 = .error (.programTooLarge 3585 3584) ∧
      c.machine.registers.get .first = 0x2A ∧
      (c.load (.ok long)).2.machine.registers.get .first = 0 ∧
      (c.load (.ok long)).2.machine ≠ c.machine := by
  intro fresh c long
  have herror : (c.load (.ok long)).1 = .error (.programTooLarge 3585 3584) := by decide +kernel
  have hbefore : c.machine.registers.get .first = 0x2A := by decide +kernel
  have hafter : (c.load (.ok long)).2.machine.registers.get .first = 0 := by decide +kernel
  refine ⟨herror, hbefore, hafter, ?_⟩
  intro h
  rw [h, hbefore] at hafter
  cases hafter

end Console

end Chip8
