import Chip8.Machine.Run

/-!
# Operations that execute nothing

Loading and the two key events either do nothing and say why, or change one part of the
machine.  Each has one statement that lists what it can do, for proofs by cases.
-/

namespace Chip8.Machine

/-- Loading succeeds exactly if the program is not too long, and then changes memory alone. -/
theorem load_cases (m : Machine) (program : List UInt8) :
    (Memory.maxProgramBytes < program.length ∧
      m.load program = (.error (.programTooLarge program.length Memory.maxProgramBytes), m)) ∨
    (program.length ≤ Memory.maxProgramBytes ∧
      m.load program = (.ok (), { m with memory := m.memory.poke Memory.programStart program })) := by
  rw [load, Memory.loadProgram]
  split
  · next e hp =>
    split at hp
    · cases hp
    · next hlong =>
      cases hp
      exact .inl ⟨Nat.lt_of_not_le hlong, rfl⟩
  · next memory hp =>
    split at hp
    · next hshort =>
      cases hp
      exact .inr ⟨hshort, rfl⟩
    · cases hp

/-- A key that goes down is refused, ends a wait, or is held and nothing else. -/
theorem keyDown_cases (m : Machine) (code : UInt8) :
    (Keypad.key? code = none ∧ m.keyDown code = (.error (.invalidKey code), m)) ∨
    ∃ key, Keypad.key? code = some key ∧
      ((∃ x, m.activity = .awaitingKey x ∧ m.keyDown code = (.ok (), { m with
          keypad := m.keypad.press key
          registers := m.registers.set x code
          activity := .running })) ∨
        ((∀ x, m.activity ≠ .awaitingKey x) ∧
          m.keyDown code = (.ok (), { m with keypad := m.keypad.press key }))) := by
  rw [keyDown]
  cases Keypad.key? code with
  | none => exact .inl ⟨rfl, rfl⟩
  | some key =>
    refine .inr ⟨key, rfl, ?_⟩
    cases ha : m.activity with
    | running => exact .inr ⟨by simp, rfl⟩
    | awaitingKey x => exact .inl ⟨x, rfl, rfl⟩
    | halted t => exact .inr ⟨by simp, rfl⟩

theorem keyUp_cases (m : Machine) (code : UInt8) :
    (Keypad.key? code = none ∧ m.keyUp code = (.error (.invalidKey code), m)) ∨
    ∃ key, Keypad.key? code = some key ∧
      m.keyUp code = (.ok (), { m with keypad := m.keypad.release key }) := by
  rw [keyUp]
  cases Keypad.key? code with
  | none => exact .inl ⟨rfl, rfl⟩
  | some key => exact .inr ⟨key, rfl, rfl⟩

/-- A key event is refused exactly if its code names no key. -/
theorem answer_keyDown (m : Machine) (code : UInt8) :
    (m.keyDown code).1 =
      if Keypad.key? code = none then .error (.invalidKey code) else .ok () := by
  rcases m.keyDown_cases code with ⟨hnone, hk⟩ | ⟨key, hkey, ⟨x, -, hk⟩ | ⟨-, hk⟩⟩
  · rw [hk, if_pos hnone]
  · rw [hk, if_neg (by simp [hkey])]
  · rw [hk, if_neg (by simp [hkey])]

theorem answer_keyUp (m : Machine) (code : UInt8) :
    (m.keyUp code).1 =
      if Keypad.key? code = none then .error (.invalidKey code) else .ok () := by
  rcases m.keyUp_cases code with ⟨hnone, hk⟩ | ⟨key, hkey, hk⟩
  · rw [hk, if_pos hnone]
  · rw [hk, if_neg (by simp [hkey])]

/-! ## What is left alone -/

theorem load_eq (m : Machine) (program : List UInt8) :
    ∃ memory, (m.load program).2 = { m with memory } := by
  rcases m.load_cases program with ⟨-, hl⟩ | ⟨-, hl⟩
  · rw [hl]
    exact ⟨m.memory, rfl⟩
  · rw [hl]
    exact ⟨_, rfl⟩

theorem keyDown_eq (m : Machine) (code : UInt8) :
    ∃ keypad v activity, (m.keyDown code).2 =
      { m with keypad, registers := { m.registers with v }, activity } := by
  rcases m.keyDown_cases code with ⟨-, hk⟩ | ⟨key, -, ⟨x, -, hk⟩ | ⟨-, hk⟩⟩
  · rw [hk]
    exact ⟨m.keypad, m.registers.v, m.activity, rfl⟩
  · rw [hk]
    exact ⟨_, _, _, rfl⟩
  · rw [hk]
    exact ⟨_, m.registers.v, m.activity, rfl⟩

theorem keyUp_eq (m : Machine) (code : UInt8) :
    ∃ keypad, (m.keyUp code).2 = { m with keypad } := by
  rcases m.keyUp_cases code with ⟨-, hk⟩ | ⟨key, -, hk⟩
  · rw [hk]
    exact ⟨m.keypad, rfl⟩
  · rw [hk]
    exact ⟨_, rfl⟩

end Chip8.Machine
