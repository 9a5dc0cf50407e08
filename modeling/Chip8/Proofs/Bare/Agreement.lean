import Chip8.Proofs.Bare.Instructions
import Chip8.Proofs.Operations

/-!
# The bare machine never panics

Step by step, and so over whole runs, the bare machine does what the machine does: it
answers the same and leaves the image of what the machine leaves.  None of its checks ever
fails, whatever the configuration, the programs that are loaded and the order in which
they are loaded, run and interrupted.

A frame counts its instructions in a word of thirty-two bits.  The count stays in range
since a frame has no more steps than the word has values.
-/

namespace Chip8.Machine

/-- An answer together with the image of the machine that is left. -/
def bareResult {α : Type} (r : α × Machine) : α × Bare.Machine := (r.1, r.2.bare)

/-! ## Steps -/

theorem follow_bare (m : Machine) {pc : UInt16} (hpc : pc.toNat ≤ 0xFFE) (opcode : UInt16)
    (flow : Flow) :
    m.bare.follow pc opcode flow.bare = .ok (bareResult (m.follow pc opcode flow)) := by
  have hnext : Checked.addWord pc 2 = .ok (pc + 2) :=
    Checked.addWord_eq_ok (Nat.lt_of_le_of_lt (Nat.add_le_add_right hpc 2) (by decide))
  have hskip : Checked.addWord pc 4 = .ok (pc + 4) :=
    Checked.addWord_eq_ok (Nat.lt_of_le_of_lt (Nat.add_le_add_right hpc 4) (by decide))
  cases flow with
  | next => rw [Flow.bare, Bare.Machine.follow, hnext]; rfl
  | skip => rw [Flow.bare, Bare.Machine.follow, hskip]; rfl
  | jump target =>
    rw [Flow.bare, Bare.Machine.follow, follow]
    split
    · rfl
    · rfl
  | redraw => rw [Flow.bare, Bare.Machine.follow, hnext]; rfl
  | wait x => rw [Flow.bare, Bare.Machine.follow, hnext]; rfl

theorem cycle_bare (m : Machine) : m.bare.cycle = .ok (bareResult m.cycle) := by
  have hfetch : Bare.readWord m.bare.memory m.bare.pc = .ok (m.memory.readWord m.registers.pc) :=
    m.memory.readWord_bare m.registers.pc
  rw [Bare.Machine.cycle, hfetch, ok_bind, cycle]
  cases hf : m.memory.readWord m.registers.pc with
  | error fault => rfl
  | ok opcode =>
    dsimp only
    rw [Bare.decode_eq]
    cases hd : Instruction.decode opcode with
    | none => rfl
    | some i =>
      have hpc := (Memory.readWord_eq_ok_iff.1 hf).1
      dsimp only [Option.map]
      rw [m.execute_bare hpc i, ok_bind]
      cases he : m.execute i with
      | error fault => rfl
      | ok r => exact r.2.follow_bare hpc opcode r.1

theorem step_bare (m : Machine) : m.bare.step = .ok (bareResult m.step) := by
  cases ha : m.activity with
  | running =>
    have hbare : m.bare.activity = .running := by rw [bare, ha]; rfl
    rw [Bare.Machine.step, hbare, step, ha]
    exact m.cycle_bare
  | awaitingKey x =>
    have hbare : m.bare.activity = .awaitingKey x := by rw [bare, ha]; rfl
    rw [Bare.Machine.step, hbare, step, ha]
    rfl
  | halted t =>
    have hbare : m.bare.activity = .halted t := by rw [bare, ha]; rfl
    rw [Bare.Machine.step, hbare, step, ha]
    rfl

/-! ## Frames -/

theorem isAwaitingKey_bare (m : Machine) : m.bare.isAwaitingKey = m.isAwaitingKey := by
  rw [Bare.Machine.isAwaitingKey, isAwaitingKey, bare]
  cases m.activity <;> rfl

theorem endFrame_bare (m : Machine) {report : FrameReport} {executed : UInt32}
    (hcount : executed.toNat = report.executed) :
    m.bare.endFrame executed report.redraw = bareResult (m.endFrame report) := by
  have hwait : m.bare.tick.isAwaitingKey = m.tick.isAwaitingKey := m.tick.isAwaitingKey_bare
  rw [Bare.Machine.endFrame, hcount, hwait]
  rfl

/-- The count is in range as long as the steps to come are. -/
theorem frameSteps_bare (k : Nat) {report : FrameReport} {executed : UInt32} (m : Machine)
    (hcount : executed.toNat = report.executed) (hroom : executed.toNat + k < 4294967296) :
    Bare.Machine.frameSteps k executed report.redraw m.bare =
      .ok (bareResult (frameSteps k report m)) := by
  induction k generalizing report executed m with
  | zero =>
    rw [Bare.Machine.frameSteps, endFrame_bare m hcount]
    rfl
  | succ k ih =>
    have hone : (1 : UInt32).toNat = 1 := rfl
    have hsum : (executed + 1).toNat = executed.toNat + 1 := by
      rw [UInt32.toNat_add]
      omega
    have hadd : Checked.addCount executed 1 = .ok (executed + 1) :=
      Checked.addCount_eq_ok (by omega)
    have hcount' (redraw : Bool) : (executed + 1).toNat = (report.count redraw).executed := by
      rw [hsum, hcount]
      rfl
    have hroom' : (executed + 1).toNat + k < 4294967296 := by omega
    rw [Bare.Machine.frameSteps, step_bare, ok_bind, frameSteps]
    generalize m.step = r
    obtain ⟨answer, m'⟩ := r
    cases answer with
    | error t => rfl
    | ok s =>
      cases s with
      | executed =>
        have hredraw : (report.count false).redraw = report.redraw := Bool.or_false _
        have hrest := ih m' (hcount' false) hroom'
        rw [hredraw] at hrest
        dsimp only [bareResult]
        rw [hadd, ok_bind]
        exact hrest
      | redrawn =>
        have hredraw : (report.count true).redraw = true := Bool.or_true _
        have hrest := ih m' (hcount' true) hroom'
        rw [hredraw] at hrest
        dsimp only [bareResult]
        rw [hadd, ok_bind]
        exact hrest
      | awaitingKey =>
        dsimp only [bareResult]
        rw [endFrame_bare m' hcount]
        rfl

theorem runFrame_bare (m : Machine) : m.bare.runFrame = .ok (bareResult m.runFrame) := by
  have hzero : (0 : UInt32).toNat = ({} : FrameReport).executed := rfl
  have hroom : (0 : UInt32).toNat + m.config.cyclesPerFrame.toNat < 4294967296 := by
    have hlt := m.config.cyclesPerFrame.toNat_lt
    have h0 : (0 : UInt32).toNat = 0 := rfl
    omega
  exact frameSteps_bare _ m hzero hroom

/-! ## The other operations -/

theorem powerOn_bare (config : Config) (entropy : ChaCha.Key) :
    Bare.Machine.powerOn config entropy = .ok (powerOn config entropy).bare := by
  rw [Bare.Machine.powerOn, Memory.powerOnMemory_eq, ok_bind, bare, powerOn,
    Keypad.bits_released, Screen.toList_blank]
  rfl

theorem reset_bare (m : Machine) : m.bare.reset = .ok m.reset.bare := by
  rw [Bare.Machine.reset, Memory.powerOnMemory_eq, ok_bind]
  conv =>
    rhs
    rw [reset, bare, Keypad.bits_released, Screen.toList_blank]
  rfl

theorem load_bare (m : Machine) (program : List UInt8) :
    m.bare.load program = .ok (bareResult (m.load program)) := by
  have hload : Bare.loadProgram m.bare.memory program = .ok _ := m.memory.loadProgram_bare program
  rw [Bare.Machine.load, hload, ok_bind, load]
  cases m.memory.loadProgram program with
  | error e => rfl
  | ok memory => rfl

theorem keyDown_bare (m : Machine) (code : UInt8) :
    m.bare.keyDown code = .ok (bareResult (m.keyDown code)) := by
  rw [Bare.Machine.keyDown, keyDown]
  cases hkey : Keypad.key? code with
  | none =>
    rw [if_pos (Keypad.key?_eq_none_iff.1 hkey)]
    rfl
  | some key =>
    have hlt : ¬ 16 ≤ code.toNat := fun hge => by
      rw [Keypad.key?_eq_none_iff.2 hge] at hkey
      cases hkey
    have hpress : Bare.press m.bare.held code = .ok (m.keypad.press key).bits :=
      m.keypad.press_bare hkey
    rw [if_neg hlt, hpress, ok_bind]
    have hactivity : m.bare.activity = m.activity.bare := rfl
    dsimp only
    rw [hactivity]
    cases m.activity with
    | running => rfl
    | awaitingKey x =>
      dsimp only [Activity.bare]
      rw [put_bare]
      rfl
    | halted t => rfl

theorem keyUp_bare (m : Machine) (code : UInt8) :
    m.bare.keyUp code = .ok (bareResult (m.keyUp code)) := by
  rw [Bare.Machine.keyUp, keyUp]
  cases hkey : Keypad.key? code with
  | none =>
    rw [if_pos (Keypad.key?_eq_none_iff.1 hkey)]
    rfl
  | some key =>
    have hlt : ¬ 16 ≤ code.toNat := fun hge => by
      rw [Keypad.key?_eq_none_iff.2 hge] at hkey
      cases hkey
    have hrelease : Bare.release m.bare.held code = .ok (m.keypad.release key).bits :=
      m.keypad.release_bare hkey
    rw [if_neg hlt, hrelease]
    rfl

/-! ## Runs -/

theorem perform_bare (m : Machine) (op : Operation) :
    m.bare.perform op = .ok (bareResult (m.perform op)) := by
  cases op with
  | load program => rw [Bare.Machine.perform, load_bare]; rfl
  | step => rw [Bare.Machine.perform, step_bare]; rfl
  | runFrame => rw [Bare.Machine.perform, runFrame_bare]; rfl
  | tick => rfl
  | keyDown code => rw [Bare.Machine.perform, keyDown_bare]; rfl
  | keyUp code => rw [Bare.Machine.perform, keyUp_bare]; rfl
  | reset => rw [Bare.Machine.perform, reset_bare]; rfl

theorem run_bare (m : Machine) (ops : List Operation) : m.bare.run ops = .ok (m.run ops).bare := by
  induction ops generalizing m with
  | nil => rfl
  | cons op ops ih =>
    rw [Bare.Machine.run, perform_bare, ok_bind]
    exact ih (m.perform op).2

/-- No check ever fails, from power-on through any operations in any order.  The bare machine
ends in the image of the machine that went through the same, and each further operation on
it gives an answer, the one that the machine gives. -/
theorem run_powerOn_never_panics (config : Config) (entropy : ChaCha.Key) (ops : List Operation) :
    (Bare.Machine.powerOn config entropy >>= fun m => m.run ops) =
      .ok ((powerOn config entropy).run ops).bare ∧
    ∀ op, ((powerOn config entropy).run ops).bare.perform op =
      .ok (bareResult (((powerOn config entropy).run ops).perform op)) := by
  rw [powerOn_bare, ok_bind]
  exact ⟨run_bare _ ops, perform_bare _⟩

end Chip8.Machine
