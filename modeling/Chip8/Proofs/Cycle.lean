import Chip8.Machine.Run

/-!
# What a cycle can do

A cycle fetches, decodes, carries out and follows one instruction, and each of the first
three can fail.  `Cycle m` lists the ways in which the cycle of `m` can go, and
`cycle_cases` says that there are no others, so that a fact on steps is proved by cases
on them and not by unfolding `Machine.cycle`.  `Stepping` does the same for a step as a
whole, in which the instruction that is next is carried out or nothing happens but a halt.

How an instruction moves control is `Transfer`: a jump changes nothing but the flow, a
call and a return change the stack as well, and all the rest lets the program go on where
it is.  `execute_transfer` reads this off `Machine.execute` once, for all instructions.
What an instruction asks of whoever drives the machine is `Request`, and `execute_request`
does the same for it: only the two that draw touch the screen, and only one waits.
-/

namespace Chip8

/-- The program goes on right behind the instruction. -/
def Flow.IsLocal : Flow → Prop
  | .jump _ => False
  | _ => True

theorem Flow.isLocal_skipIf (holds : Bool) : (Flow.skipIf holds).IsLocal := by
  cases holds <;> exact trivial

/-- The program goes on, and there is nothing to show and no key to wait for. -/
def Flow.IsSilent : Flow → Prop
  | .redraw => False
  | .wait _ => False
  | _ => True

theorem Flow.isSilent_skipIf (holds : Bool) : (Flow.skipIf holds).IsSilent := by
  cases holds <;> exact trivial

/-- A computation in two stages succeeds exactly if both stages do. -/
theorem bind_eq_ok_iff {ε α β : Type} {x : Except ε α} {f : α → Except ε β} {b : β} :
    (x >>= f) = .ok b ↔ ∃ a, x = .ok a ∧ f a = .ok b := by
  cases x with
  | error e =>
    constructor
    · intro h
      cases h
    · rintro ⟨_, h, _⟩
      cases h
  | ok a =>
    constructor
    · intro h
      exact ⟨a, rfl, h⟩
    · rintro ⟨_, h, hb⟩
      cases h
      exact hb

/-- A computation whose second stage always succeeds fails exactly if its first stage does. -/
theorem bind_pure_eq_error_iff {ε α β : Type} {x : Except ε α} {f : α → β} {e : ε} :
    (x >>= fun a => pure (f a)) = .error e ↔ x = .error e := by
  cases x with
  | error e' =>
    constructor
    · rintro ⟨⟩
      rfl
    · rintro ⟨⟩
      rfl
  | ok a => exact ⟨nofun, nofun⟩

namespace Machine

/-! ## The ways a cycle can go -/

/-- The results that a cycle of a machine can have. -/
inductive Cycle (m : Machine) : Except Trap Step × Machine → Prop where
  /-- There is no word at the program counter. -/
  | unfetched {fault : Fault} :
      m.memory.readWord m.registers.pc = .error fault →
      Cycle m (m.halt ⟨fault, m.registers.pc, none⟩)
  /-- The word at the program counter is no instruction. -/
  | undecoded {opcode : UInt16} :
      m.memory.readWord m.registers.pc = .ok opcode →
      Instruction.decode opcode = none →
      Cycle m (m.halt ⟨.unknownOpcode, m.registers.pc, some opcode⟩)
  /-- The instruction raises a fault. -/
  | refused {opcode : UInt16} {i : Instruction} {fault : Fault} :
      m.memory.readWord m.registers.pc = .ok opcode →
      Instruction.decode opcode = some i →
      m.execute i = .error fault →
      Cycle m (m.halt ⟨fault, m.registers.pc, some opcode⟩)
  /-- The instruction is carried out. -/
  | executed {opcode : UInt16} {i : Instruction} {flow : Flow} {m' : Machine} :
      m.memory.readWord m.registers.pc = .ok opcode →
      Instruction.decode opcode = some i →
      m.execute i = .ok (flow, m') →
      Cycle m (m'.follow m.registers.pc opcode flow)

theorem cycle_cases (m : Machine) : Cycle m m.cycle := by
  rw [cycle]
  cases hf : m.memory.readWord m.registers.pc with
  | error fault => exact .unfetched hf
  | ok opcode =>
    dsimp only
    cases hd : Instruction.decode opcode with
    | none => exact .undecoded hf hd
    | some i =>
      dsimp only
      cases he : m.execute i with
      | error fault => exact .refused hf hd he
      | ok r => exact .executed hf hd he

/-- The one thing that can go wrong after an instruction was carried out is that it jumps to an
odd address. -/
theorem follow_error {m m' : Machine} {pc opcode : UInt16} {flow : Flow} {t : Trap}
    (h : m.follow pc opcode flow = (.error t, m')) :
    ∃ target, flow = .jump target ∧ target.toNat % 2 ≠ 0 ∧
      t = ⟨.misalignedJump target, pc, some opcode⟩ ∧ m' = { m with activity := .halted t } := by
  cases flow with
  | next => cases h
  | skip => cases h
  | redraw => cases h
  | jump target =>
    rw [follow] at h
    split at h
    · next hodd =>
      cases h
      exact ⟨target, rfl, hodd, rfl, rfl⟩
    · cases h
  | wait target => cases h

theorem step_of_running {m : Machine} (h : m.activity = .running) : m.step = m.cycle := by
  rw [step, h]

theorem step_of_awaitingKey {m : Machine} {x : Register} (h : m.activity = .awaitingKey x) :
    m.step = (.ok .awaitingKey, m) := by
  rw [step, h]

theorem step_of_halted {m : Machine} {t : Trap} (h : m.activity = .halted t) :
    m.step = (.error t, m) := by
  rw [step, h]

/-! ## The instruction that is next -/

/-- The instruction at the program counter, if there is a word there and it is one. -/
def nextInstruction? (m : Machine) : Option Instruction :=
  match m.memory.readWord m.registers.pc with
  | .error _ => none
  | .ok opcode => Instruction.decode opcode

/-- The machine runs, and `i` is the instruction that its next step is about. -/
def Runs (m : Machine) (i : Instruction) : Prop :=
  m.activity = .running ∧ m.nextInstruction? = some i

instance (m : Machine) (i : Instruction) : Decidable (m.Runs i) :=
  inferInstanceAs (Decidable (_ ∧ _))

theorem nextInstruction?_eq_some_iff {m : Machine} {i : Instruction} :
    m.nextInstruction? = some i ↔ ∃ opcode, m.memory.readWord m.registers.pc = .ok opcode ∧
      Instruction.decode opcode = some i := by
  rw [nextInstruction?]
  cases m.memory.readWord m.registers.pc with
  | error fault => simp
  | ok opcode => simp

/-- An instruction that is next was fetched from inside memory. -/
theorem Runs.pc_le {m : Machine} {i : Instruction} (h : m.Runs i) :
    m.registers.pc.toNat ≤ 0xFFE := by
  obtain ⟨_, hf, -⟩ := nextInstruction?_eq_some_iff.1 h.2
  exact (Memory.readWord_eq_ok_iff.1 hf).1

/-- An instruction that is carried out makes the step. -/
theorem Runs.step_of_execute {m m' : Machine} {i : Instruction} {flow : Flow} (h : m.Runs i)
    (he : m.execute i = .ok (flow, m')) : ∃ opcode, m.step = m'.follow m.registers.pc opcode flow := by
  obtain ⟨opcode, hf, hd⟩ := nextInstruction?_eq_some_iff.1 h.2
  refine ⟨opcode, ?_⟩
  rw [step_of_running h.1, cycle, hf]
  simp only [hd, he]

/-- A step that succeeds carried out the instruction that was next. -/
theorem Runs.execute_of_step {m m' : Machine} {i : Instruction} {s : Step} (h : m.Runs i)
    (hs : m.step = (.ok s, m')) :
    ∃ opcode flow m₁, m.execute i = .ok (flow, m₁) ∧
      m₁.follow m.registers.pc opcode flow = (.ok s, m') := by
  obtain ⟨opcode, hf, hd⟩ := nextInstruction?_eq_some_iff.1 h.2
  rw [step_of_running h.1, cycle, hf] at hs
  simp only [hd] at hs
  cases he : m.execute i with
  | error fault =>
    rw [he] at hs
    cases hs
  | ok r =>
    rw [he] at hs
    exact ⟨opcode, r.1, r.2, rfl, hs⟩

/-! ## The ways a step can go -/

/-- The results that a step of a machine can have. -/
inductive Stepping (m : Machine) : Except Trap Step × Machine → Prop where
  | waits {x : Register} : m.activity = .awaitingKey x → Stepping m (.ok .awaitingKey, m)
  | stays {t : Trap} : m.activity = .halted t → Stepping m (.error t, m)
  /-- Fetching, decoding or carrying out fails, and nothing has happened but that. -/
  | halts (t : Trap) : m.activity = .running → Stepping m (m.halt t)
  /-- The instruction that is next is carried out and followed. -/
  | executes {opcode : UInt16} {i : Instruction} {flow : Flow} {m' : Machine} :
      m.Runs i → m.execute i = .ok (flow, m') →
      Stepping m (m'.follow m.registers.pc opcode flow)

theorem step_cases (m : Machine) : Stepping m m.step := by
  cases ha : m.activity with
  | awaitingKey x =>
    rw [step_of_awaitingKey ha]
    exact .waits ha
  | halted t =>
    rw [step_of_halted ha]
    exact .stays ha
  | running =>
    rw [step_of_running ha]
    have hc := m.cycle_cases
    generalize m.cycle = r at hc ⊢
    cases hc with
    | unfetched hf => exact .halts _ ha
    | undecoded hf hd => exact .halts _ ha
    | refused hf hd he => exact .halts _ ha
    | executed hf hd he => exact .executes ⟨ha, nextInstruction?_eq_some_iff.2 ⟨_, hf, hd⟩⟩ he

/-- Following an instruction moves the program counter and says what the machine is doing, and
changes nothing else. -/
theorem follow_eq (m : Machine) (pc opcode : UInt16) (flow : Flow) :
    ∃ pc' activity, (m.follow pc opcode flow).2 = { m.goTo pc' with activity } := by
  cases flow with
  | next => exact ⟨pc + 2, m.activity, rfl⟩
  | skip => exact ⟨pc + 4, m.activity, rfl⟩
  | redraw => exact ⟨pc + 2, m.activity, rfl⟩
  | jump target =>
    rw [follow]
    split
    · exact ⟨m.registers.pc, _, rfl⟩
    · exact ⟨target, m.activity, rfl⟩
  | wait target => exact ⟨pc + 2, .awaitingKey target, rfl⟩

@[simp] theorem stack_follow (m : Machine) (pc opcode : UInt16) (flow : Flow) :
    (m.follow pc opcode flow).2.registers.stack = m.registers.stack := by
  obtain ⟨pc', activity, h⟩ := m.follow_eq pc opcode flow
  rw [h]
  rfl

@[simp] theorem screen_follow (m : Machine) (pc opcode : UInt16) (flow : Flow) :
    (m.follow pc opcode flow).2.screen = m.screen := by
  obtain ⟨pc', activity, h⟩ := m.follow_eq pc opcode flow
  rw [h]
  rfl

/-! ## How an instruction moves control -/

/-- The registers with the stack replaced. -/
def withStack (m : Machine) (stack : List UInt16) : Machine :=
  { m with registers := { m.registers with stack } }

/-- What an instruction that is carried out does to control. -/
inductive Transfer (m : Machine) : Instruction → Flow → Machine → Prop where
  | jump (a : Address) : Transfer m (.jump a) (.jump (word a)) m
  | jumpOffset (a : Address) :
      Transfer m (.jumpOffset a) (.jump (word a + (m.registers.get .first).toUInt16)) m
  | call (a : Address) :
      a.val % 2 = 0 →
      m.registers.stack.length ≠ Registers.stackDepth →
      Transfer m (.call a) (.jump (word a))
        (m.withStack ((m.registers.pc + 2) :: m.registers.stack))
  | ret {target : UInt16} {rest : List UInt16} :
      m.registers.stack = target :: rest →
      Transfer m .ret (.jump target) (m.withStack rest)
  /-- Any other instruction leaves control alone. -/
  | straight {i : Instruction} {flow : Flow} {m' : Machine} :
      flow.IsLocal →
      m'.registers.pc = m.registers.pc →
      m'.registers.stack = m.registers.stack →
      m'.activity = m.activity →
      Transfer m i flow m'

theorem execute_transfer {m m' : Machine} {i : Instruction} {flow : Flow}
    (h : m.execute i = .ok (flow, m')) : Transfer m i flow m' := by
  cases i with
  | clear => cases h; exact .straight trivial rfl rfl rfl
  | ret =>
    obtain ⟨⟨target, registers⟩, hp, h⟩ := bind_eq_ok_iff.1 h
    cases h
    cases hs : m.registers.stack with
    | nil =>
      rw [Registers.pop, hs] at hp
      cases hp
    | cons top rest =>
      rw [Registers.pop, hs] at hp
      cases hp
      exact .ret hs
  | jump a => cases h; exact .jump a
  | call a =>
    simp only [execute] at h
    split at h
    · cases h
    · next heven =>
      obtain ⟨registers, hp, h⟩ := bind_eq_ok_iff.1 h
      cases h
      rw [Registers.push] at hp
      split at hp
      · cases hp
      · next hroom =>
        cases hp
        exact .call a (by omega) hroom
  | skip c => cases h; exact .straight (Flow.isLocal_skipIf _) rfl rfl rfl
  | load x b => cases h; exact .straight trivial rfl rfl rfl
  | addByte x b => cases h; exact .straight trivial rfl rfl rfl
  | arithmetic o x y =>
    cases h
    refine .straight trivial ?_ ?_ rfl
    · cases o <;> rfl
    · cases o <;> rfl
  | loadIndex a => cases h; exact .straight trivial rfl rfl rfl
  | jumpOffset a => cases h; exact .jumpOffset a
  | random x mask => cases h; exact .straight trivial rfl rfl rfl
  | draw x y n =>
    obtain ⟨sprite, -, h⟩ := bind_eq_ok_iff.1 h
    cases h
    exact .straight trivial rfl rfl rfl
  | readDelay x => cases h; exact .straight trivial rfl rfl rfl
  | waitKey x => cases h; exact .straight trivial rfl rfl rfl
  | setDelay x => cases h; exact .straight trivial rfl rfl rfl
  | setSound x => cases h; exact .straight trivial rfl rfl rfl
  | addIndex x => cases h; exact .straight trivial rfl rfl rfl
  | glyph x => cases h; exact .straight trivial rfl rfl rfl
  | storeDecimal x =>
    obtain ⟨memory, -, h⟩ := bind_eq_ok_iff.1 h
    cases h
    exact .straight trivial rfl rfl rfl
  | storeRegisters x =>
    obtain ⟨memory, -, h⟩ := bind_eq_ok_iff.1 h
    cases h
    exact .straight trivial rfl rfl rfl
  | loadRegisters x =>
    obtain ⟨values, -, h⟩ := bind_eq_ok_iff.1 h
    cases h
    exact .straight trivial (by simp) (by simp) rfl

/-- What an instruction leaves a machine doing is what it was doing; only following it changes
that. -/
theorem activity_of_execute {m m' : Machine} {i : Instruction} {flow : Flow}
    (h : m.execute i = .ok (flow, m')) : m'.activity = m.activity := by
  cases execute_transfer h with
  | jump a => rfl
  | jumpOffset a => rfl
  | call a _ _ => rfl
  | ret _ => rfl
  | straight _ _ _ hact => exact hact

/-! ## What an instruction asks for -/

/-- What an instruction that is carried out asks of the owner of the machine: to show the
screen, to wait for a key, or nothing, and then the screen is as it was. -/
inductive Request (m : Machine) : Instruction → Flow → Machine → Prop where
  | clear {m' : Machine} : Request m .clear .redraw m'
  | draw {m' : Machine} (x y : Register) (n : Fin 16) : Request m (.draw x y n) .redraw m'
  | key (x : Register) : Request m (.waitKey x) (.wait x) m
  | nothing {i : Instruction} {flow : Flow} {m' : Machine} :
      flow.IsSilent → m'.screen = m.screen → Request m i flow m'

theorem execute_request {m m' : Machine} {i : Instruction} {flow : Flow}
    (h : m.execute i = .ok (flow, m')) : Request m i flow m' := by
  cases i with
  | clear => cases h; exact .clear
  | ret =>
    obtain ⟨p, -, h⟩ := bind_eq_ok_iff.1 h
    cases h
    exact .nothing trivial rfl
  | jump a => cases h; exact .nothing trivial rfl
  | call a =>
    simp only [execute] at h
    split at h
    · cases h
    · obtain ⟨registers, -, h⟩ := bind_eq_ok_iff.1 h
      cases h
      exact .nothing trivial rfl
  | skip c => cases h; exact .nothing (Flow.isSilent_skipIf _) rfl
  | load x b => cases h; exact .nothing trivial rfl
  | addByte x b => cases h; exact .nothing trivial rfl
  | arithmetic o x y => cases h; exact .nothing trivial rfl
  | loadIndex a => cases h; exact .nothing trivial rfl
  | jumpOffset a => cases h; exact .nothing trivial rfl
  | random x mask => cases h; exact .nothing trivial rfl
  | draw x y n =>
    obtain ⟨sprite, -, h⟩ := bind_eq_ok_iff.1 h
    cases h
    exact .draw x y n
  | readDelay x => cases h; exact .nothing trivial rfl
  | waitKey x => cases h; exact .key x
  | setDelay x => cases h; exact .nothing trivial rfl
  | setSound x => cases h; exact .nothing trivial rfl
  | addIndex x => cases h; exact .nothing trivial rfl
  | glyph x => cases h; exact .nothing trivial rfl
  | storeDecimal x =>
    obtain ⟨memory, -, h⟩ := bind_eq_ok_iff.1 h
    cases h
    exact .nothing trivial rfl
  | storeRegisters x =>
    obtain ⟨memory, -, h⟩ := bind_eq_ok_iff.1 h
    cases h
    exact .nothing trivial rfl
  | loadRegisters x =>
    obtain ⟨values, -, h⟩ := bind_eq_ok_iff.1 h
    cases h
    exact .nothing trivial rfl

/-- An instruction that does not ask to show the screen leaves it alone. -/
theorem screen_of_execute {m m' : Machine} {i : Instruction} {flow : Flow}
    (h : m.execute i = .ok (flow, m')) (hflow : flow ≠ .redraw) : m'.screen = m.screen := by
  cases execute_request h with
  | clear => exact absurd rfl hflow
  | draw x y n => exact absurd rfl hflow
  | key x => rfl
  | nothing _ hscreen => exact hscreen

/-- One instruction waits for a key, and it does nothing else. -/
theorem eq_waitKey_of_execute {m m' : Machine} {i : Instruction} {x : Register}
    (h : m.execute i = .ok (.wait x, m')) : i = .waitKey x ∧ m' = m := by
  cases execute_request h with
  | key => exact ⟨rfl, rfl⟩
  | nothing hsilent _ => exact hsilent.elim

/-- A step that does not answer that it changed the screen has not. -/
theorem screen_of_step {m m' : Machine} {r : Except Trap Step} (h : m.step = (r, m'))
    (hr : r ≠ .ok .redrawn) : m'.screen = m.screen := by
  have hc := m.step_cases
  rw [h] at hc
  generalize hres : (r, m') = result at hc
  cases hc with
  | waits _ => cases hres; rfl
  | stays _ => cases hres; rfl
  | halts t _ => cases hres; rfl
  | @executes opcode i flow m₁ _ he =>
    have hflow : flow ≠ .redraw := by
      rintro rfl
      cases hres
      exact hr rfl
    have hscreen := screen_follow m₁ m.registers.pc opcode flow
    rw [← hres] at hscreen
    exact hscreen.trans (screen_of_execute he hflow)

/-- A step finds that a machine waits only if it does, and then changes nothing. -/
theorem awaiting_of_step {m m' : Machine} (h : m.step = (.ok .awaitingKey, m')) :
    m' = m ∧ ∃ x, m.activity = .awaitingKey x := by
  have hc := m.step_cases
  rw [h] at hc
  generalize hres : ((.ok .awaitingKey, m') : Except Trap Step × Machine) = result at hc
  cases hc with
  | waits hx => cases hres; exact ⟨rfl, _, hx⟩
  | stays _ => cases hres
  | halts t _ => cases hres
  | @executes opcode i flow m₁ _ he =>
    cases flow with
    | next => cases hres
    | skip => cases hres
    | redraw => cases hres
    | jump target =>
      rw [follow] at hres
      split at hres
      · cases hres
      · cases hres
    | wait target => cases hres

/-! ## What no instruction touches -/

/-- No instruction touches the keypad, the configuration or what the machine is doing. -/
theorem execute_eq {m m' : Machine} {i : Instruction} {flow : Flow}
    (h : m.execute i = .ok (flow, m')) :
    ∃ memory registers timers screen generator,
      m' = { m with memory, registers, timers, screen, generator } := by
  cases i with
  | clear => cases h; exact ⟨_, _, _, _, _, rfl⟩
  | ret =>
    obtain ⟨p, -, h⟩ := bind_eq_ok_iff.1 h
    cases h
    exact ⟨_, _, _, _, _, rfl⟩
  | jump a => cases h; exact ⟨_, _, _, _, _, rfl⟩
  | call a =>
    simp only [execute] at h
    split at h
    · cases h
    · obtain ⟨registers, -, h⟩ := bind_eq_ok_iff.1 h
      cases h
      exact ⟨_, _, _, _, _, rfl⟩
  | skip c => cases h; exact ⟨_, _, _, _, _, rfl⟩
  | load x b => cases h; exact ⟨_, _, _, _, _, rfl⟩
  | addByte x b => cases h; exact ⟨_, _, _, _, _, rfl⟩
  | arithmetic o x y => cases h; exact ⟨_, _, _, _, _, rfl⟩
  | loadIndex a => cases h; exact ⟨_, _, _, _, _, rfl⟩
  | jumpOffset a => cases h; exact ⟨_, _, _, _, _, rfl⟩
  | random x mask => cases h; exact ⟨_, _, _, _, _, rfl⟩
  | draw x y n =>
    obtain ⟨sprite, -, h⟩ := bind_eq_ok_iff.1 h
    cases h
    exact ⟨_, _, _, _, _, rfl⟩
  | readDelay x => cases h; exact ⟨_, _, _, _, _, rfl⟩
  | waitKey x => cases h; exact ⟨_, _, _, _, _, rfl⟩
  | setDelay x => cases h; exact ⟨_, _, _, _, _, rfl⟩
  | setSound x => cases h; exact ⟨_, _, _, _, _, rfl⟩
  | addIndex x => cases h; exact ⟨_, _, _, _, _, rfl⟩
  | glyph x => cases h; exact ⟨_, _, _, _, _, rfl⟩
  | storeDecimal x =>
    obtain ⟨memory, -, h⟩ := bind_eq_ok_iff.1 h
    cases h
    exact ⟨_, _, _, _, _, rfl⟩
  | storeRegisters x =>
    obtain ⟨memory, -, h⟩ := bind_eq_ok_iff.1 h
    cases h
    exact ⟨_, _, _, _, _, rfl⟩
  | loadRegisters x =>
    obtain ⟨values, -, h⟩ := bind_eq_ok_iff.1 h
    cases h
    exact ⟨_, _, _, _, _, rfl⟩

/-- The keypad and the configuration belong to whoever owns the machine, and no step touches
them. -/
theorem step_eq (m : Machine) :
    ∃ memory registers timers screen activity generator,
      m.step.2 = { m with memory, registers, timers, screen, activity, generator } := by
  have hc := m.step_cases
  generalize m.step = r at hc ⊢
  cases hc with
  | waits _ => exact ⟨_, _, _, _, _, _, rfl⟩
  | stays _ => exact ⟨_, _, _, _, _, _, rfl⟩
  | halts t _ => exact ⟨_, _, _, _, _, _, rfl⟩
  | @executes opcode i flow m₁ _ he =>
    obtain ⟨memory, registers, timers, screen, generator, rfl⟩ := execute_eq he
    obtain ⟨pc, activity, hf⟩ := follow_eq { m with memory, registers, timers, screen, generator }
      m.registers.pc opcode flow
    rw [hf]
    exact ⟨_, _, _, _, _, _, rfl⟩

theorem keypad_step (m : Machine) : m.step.2.keypad = m.keypad := by
  obtain ⟨_, _, _, _, _, _, h⟩ := m.step_eq
  rw [h]

theorem config_step (m : Machine) : m.step.2.config = m.config := by
  obtain ⟨_, _, _, _, _, _, h⟩ := m.step_eq
  rw [h]

end Machine

end Chip8
