import Mathlib.Control.Monad.Basic
import Chip8.Proofs.Cycle

/-!
# The footprint of an instruction

An instruction moves the program counter and writes a few parts of the machine, its
footprint.  `Instruction.footprint` lists them, with the index as it is before the
instruction, since that is where memory is written.  Whatever is not on the list is the same
after a step as before it (`Runs.keeps`), so a part that no instruction lists, the keypad
and the configuration, is never written by a program.  The `Part`s are all there is: an
instruction that lists none of them moves the program counter and that is all
(`eq_goTo_of_keeps`).

Each lemma on what one write leaves alone is about a single part.  An instruction that
writes several parts is followed write by write, with `Keeps.trans` in between, so that no
instruction is looked at for each part anew.
-/

namespace Chip8

/-- A part of a machine, the program counter apart. -/
inductive Part where
  /-- The byte of memory at an address. -/
  | byte (a : Nat)
  /-- A general register. -/
  | general (x : Register)
  | index
  | stack
  | delay
  | sound
  | screen
  | keypad
  /-- What the machine is doing. -/
  | activity
  | config
  | generator
deriving DecidableEq

/-- `len` bytes of memory from an address up. -/
def Part.block (start : UInt16) (len : Nat) : List Part :=
  (List.range len).map fun j => .byte (start.toNat + j)

/-- The general registers from `V0` up to and including `VX`. -/
def Part.generalUpTo (x : Register) : List Part :=
  ((List.finRange 16).filter (· ≤ x)).map .general

/-- Whether an operation on two registers leaves something in the flag. -/
def Arithmetic.raisesFlag : Arithmetic → Bool
  | copy | or | and | xor => false
  | add | sub | subFrom | shiftRight | shiftLeft => true

namespace Instruction

/-- Whether an instruction leaves a carry, a lost bit or a collision in the flag. -/
def raisesFlag : Instruction → Bool
  | arithmetic o _ _ => o.raisesFlag
  | draw .. => true
  | _ => false

/-- The parts that an instruction writes, if the index is `index`. -/
def footprint (index : UInt16) : Instruction → List Part
  | jump _ | jumpOffset _ | skip _ => []
  | clear => [.screen]
  | ret | call _ => [.stack]
  | load x _ | addByte x _ | readDelay x => [.general x]
  | arithmetic o x _ => if o.raisesFlag then [.general x, .general .flag] else [.general x]
  | loadIndex _ | addIndex _ | glyph _ => [.index]
  | random x _ => [.general x, .generator]
  | draw .. => [.screen, .general .flag]
  | waitKey _ => [.activity]
  | setDelay _ => [.delay]
  | setSound _ => [.sound]
  | storeDecimal _ => Part.block index 3
  | storeRegisters x => .index :: Part.block index (x + 1)
  | loadRegisters x => .index :: Part.generalUpTo x

end Instruction

theorem Memory.byteAt_of_le {m : Memory} {a : Nat} (h : capacity ≤ a) : m.byteAt a = 0 := by
  have hge : ¬ a < 4096 := Nat.not_lt.2 h
  simp [byteAt, Vector.getD, hge]

namespace Machine

/-- A part is the same in another machine. -/
def Keeps (m m' : Machine) : Part → Prop
  | .byte a => m'.memory.byteAt a = m.memory.byteAt a
  | .general x => m'.registers.get x = m.registers.get x
  | .index => m'.registers.index = m.registers.index
  | .stack => m'.registers.stack = m.registers.stack
  | .delay => m'.timers.delay = m.timers.delay
  | .sound => m'.timers.sound = m.timers.sound
  | .screen => m'.screen = m.screen
  | .keypad => m'.keypad = m.keypad
  | .activity => m'.activity = m.activity
  | .config => m'.config = m.config
  | .generator => m'.generator = m.generator

variable {m m₁ m' : Machine} {part : Part}

theorem Keeps.refl (m : Machine) (part : Part) : m.Keeps m part := by
  cases part with
  | _ => rfl

theorem Keeps.trans (h₁ : m.Keeps m₁ part) (h₂ : m₁.Keeps m' part) : m.Keeps m' part := by
  cases part with
  | _ => exact Eq.trans h₂ h₁

/-! ## What one write leaves alone -/

theorem keeps_goTo (m : Machine) (pc : UInt16) (part : Part) : m.Keeps (m.goTo pc) part := by
  cases part with
  | _ => rfl

theorem keeps_withStack (h : part ≠ .stack) (stack : List UInt16) :
    m.Keeps (m.withStack stack) part := by
  cases part with
  | stack => exact absurd rfl h
  | _ => rfl

theorem keeps_index (h : part ≠ .index) (index : UInt16) :
    m.Keeps { m with registers := { m.registers with index } } part := by
  cases part with
  | index => exact absurd rfl h
  | _ => rfl

theorem keeps_set {x : Register} (h : part ≠ .general x) (value : UInt8) :
    m.Keeps { m with registers := m.registers.set x value } part := by
  cases part with
  | general y =>
    have hne : y ≠ x := by
      rintro rfl
      exact h rfl
    exact (m.registers.get_set x y value).trans (if_neg hne)
  | _ => rfl

theorem keeps_setFirst {values : List UInt8}
    (h : ∀ y : Register, part = .general y → values.length ≤ y) :
    m.Keeps { m with registers := m.registers.setFirst values } part := by
  cases part with
  | general y =>
    have hget := m.registers.get_setFirst values y
    rw [List.getD_eq_getElem?_getD, List.getElem?_eq_none (h y rfl), Option.getD_none] at hget
    exact hget
  | index => exact m.registers.index_setFirst values
  | stack => exact m.registers.stack_setFirst values
  | _ => rfl

theorem keeps_timers (timers : Timers) (hdelay : part = .delay → timers.delay = m.timers.delay)
    (hsound : part = .sound → timers.sound = m.timers.sound) :
    m.Keeps { m with timers } part := by
  cases part with
  | delay => exact hdelay rfl
  | sound => exact hsound rfl
  | _ => rfl

theorem keeps_screen (h : part ≠ .screen) (screen : Screen) : m.Keeps { m with screen } part := by
  cases part with
  | screen => exact absurd rfl h
  | _ => rfl

theorem keeps_generator (h : part ≠ .generator) (generator : Generator) :
    m.Keeps { m with generator } part := by
  cases part with
  | generator => exact absurd rfl h
  | _ => rfl

theorem keeps_activity (h : part ≠ .activity) (activity : Activity) :
    m.Keeps { m with activity } part := by
  cases part with
  | activity => exact absurd rfl h
  | _ => rfl

theorem mem_block {start : UInt16} {len a : Nat} :
    .byte a ∈ Part.block start len ↔ start.toNat ≤ a ∧ a < start.toNat + len := by
  simp only [Part.block, List.mem_map, List.mem_range, Part.byte.injEq]
  constructor
  · rintro ⟨j, hj, rfl⟩
    omega
  · rintro ⟨hle, hlt⟩
    exact ⟨a - start.toNat, by omega, by omega⟩

theorem mem_generalUpTo {x y : Register} : .general y ∈ Part.generalUpTo x ↔ y ≤ x := by
  simp [Part.generalUpTo]

/-- A write to memory leaves all bytes alone but those that it writes. -/
theorem keeps_write {data : List UInt8} {addr : UInt16} {memory : Memory}
    (hwrite : m.memory.write data addr = .ok memory) (h : part ∉ Part.block addr data.length) :
    m.Keeps { m with memory } part := by
  obtain ⟨-, rfl⟩ := Memory.write_eq_ok_iff.1 hwrite
  cases part with
  | byte a =>
    rw [mem_block] at h
    show (m.memory.poke addr.toNat data).byteAt a = m.memory.byteAt a
    by_cases ha : a < Memory.capacity
    · rw [Memory.byteAt_poke _ _ _ _ ha, if_neg h]
    · rw [Memory.byteAt_of_le (Nat.le_of_not_lt ha), Memory.byteAt_of_le (Nat.le_of_not_lt ha)]
  | _ => rfl

/-! ## What an instruction leaves alone -/

theorem keeps_arithmetic {o : Arithmetic} {x y : Register}
    (h : part ∉ (Instruction.arithmetic o x y).footprint m.registers.index) :
    m.Keeps { m with registers := m.arithmetic o x y } part := by
  have hflagged (ho : o.raisesFlag = true) : part ≠ .general x ∧ part ≠ .general .flag := by
    rw [Instruction.footprint, if_pos ho] at h
    exact ⟨List.ne_of_not_mem_cons h, List.ne_of_not_mem_cons (List.not_mem_of_not_mem_cons h)⟩
  have hplain (ho : o.raisesFlag = false) : part ≠ .general x := by
    rw [Instruction.footprint, if_neg (by rw [ho]; decide)] at h
    exact List.ne_of_not_mem_cons h
  cases o with
  | copy => exact keeps_set (hplain rfl) _
  | or => exact keeps_set (hplain rfl) _
  | and => exact keeps_set (hplain rfl) _
  | xor => exact keeps_set (hplain rfl) _
  | add => exact (keeps_set (hflagged rfl).1 _).trans (keeps_set (hflagged rfl).2 _)
  | sub => exact (keeps_set (hflagged rfl).1 _).trans (keeps_set (hflagged rfl).2 _)
  | subFrom => exact (keeps_set (hflagged rfl).1 _).trans (keeps_set (hflagged rfl).2 _)
  | shiftRight => exact (keeps_set (hflagged rfl).1 _).trans (keeps_set (hflagged rfl).2 _)
  | shiftLeft => exact (keeps_set (hflagged rfl).1 _).trans (keeps_set (hflagged rfl).2 _)

/-- An instruction that is carried out writes nothing outside its footprint. -/
theorem execute_keeps {i : Instruction} {flow : Flow} (h : m.execute i = .ok (flow, m'))
    (hpart : part ∉ i.footprint m.registers.index) : m.Keeps m' part := by
  cases i with
  | jump a => cases h; exact .refl m part
  | jumpOffset a => cases h; exact .refl m part
  | skip c => cases h; exact .refl m part
  | clear => cases h; exact keeps_screen (List.ne_of_not_mem_cons hpart) _
  | ret =>
    obtain ⟨⟨target, registers⟩, hp, h⟩ := bind_eq_ok_iff.1 h
    cases h
    rw [Registers.pop] at hp
    split at hp
    · cases hp
    · cases hp
      exact keeps_withStack (List.ne_of_not_mem_cons hpart) _
  | call a =>
    simp only [execute] at h
    split at h
    · cases h
    · obtain ⟨registers, hp, h⟩ := bind_eq_ok_iff.1 h
      cases h
      rw [Registers.push] at hp
      split at hp
      · cases hp
      · cases hp
        exact keeps_withStack (List.ne_of_not_mem_cons hpart) _
  | load x b => cases h; exact keeps_set (List.ne_of_not_mem_cons hpart) _
  | addByte x b => cases h; exact keeps_set (List.ne_of_not_mem_cons hpart) _
  | arithmetic o x y => cases h; exact keeps_arithmetic hpart
  | loadIndex a => cases h; exact keeps_index (List.ne_of_not_mem_cons hpart) _
  | random x mask =>
    cases h
    have hgenerator := List.ne_of_not_mem_cons (List.not_mem_of_not_mem_cons hpart)
    exact (keeps_set (List.ne_of_not_mem_cons hpart) _).trans (keeps_generator hgenerator _)
  | draw x y n =>
    obtain ⟨sprite, -, h⟩ := bind_eq_ok_iff.1 h
    cases h
    have hflag := List.ne_of_not_mem_cons (List.not_mem_of_not_mem_cons hpart)
    exact (keeps_set hflag _).trans (keeps_screen (List.ne_of_not_mem_cons hpart) _)
  | readDelay x => cases h; exact keeps_set (List.ne_of_not_mem_cons hpart) _
  | waitKey x => cases h; exact .refl m part
  | setDelay x =>
    cases h
    exact keeps_timers _ (fun hp => absurd hp (List.ne_of_not_mem_cons hpart)) (fun _ => rfl)
  | setSound x =>
    cases h
    exact keeps_timers _ (fun _ => rfl) (fun hp => absurd hp (List.ne_of_not_mem_cons hpart))
  | addIndex x => cases h; exact keeps_index (List.ne_of_not_mem_cons hpart) _
  | glyph x => cases h; exact keeps_index (List.ne_of_not_mem_cons hpart) _
  | storeDecimal x =>
    obtain ⟨memory, hw, h⟩ := bind_eq_ok_iff.1 h
    cases h
    exact keeps_write hw hpart
  | storeRegisters x =>
    obtain ⟨memory, hw, h⟩ := bind_eq_ok_iff.1 h
    cases h
    have hbytes : part ∉ Part.block m.registers.index (m.registers.upTo x).length := by
      rw [Registers.length_upTo]
      exact List.not_mem_of_not_mem_cons hpart
    exact (keeps_write hw hbytes).trans (keeps_index (List.ne_of_not_mem_cons hpart) _)
  | loadRegisters x =>
    obtain ⟨values, hv, h⟩ := bind_eq_ok_iff.1 h
    cases h
    have hlength : values.length = x + 1 := by
      rw [(Memory.slice_eq_ok_iff.1 hv).2, Memory.length_peek]
    have hbehind : ∀ y : Register, part = .general y → values.length ≤ y := by
      rintro y rfl
      have hy : ¬ y ≤ x := fun hle => List.not_mem_of_not_mem_cons hpart (mem_generalUpTo.2 hle)
      rw [hlength]
      exact Nat.lt_of_not_le hy
    exact (keeps_setFirst hbehind).trans (keeps_index (List.ne_of_not_mem_cons hpart) _)

/-- Going on after an instruction moves the program counter, and only a wait changes what the
machine is doing. -/
theorem keeps_follow {pc opcode : UInt16} {flow : Flow} {s : Step}
    (h : m.follow pc opcode flow = (.ok s, m')) (hwait : ∀ x, flow = .wait x → part ≠ .activity) :
    m.Keeps m' part := by
  cases flow with
  | next => cases h; exact keeps_goTo m _ part
  | skip => cases h; exact keeps_goTo m _ part
  | redraw => cases h; exact keeps_goTo m _ part
  | jump target =>
    rw [follow] at h
    split at h
    · cases h
    · cases h
      exact keeps_goTo m _ part
  | wait x => cases h; exact (keeps_goTo m _ part).trans (keeps_activity (hwait x rfl) _)

variable {i : Instruction}

/-- A running machine whose step succeeds has an instruction to carry out. -/
theorem runs_of_step {s : Step} (hrun : m.activity = .running) (h : m.step = (.ok s, m')) :
    ∃ i, m.Runs i := by
  have hc := m.step_cases
  rw [h] at hc
  generalize hr : ((.ok s, m') : Except Trap Step × Machine) = r at hc
  cases hc with
  | waits hx => cases hrun.symm.trans hx
  | stays ht => cases hrun.symm.trans ht
  | halts t _ => cases hr
  | executes hruns _ => exact ⟨_, hruns⟩

/-- A step that succeeds writes nothing outside the footprint of its instruction. -/
theorem Runs.keeps (hruns : m.Runs i) {s : Step} (h : m.step = (.ok s, m'))
    (hpart : part ∉ i.footprint m.registers.index) : m.Keeps m' part := by
  obtain ⟨opcode, flow, m₁, he, hf⟩ := hruns.execute_of_step h
  refine (execute_keeps he hpart).trans (keeps_follow hf ?_)
  rintro x rfl
  obtain ⟨rfl, -⟩ := eq_waitKey_of_execute he
  exact List.ne_of_not_mem_cons hpart

/-! ## What an instruction does write -/

/-- The two instructions that draw are the ones that ask to show the screen. -/
theorem flow_eq_redraw_iff {flow : Flow} (h : m.execute i = .ok (flow, m')) :
    flow = .redraw ↔ i = .clear ∨ ∃ x y n, i = .draw x y n := by
  constructor
  · rintro rfl
    cases execute_request h with
    | clear => exact .inl rfl
    | draw x y n => exact .inr ⟨x, y, n, rfl⟩
    | nothing hsilent _ => exact hsilent.elim
  · rintro (rfl | ⟨x, y, n, rfl⟩)
    · cases h
      rfl
    · obtain ⟨sprite, -, h⟩ := bind_eq_ok_iff.1 h
      cases h
      rfl

theorem redrawn_iff_of_follow {pc opcode : UInt16} {flow : Flow} {s : Step}
    (h : m.follow pc opcode flow = (.ok s, m')) : s = .redrawn ↔ flow = .redraw := by
  cases flow with
  | next => cases h; simp
  | skip => cases h; simp
  | redraw => cases h; simp
  | jump target =>
    rw [follow] at h
    split at h
    · cases h
    · cases h
      simp
  | wait x => cases h; simp

theorem toNat_toUInt8_le (b : Bool) : b.toUInt8.toNat ≤ 1 := by
  cases b with
  | _ => decide

theorem get_flag_setFlag_le (r : Registers) (raised : Bool) :
    ((r.setFlag raised).get .flag).toNat ≤ 1 := by
  rw [Registers.setFlag, Registers.get_set_self]
  exact toNat_toUInt8_le raised

/-- An instruction that raises the flag leaves one or zero there, whatever was there before and
whatever else it has written to that register. -/
theorem flag_of_execute {flow : Flow} (h : m.execute i = .ok (flow, m')) (hi : i.raisesFlag = true) :
    (m'.registers.get .flag).toNat ≤ 1 := by
  cases i with
  | draw x y n =>
    obtain ⟨sprite, -, h⟩ := bind_eq_ok_iff.1 h
    cases h
    exact get_flag_setFlag_le _ _
  | arithmetic o x y =>
    cases h
    cases o with
    | add => exact get_flag_setFlag_le _ _
    | sub => exact get_flag_setFlag_le _ _
    | subFrom => exact get_flag_setFlag_le _ _
    | shiftRight =>
      simp only [arithmetic, Registers.get_set_self, UInt8.toNat_and]
      exact Nat.and_le_right
    | shiftLeft =>
      have hlt := (m.shiftOperand x y).toNat_lt
      simp only [arithmetic, Registers.get_set_self, UInt8.toNat_shiftRight]
      show (m.shiftOperand x y).toNat >>> 7 ≤ 1
      rw [Nat.shiftRight_eq_div_pow]
      omega
    | _ => cases hi
  | _ => cases hi

end Machine

theorem Memory.ext_byteAt {m m' : Memory} (h : ∀ a, m'.byteAt a = m.byteAt a) : m' = m := by
  have hbytes : m'.bytes = m.bytes := by
    refine Vector.ext fun a ha => ?_
    have := h a
    simpa [byteAt, Vector.getD, ha] using this
  cases m
  cases m'
  exact congrArg Memory.mk hbytes

namespace Machine

variable {m m' : Machine}

/-- If all parts are the same, a machine is the same up to its program counter. -/
theorem eq_goTo_of_keeps (h : ∀ part, m.Keeps m' part) : m' = m.goTo m'.registers.pc := by
  have hmemory : m'.memory = m.memory := Memory.ext_byteAt fun a => h (.byte a)
  have hv : m'.registers.v = m.registers.v := Table.ext fun x => h (.general x)
  have hindex : m'.registers.index = m.registers.index := h .index
  have hstack : m'.registers.stack = m.registers.stack := h .stack
  have hregisters : m'.registers = { m.registers with pc := m'.registers.pc } := by
    show Registers.mk m'.registers.v m'.registers.index m'.registers.pc m'.registers.stack = _
    rw [hv, hindex, hstack]
  have hdelay : m'.timers.delay = m.timers.delay := h .delay
  have hsound : m'.timers.sound = m.timers.sound := h .sound
  have htimers : m'.timers = m.timers := by
    show Timers.mk m'.timers.delay m'.timers.sound = _
    rw [hdelay, hsound]
  calc m' = ⟨m'.memory, m'.registers, m'.timers, m'.screen, m'.keypad, m'.activity, m'.config,
        m'.generator⟩ := rfl
    _ = ⟨m.memory, { m.registers with pc := m'.registers.pc }, m.timers, m.screen, m.keypad,
        m.activity, m.config, m.generator⟩ := by
      rw [hmemory, ← hregisters, htimers, h .screen, h .keypad, h .activity, h .config, h .generator]

/-- A step of a running machine that succeeds has carried out the instruction that was next, and
all parts of the machine outside the footprint of that instruction are the same as before.
The step answers that the screen has changed exactly if the instruction is one of the two
that draw.  An instruction that raises the flag leaves one or zero in it, also where it has
just written a result there.  An instruction without a footprint moves the program counter
and nothing else. -/
theorem step_footprint {m m' : Machine} {s : Step} (hrun : m.activity = .running)
    (h : m.step = (.ok s, m')) :
    ∃ i, m.Runs i ∧
      (∀ part, part ∉ i.footprint m.registers.index → m.Keeps m' part) ∧
      (s = .redrawn ↔ i = .clear ∨ ∃ x y n, i = .draw x y n) ∧
      (i.raisesFlag = true → (m'.registers.get .flag).toNat ≤ 1) ∧
      (i.footprint m.registers.index = [] → m' = m.goTo m'.registers.pc) := by
  obtain ⟨i, hruns⟩ := runs_of_step hrun h
  have hkeeps : ∀ part, part ∉ i.footprint m.registers.index → m.Keeps m' part :=
    fun part => hruns.keeps h
  obtain ⟨opcode, flow, m₁, he, hf⟩ := hruns.execute_of_step h
  refine ⟨i, hruns, hkeeps, ?_, ?_, ?_⟩
  · exact (redrawn_iff_of_follow hf).trans (flow_eq_redraw_iff he)
  · intro hi
    have hkept : m₁.Keeps m' (.general .flag) := keeps_follow hf nofun
    have hflag : m'.registers.get .flag = m₁.registers.get .flag := hkept
    rw [hflag]
    exact flag_of_execute he hi
  · intro hnone
    refine eq_goTo_of_keeps fun part => hkeeps part ?_
    rw [hnone]
    exact List.not_mem_nil

/-- A program writes two registers over the very instruction that does so.  What follows the two
bytes is the same as before, and so are the registers that were written. -/
theorem step_footprint_over_itself :
    let program := [0x60, 0x12, 0x61, 0x06, 0xA2, 0x06, 0xF1, 0x55]
    let m := (powerOn {} 0).run [.load program, .step, .step, .step]
    m.activity = .running ∧ m.Runs (.storeRegisters 1) ∧ m.step = (.ok .executed, m.step.2) ∧
      m.memory.byteAt 0x206 = 0xF1 ∧ m.step.2.memory.byteAt 0x206 = 0x12 ∧
      m.step.2.memory.byteAt 0x208 = m.memory.byteAt 0x208 ∧
      m.step.2.registers.get 1 = m.registers.get 1 := by
  intro program m
  obtain ⟨hrun, hruns, hanswer, hindex, hbefore, hafter⟩ :
      m.activity = .running ∧ m.Runs (.storeRegisters 1) ∧ m.step.1 = .ok .executed ∧
        m.registers.index = 0x206 ∧ m.memory.byteAt 0x206 = 0xF1 ∧
        m.step.2.memory.byteAt 0x206 = 0x12 := by
    decide +kernel
  have hs : m.step = (.ok .executed, m.step.2) := Prod.ext hanswer rfl
  obtain ⟨i, hi, hkeeps, -⟩ := step_footprint hrun hs
  obtain rfl : i = .storeRegisters 1 := Option.some.inj (hi.2.symm.trans hruns.2)
  rw [hindex] at hkeeps
  exact ⟨hrun, hruns, hs, hbefore, hafter, hkeeps (.byte 0x208) (by decide),
    hkeeps (.general 1) (by decide)⟩

end Machine

end Chip8
