import Mathlib.Control.Monad.Basic
import Chip8.Proofs.Control
import Chip8.Proofs.Frames

/-!
# Calls return behind themselves

A call is open as long as its return address, with all that was on the stack before it, is
the lower end of the stack.  Parts of a run other than a reset and a return change nothing
there: they leave the stack alone or push on top of it, and a return takes from the top.  So
what closes a call is the first return at the depth to which the call has brought the
stack, whatever calls came and went in between and whatever became of the program in
memory.  That this return does not trap is the evenness of return addresses.
-/

namespace Chip8.Machine

/-! ## The stack across one part -/

/-- A step leaves the stack alone, pushes on it, or returns and takes the latest address off. -/
theorem stack_of_step (m : Machine) :
    m.step.2.registers.stack = m.registers.stack ∨
    (∃ a, m.step.2.registers.stack = a :: m.registers.stack) ∨
    (m.Runs .ret ∧ ∃ a, m.registers.stack = a :: m.step.2.registers.stack) := by
  have hc := m.step_cases
  generalize m.step = r at hc ⊢
  cases hc with
  | waits _ => exact .inl rfl
  | stays _ => exact .inl rfl
  | halts t _ => exact .inl rfl
  | executes hruns he =>
    rw [stack_follow]
    cases execute_transfer he with
    | jump a => exact .inl rfl
    | jumpOffset a => exact .inl rfl
    | call a heven hroom => exact .inr (.inl ⟨_, rfl⟩)
    | ret hs => exact .inr (.inr ⟨hruns, _, hs⟩)
    | straight hlocal hpc hstack hact => exact .inl hstack

variable {m : Machine} {opened : List UInt16}

/-- A step that does not close a call leaves it open. -/
theorem suffix_of_step (h : opened <:+ m.registers.stack) :
    opened <:+ m.step.2.registers.stack ∨ (m.Runs .ret ∧ m.registers.stack = opened) := by
  rcases m.stack_of_step with hsame | ⟨a, hpush⟩ | ⟨hret, a, hpop⟩
  · rw [hsame]
    exact .inl h
  · rw [hpush]
    exact .inl (h.trans (List.suffix_cons a _))
  · rw [hpop] at h ⊢
    rcases List.suffix_cons_iff.1 h with htop | hbelow
    · exact .inr ⟨hret, htop.symm⟩
    · exact .inl hbelow

/-- No part of a run but a return and a reset closes a call. -/
theorem suffix_of_perform {op : Operation} (hreset : op ≠ .reset) (hframe : op ≠ .runFrame)
    (h : opened <:+ m.registers.stack) :
    opened <:+ (m.perform op).2.registers.stack ∨
      (op = .step ∧ m.Runs .ret ∧ m.registers.stack = opened) := by
  cases op with
  | load program =>
    obtain ⟨memory, hl⟩ := m.load_eq program
    show opened <:+ (m.load program).2.registers.stack ∨ _
    rw [hl]
    exact .inl h
  | step => exact (suffix_of_step h).imp_right fun hclose => ⟨rfl, hclose⟩
  | runFrame => exact absurd rfl hframe
  | tick => exact .inl h
  | keyDown code =>
    obtain ⟨keypad, v, activity, hk⟩ := m.keyDown_eq code
    show opened <:+ (m.keyDown code).2.registers.stack ∨ _
    rw [hk]
    exact .inl h
  | keyUp code =>
    obtain ⟨keypad, hk⟩ := m.keyUp_eq code
    show opened <:+ (m.keyUp code).2.registers.stack ∨ _
    rw [hk]
    exact .inl h
  | reset => exact absurd rfl hreset

/-! ## The stack across a run -/

/-- What follows moment `j` of a run is a step that returns, with `depth` calls open. -/
def ReturnsAt (m : Machine) (ops : List Operation) (depth j : Nat) : Prop :=
  (m.unrolled ops)[j]? = some .step ∧ (m.moment ops j).Runs .ret ∧
    (m.moment ops j).registers.stack.length = depth

instance (m : Machine) (ops : List Operation) (depth j : Nat) :
    Decidable (m.ReturnsAt ops depth j) :=
  inferInstanceAs (Decidable (_ ∧ _ ∧ _))

/-- A call is open until the first return at its depth. -/
theorem suffix_of_moment {ops : List Operation} (hreset : .reset ∉ ops)
    (h : opened <:+ m.registers.stack) :
    ∀ j, (∀ i < j, ¬ m.ReturnsAt ops opened.length i) →
      opened <:+ (m.moment ops j).registers.stack
  | 0, _ => h
  | j + 1, hfirst => by
      have hj := suffix_of_moment hreset h j fun i hi => hfirst i (by omega)
      cases hpart : (m.unrolled ops)[j]? with
      | none =>
        rw [moment_succ_of_none hpart]
        exact hj
      | some op =>
        rw [moment_succ hpart]
        obtain ⟨hframe, hop⟩ := mem_unrolled (List.mem_of_getElem? hpart)
        have hne : op ≠ .reset := by
          rintro rfl
          rcases hop with hop | hop | hop
          · exact hreset hop
          · cases hop
          · cases hop
        -- What closes the call is a return at its depth, and there has been none yet.
        rcases suffix_of_perform hne hframe hj with hopen | ⟨rfl, hret, hs⟩
        · exact hopen
        · exact absurd ⟨hpart, hret, by rw [hs]⟩ (hfirst j (by omega))

theorem execute_ret {a : UInt16} {rest : List UInt16} (h : m.registers.stack = a :: rest) :
    m.execute .ret = .ok (.jump a, m.withStack rest) := by
  simp only [execute, Registers.pop, h]
  rfl

/-- A return to an even address goes there and takes the address off the stack. -/
theorem step_of_ret (hret : m.Runs .ret) {a : UInt16} {rest : List UInt16}
    (h : m.registers.stack = a :: rest) (heven : a.toNat % 2 = 0) :
    m.step = (.ok .executed, (m.withStack rest).goTo a) := by
  obtain ⟨opcode, hs⟩ := hret.step_of_execute (execute_ret h)
  rw [hs, follow, if_neg (by omega)]

theorem execute_call {m' : Machine} {a : Address} {flow : Flow}
    (h : m.execute (.call a) = .ok (flow, m')) :
    m' = m.withStack ((m.registers.pc + 2) :: m.registers.stack) := by
  simp only [execute] at h
  split at h
  · cases h
  · obtain ⟨registers, hp, h⟩ := bind_eq_ok_iff.1 h
    cases h
    rw [Registers.push] at hp
    split at hp
    · cases hp
    · cases hp
      rfl

/-- A call that succeeds has pushed the address behind itself. -/
theorem stack_of_call {called : Machine} {a : Address} {s : Step} (hcall : m.Runs (.call a))
    (hs : m.step = (.ok s, called)) :
    called.registers.stack = (m.registers.pc + 2) :: m.registers.stack := by
  obtain ⟨opcode, flow, m₁, he, hf⟩ := hcall.execute_of_step hs
  have hstack := stack_follow m₁ m.registers.pc opcode flow
  rw [hf, execute_call he] at hstack
  exact hstack

/-- While no moment has seen the stack below an open call, no return has closed it. -/
theorem not_returnsAt_of_depth {ops : List Operation} {depth i : Nat}
    (hpos : 0 < depth) (h : depth ≤ (m.moment ops (i + 1)).registers.stack.length) :
    ¬ m.ReturnsAt ops depth i := by
  rintro ⟨hpart, hret, hdepth⟩
  rw [moment_succ hpart] at h
  cases hs : (m.moment ops i).registers.stack with
  | nil =>
    rw [hs] at hdepth
    simp only [List.length_nil] at hdepth
    omega
  | cons a rest =>
    obtain ⟨opcode, hstep⟩ := hret.step_of_execute (execute_ret hs)
    have hrest : ((m.moment ops i).perform .step).2.registers.stack = rest := by
      rw [perform, hstep]
      exact stack_follow _ _ _ _
    rw [hrest] at h
    rw [hs, List.length_cons] at hdepth
    omega

/-- A call of a reachable machine that succeeds pushes the address behind it.  Let the machine then
be made to do whatever but a reset, and look at it moment by moment, inside frames too, up to the
last moment, which is the end of the run.  While the stack has not fallen below its depth after the
call, its lower end is that address and the stack before the call.  The first return at that
depth succeeds, goes on behind the call, and leaves the stack as it was before. -/
theorem call_returns {called : Machine} {a : Address} {s : Step} (hm : m.Reachable)
    (hcall : m.Runs (.call a)) (hs : m.step = (.ok s, called)) {ops : List Operation}
    (hreset : .reset ∉ ops) :
    let behind := m.registers.pc + 2
    let depth := m.registers.stack.length + 1
    behind.toNat = m.registers.pc.toNat + 2 ∧
    called.registers.stack = behind :: m.registers.stack ∧
    called.moment ops (called.unrolled ops).length = called.run ops ∧
    (∀ j, (∀ i ≤ j, depth ≤ (called.moment ops i).registers.stack.length) →
      (behind :: m.registers.stack) <:+ (called.moment ops j).registers.stack) ∧
    ∀ j, called.ReturnsAt ops depth j → (∀ i < j, ¬ called.ReturnsAt ops depth i) →
      ∃ returned, (called.moment ops j).step = (.ok .executed, returned) ∧
        returned.registers.pc = behind ∧ returned.registers.stack = m.registers.stack := by
  intro behind depth
  have hbehind := isReturnAddress_behind hm.inPlace.aligned.pc_even hcall.pc_le
  have hpushed : called.registers.stack = behind :: m.registers.stack := stack_of_call hcall hs
  have hopen : (behind :: m.registers.stack) <:+ called.registers.stack := ⟨[], hpushed.symm⟩
  refine ⟨toNat_behind hcall.pc_le, hpushed, called.moment_length ops, ?_, ?_⟩
  · intro j hdepth
    refine suffix_of_moment hreset hopen j ?_
    intro i hi
    exact not_returnsAt_of_depth (Nat.succ_pos _) (hdepth (i + 1) (by omega))
  · intro j hj hfirst
    have hsuffix := suffix_of_moment hreset hopen j hfirst
    -- At this depth nothing is left on top of the call.
    have hstack := hsuffix.eq_of_length hj.2.2.symm
    exact ⟨_, step_of_ret hj.2.1 hstack.symm hbehind.even, rfl, rfl⟩

/-- A routine that calls another one, in frames of two cycles and with a key going down in between:
the second return is the one at the depth of the outer call. -/
theorem call_returns_nested :
    let program := [0x22, 0x06, 0x12, 0x02, 0x00, 0xEE, 0x22, 0x04, 0x00, 0xEE]
    let m := (powerOn { cyclesPerFrame := 2 } 0).run [.load program]
    let called := m.step.2
    let ops : List Operation := [.keyDown 3, .runFrame, .step]
    m.Reachable ∧ m.Runs (.call 0x206) ∧ called.ReturnsAt ops 1 4 ∧
      (called.moment ops 2).registers.stack = [0x208, 0x202] ∧
      ∃ returned, (called.moment ops 4).step = (.ok .executed, returned) ∧
        returned.registers.pc = 0x202 ∧ returned.registers.stack = [] := by
  intro program m called ops
  have hm : m.Reachable := ⟨_, _, _, rfl⟩
  -- One evaluation for all, since each starts from power-on.
  obtain ⟨hcall, hanswer, hreturn, hfirst, hinner⟩ :
      m.Runs (.call 0x206) ∧ m.step.1 = .ok .executed ∧ called.ReturnsAt ops 1 4 ∧
        (∀ i < 4, ¬ called.ReturnsAt ops 1 i) ∧
        (called.moment ops 2).registers.stack = [0x208, 0x202] := by
    decide +kernel
  have hs : m.step = (.ok .executed, called) := by rw [← hanswer]
  have hreset : .reset ∉ ops := by decide
  obtain ⟨-, -, -, -, hreturns⟩ := call_returns hm hcall hs hreset
  exact ⟨hm, hcall, hreturn, hinner, hreturns 4 hreturn hfirst⟩

end Chip8.Machine
