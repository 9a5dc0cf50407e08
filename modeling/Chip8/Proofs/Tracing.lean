import Chip8.Proofs.Footprint
import Chip8.Proofs.Frames
import Chip8.Proofs.Operations

/-!
# Notes kept along a run

Some facts are about what a run has done and not only about the machine it has led to.  They
are told by a note that is kept beside the machine and brought up to date with each operation
(`track`).  The notes here are changed by the instructions that are carried out and by resets
and by nothing else (`noting`).

So are some parts of the machine, those that `Part.IsInternal` names: a load, a tick and a key
event leave them alone.  Hence a relation between such a part and a note holds at every moment
if the instructions and a reset keep it (`Traces.moment`).
-/

namespace Chip8

/-- Nothing writes the part but instructions that are carried out and resets.  The stack is not
such a part, since a call is closed before a jump is refused. -/
def Part.IsInternal : Part → Prop
  | .byte a => a < Memory.programStart
  | .index | .screen | .config | .generator => True
  | .general _ | .stack | .delay | .sound | .keypad | .activity => False

namespace Machine

variable {m m' : Machine} {part : Part}

/-! ## What the owner of a machine leaves alone -/

theorem keeps_load (hpart : part.IsInternal) (m : Machine) (program : List UInt8) :
    m.Keeps (m.load program).2 part := by
  rcases m.load_cases program with ⟨-, hl⟩ | ⟨-, hl⟩
  · rw [hl]
    exact .refl m part
  · rw [hl]
    cases part with
    | byte a =>
      have hbelow : a < Memory.programStart := hpart
      have hcapacity : a < Memory.capacity := Nat.lt_trans hbelow (by decide)
      exact (m.memory.byteAt_poke _ a program hcapacity).trans (if_neg (by omega))
    | _ => rfl

theorem keeps_tick (hpart : part.IsInternal) (m : Machine) : m.Keeps m.tick part := by
  cases part with
  | delay => exact hpart.elim
  | sound => exact hpart.elim
  | _ => rfl

theorem keeps_keyDown (hpart : part.IsInternal) (m : Machine) (code : UInt8) :
    m.Keeps (m.keyDown code).2 part := by
  obtain ⟨keypad, v, activity, hk⟩ := m.keyDown_eq code
  rw [hk]
  cases part with
  | general x => exact hpart.elim
  | keypad => exact hpart.elim
  | activity => exact hpart.elim
  | _ => rfl

theorem keeps_keyUp (hpart : part.IsInternal) (m : Machine) (code : UInt8) :
    m.Keeps (m.keyUp code).2 part := by
  obtain ⟨keypad, hk⟩ := m.keyUp_eq code
  rw [hk]
  cases part with
  | keypad => exact hpart.elim
  | _ => rfl

/-! ## The instruction that a step carries out -/

/-- The instruction that the next step carries out, if it does not trap or wait. -/
def carriedOut? (m : Machine) : Option Instruction :=
  match m.step.1 with
  | .ok .executed | .ok .redrawn => m.nextInstruction?
  | _ => none

/-- A step carries out an instruction and follows it, or there is at most a call closed before a
jump that is refused. -/
theorem carriedOut_cases (m : Machine) :
    (∃ i flow m' pc activity, m.carriedOut? = some i ∧ m.execute i = .ok (flow, m') ∧
      m.step.2 = { m'.goTo pc with activity }) ∨
    (m.carriedOut? = none ∧ ∃ stack activity, m.step.2 = { m.withStack stack with activity }) := by
  have hc := m.step_cases
  rw [carriedOut?]
  generalize m.step = r at hc ⊢
  cases hc with
  | waits _ => exact .inr ⟨rfl, m.registers.stack, m.activity, rfl⟩
  | stays _ => exact .inr ⟨rfl, m.registers.stack, m.activity, rfl⟩
  | halts t _ => exact .inr ⟨rfl, m.registers.stack, .halted t, rfl⟩
  | @executes opcode i flow m' hruns he =>
    obtain ⟨pc, activity, hf⟩ := m'.follow_eq m.registers.pc opcode flow
    cases flow with
    | next => exact .inl ⟨i, _, m', pc, activity, hruns.2, he, hf⟩
    | skip => exact .inl ⟨i, _, m', pc, activity, hruns.2, he, hf⟩
    | redraw => exact .inl ⟨i, _, m', pc, activity, hruns.2, he, hf⟩
    | wait target => exact .inl ⟨i, _, m', pc, activity, hruns.2, he, hf⟩
    | jump target =>
      by_cases hodd : target.toNat % 2 ≠ 0
      · rw [follow, if_pos hodd]
        refine .inr ⟨rfl, ?_⟩
        cases execute_transfer he with
        | jump a => exact ⟨m.registers.stack, _, rfl⟩
        | jumpOffset a => exact ⟨m.registers.stack, _, rfl⟩
        | call a _ _ => exact ⟨_, _, rfl⟩
        | ret _ => exact ⟨_, _, rfl⟩
        | straight hlocal _ _ _ => exact hlocal.elim
      · rw [follow, if_neg hodd] at hf ⊢
        exact .inl ⟨i, _, m', pc, activity, hruns.2, he, hf⟩

/-! ## A note beside the machine -/

variable {α : Type}

/-- What has become of the note `a` after some operations, if `f` brings it up to date with each
of them, before the operation. -/
def track (f : Machine → Operation → α → α) : Machine → α → List Operation → α
  | _, a, [] => a
  | m, a, op :: ops => track f (m.perform op).2 (f m op a) ops

theorem track_run {f : Machine → Operation → α → α} {P : Machine → α → Prop}
    (hperform : ∀ {m : Machine} {a : α} {op : Operation}, op ≠ .runFrame → P m a →
      P (m.perform op).2 (f m op a))
    {a : α} {ops : List Operation} (hops : ∀ op ∈ ops, op ≠ .runFrame) (hm : P m a) :
    P (m.run ops) (track f m a ops) := by
  induction ops generalizing m a with
  | nil => exact hm
  | cons op ops ih =>
    exact ih (fun op' hop' => hops op' (.tail _ hop')) (hperform (hops op (.head _)) hm)

/-- What operations other than frames keep between a machine and a note holds at every moment of a
run, since no part of a run is a frame. -/
theorem track_moment {f : Machine → Operation → α → α} {P : Machine → α → Prop}
    (hperform : ∀ {m : Machine} {a : α} {op : Operation}, op ≠ .runFrame → P m a →
      P (m.perform op).2 (f m op a))
    {a : α} (hm : P m a) (ops : List Operation) (k : Nat) :
    P (m.moment ops k) (track f m a ((m.unrolled ops).take k)) :=
  track_run hperform (fun _ hop => (mem_unrolled (List.mem_of_mem_take hop)).1) hm

/-- A note that `start`s anew with a reset and is changed by an instruction that is carried out.
It is for operations other than a frame. -/
def noting (start : α) (f : Machine → Instruction → α → α) (m : Machine) (op : Operation) (a : α) :
    α :=
  match op with
  | .reset => start
  | .step => m.carriedOut?.elim a fun i => f m i a
  | _ => a

theorem noting_step {i : Instruction} (h : m.carriedOut? = some i) (start : α)
    (f : Machine → Instruction → α → α) (a : α) : noting start f m .step a = f m i a := by
  rw [noting, h]
  rfl

/-- `P` relates an internal part of the machine to a note, and instructions and resets keep it. -/
structure Traces (part : Part) (start : α) (f : Machine → Instruction → α → α)
    (P : Machine → α → Prop) : Prop where
  internal : part.IsInternal
  congr : ∀ {m m' : Machine} {a : α}, m.Keeps m' part → P m a → P m' a
  reset : ∀ m : Machine, P m.reset start
  execute : ∀ {m m' : Machine} {i : Instruction} {flow : Flow} {a : α},
    m.execute i = .ok (flow, m') → P m a → P m' (f m i a)

namespace Traces

variable {start : α} {f : Machine → Instruction → α → α} {P : Machine → α → Prop} {a : α}

theorem step (h : Traces part start f P) (hm : P m a) :
    P m.step.2 (noting start f m .step a) := by
  have hactivity : part ≠ .activity := by
    rintro rfl
    exact h.internal
  rcases m.carriedOut_cases with ⟨i, flow, m', pc, activity, hi, he, hs⟩ |
    ⟨hnone, stack, activity, hs⟩
  · rw [noting_step hi, hs]
    refine h.congr ?_ (h.execute he hm)
    exact (keeps_goTo m' pc part).trans (keeps_activity hactivity activity)
  · have hstack : part ≠ .stack := by
      rintro rfl
      exact h.internal
    have hnote : noting start f m .step a = a := by
      rw [noting, hnone]
      rfl
    rw [hnote, hs]
    exact h.congr ((keeps_withStack hstack stack).trans (keeps_activity hactivity activity)) hm

theorem perform (h : Traces part start f P) {op : Operation} (hop : op ≠ .runFrame) (hm : P m a) :
    P (m.perform op).2 (noting start f m op a) := by
  cases op with
  | load program => exact h.congr (keeps_load h.internal m program) hm
  | step => exact h.step hm
  | runFrame => exact absurd rfl hop
  | tick => exact h.congr (keeps_tick h.internal m) hm
  | keyDown code => exact h.congr (keeps_keyDown h.internal m code) hm
  | keyUp code => exact h.congr (keeps_keyUp h.internal m code) hm
  | reset => exact h.reset m

theorem run (h : Traces part start f P) {ops : List Operation} (hops : ∀ op ∈ ops, op ≠ .runFrame)
    (hm : P m a) : P (m.run ops) (track (noting start f) m a ops) :=
  track_run h.perform hops hm

/-- The relation holds at every moment of a run. -/
theorem moment (h : Traces part start f P) (hm : P m a) (ops : List Operation) (k : Nat) :
    P (m.moment ops k) (track (noting start f) m a ((m.unrolled ops).take k)) :=
  track_moment h.perform hm ops k

end Traces

end Machine

end Chip8
