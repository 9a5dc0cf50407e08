import Chip8.Proofs.Frames

/-!
# Two machines driven alike

Two machines that are alike, in some respect, are made to do the same.  A relation of machines
is a `Lockstep` if all operations keep it, but for the steps of certain machines, at which
two that are alike may part.  Then the two go through the same parts of their runs and answer
the same, frames included, until the first step at which they may part: `Lockstep.moment`
says this of every moment of a run and `Lockstep.answers` of a run as a whole.

That two runs go `Together` is defined along their parts, one part at a time.  What a frame
is made of is settled on the way, with induction on its cycles, so the two runs are not
assumed to consist of the same parts.
-/

namespace Chip8.Machine

/-! ## Alike machines -/

/-- Whatever is done to both of two machines that are alike, they answer the same and stay alike,
unless the step is one of a machine where they may part. -/
structure Lockstep (Alike : Machine → Machine → Prop) (Parting : Machine → Prop) : Prop where
  cyclesPerFrame : ∀ {a b : Machine}, Alike a b →
    b.config.cyclesPerFrame = a.config.cyclesPerFrame
  soundActive : ∀ {a b : Machine}, Alike a b → b.soundActive = a.soundActive
  isAwaitingKey : ∀ {a b : Machine}, Alike a b → b.isAwaitingKey = a.isAwaitingKey
  load : ∀ {a b : Machine} (program : List UInt8), Alike a b →
    (b.load program).1 = (a.load program).1 ∧ Alike (a.load program).2 (b.load program).2
  /-- A step answers the same even where the machines part. -/
  answer : ∀ {a b : Machine}, Alike a b → b.step.1 = a.step.1
  step : ∀ {a b : Machine}, ¬ Parting a → Alike a b → Alike a.step.2 b.step.2
  tick : ∀ {a b : Machine}, Alike a b → Alike a.tick b.tick
  keyDown : ∀ {a b : Machine} (code : UInt8), Alike a b →
    (b.keyDown code).1 = (a.keyDown code).1 ∧ Alike (a.keyDown code).2 (b.keyDown code).2
  keyUp : ∀ {a b : Machine} (code : UInt8), Alike a b →
    (b.keyUp code).1 = (a.keyUp code).1 ∧ Alike (a.keyUp code).2 (b.keyUp code).2
  reset : ∀ {a b : Machine}, Alike a b → Alike a.reset b.reset

/-- What a list of operations is answered, in order. -/
def answers (m : Machine) : List Operation → List (Except Error Reply)
  | [] => []
  | op :: ops => (m.perform op).1 :: (m.perform op).2.answers ops

/-- Part `j` of a run is a step, and `P` holds of the machine that makes it. -/
def MeetsAt (P : Machine → Prop) (m : Machine) (parts : List Operation) (j : Nat) : Prop :=
  parts[j]? = some .step ∧ P (m.run (parts.take j))

instance (P : Machine → Prop) [DecidablePred P] (m : Machine) (parts : List Operation) (j : Nat) :
    Decidable (MeetsAt P m parts j) :=
  inferInstanceAs (Decidable (_ ∧ _))

/-- Two runs go through the same parts, with machines that are alike, to their ends or until the
machines may part. -/
inductive Together (Alike : Machine → Machine → Prop) (Parting : Machine → Prop) :
    Machine → List Operation → Machine → List Operation → Prop where
  | done {a b : Machine} : Alike a b → Together Alike Parting a [] b []
  | parting {a b : Machine} {rest rest' : List Operation} :
      Alike a b → Parting a → Together Alike Parting a (.step :: rest) b (.step :: rest')
  | next {a b : Machine} {op : Operation} {rest rest' : List Operation} :
      Alike a b → (op = .step → ¬ Parting a) →
      Together Alike Parting (a.perform op).2 rest (b.perform op).2 rest' →
      Together Alike Parting a (op :: rest) b (op :: rest')

variable {Alike : Machine → Machine → Prop} {Parting : Machine → Prop} {a b : Machine}

theorem MeetsAt.cons {P : Machine → Prop} {m m' : Machine} {op : Operation}
    {rest : List Operation} {j : Nat} (hafter : (m.perform op).2 = m') (h : MeetsAt P m' rest j) :
    MeetsAt P m (op :: rest) (j + 1) := by
  subst hafter
  exact h

theorem MeetsAt.append_left {P : Machine → Prop} {m : Machine} {parts : List Operation} {j : Nat}
    (h : MeetsAt P m parts j) (rest : List Operation) : MeetsAt P m (parts ++ rest) j := by
  obtain ⟨hlt, -⟩ := List.getElem?_eq_some_iff.1 h.1
  refine ⟨?_, ?_⟩
  · rw [List.getElem?_append_left hlt]
    exact h.1
  · rw [List.take_append_of_le_length (Nat.le_of_lt hlt)]
    exact h.2

theorem MeetsAt.append_right {P : Machine → Prop} {m : Machine} {rest : List Operation} {j : Nat}
    {parts : List Operation} (h : MeetsAt P (m.run parts) rest j) :
    MeetsAt P m (parts ++ rest) (parts.length + j) := by
  refine ⟨?_, ?_⟩
  · rw [List.getElem?_append_right (Nat.le_add_right _ _), Nat.add_sub_cancel_left]
    exact h.1
  · rw [List.take_length_add_append, run_append]
    exact h.2

/-- A step after which two runs go together, if the machines have not parted. -/
theorem Together.step {a' b' : Machine} {rest rest' : List Operation} (halike : Alike a b)
    (ha : a.step.2 = a') (hb : b.step.2 = b')
    (hrest : ¬ Parting a → Together Alike Parting a' rest b' rest') :
    Together Alike Parting a (.step :: rest) b (.step :: rest') := by
  subst ha hb
  by_cases hparting : Parting a
  · exact .parting halike hparting
  · exact .next halike (fun _ => hparting) (hrest hparting)

/-- What two runs that go together have in common at a moment before which they have not parted:
the part that comes next, and all in which the machines are alike. -/
theorem Together.moment {parts parts' : List Operation}
    (h : Together Alike Parting a parts b parts') :
    ∀ j, (∀ i < j, ¬ MeetsAt Parting a parts i) →
      parts'[j]? = parts[j]? ∧ Alike (a.run (parts.take j)) (b.run (parts'.take j)) := by
  induction h with
  | done halike =>
    intro j _
    rw [List.take_nil]
    exact ⟨rfl, halike⟩
  | parting halike hparting =>
    intro j hno
    cases j with
    | zero => exact ⟨rfl, halike⟩
    | succ j => exact absurd ⟨rfl, hparting⟩ (hno 0 (Nat.succ_pos j))
  | next halike _ _ ih =>
    intro j hno
    cases j with
    | zero => exact ⟨rfl, halike⟩
    | succ j => exact ih j fun i hi hmeets => hno (i + 1) (Nat.succ_lt_succ hi) hmeets

namespace Lockstep

variable (h : Lockstep Alike Parting)

include h

/-! ## One operation -/

/-- Any operation but a frame. -/
theorem perform (halike : Alike a b) {op : Operation} (hframe : op ≠ .runFrame)
    (hstep : op = .step → ¬ Parting a) :
    (b.perform op).1 = (a.perform op).1 ∧ Alike (a.perform op).2 (b.perform op).2 := by
  cases op with
  | runFrame => exact absurd rfl hframe
  | load program =>
    obtain ⟨hanswer, hafter⟩ := h.load program halike
    exact ⟨congrArg (Except.map fun _ => Reply.done) hanswer, hafter⟩
  | step =>
    have hanswer := h.answer halike
    exact ⟨congrArg (fun r => (r.mapError Error.trap).map Reply.stepped) hanswer,
      h.step (hstep rfl) halike⟩
  | tick => exact ⟨rfl, h.tick halike⟩
  | keyDown code =>
    obtain ⟨hanswer, hafter⟩ := h.keyDown code halike
    exact ⟨congrArg (Except.map fun _ => Reply.done) hanswer, hafter⟩
  | keyUp code =>
    obtain ⟨hanswer, hafter⟩ := h.keyUp code halike
    exact ⟨congrArg (Except.map fun _ => Reply.done) hanswer, hafter⟩
  | reset => exact ⟨rfl, h.reset halike⟩

/-- A part of a run is answered alike, even if it is the one at which the machines part. -/
theorem answer_part (halike : Alike a b) {op : Operation} (hframe : op ≠ .runFrame) :
    (b.perform op).1 = (a.perform op).1 := by
  by_cases hstep : op = .step
  · subst hstep
    have hanswer := h.answer halike
    exact congrArg (fun r => (r.mapError Error.trap).map Reply.stepped) hanswer
  · exact (h.perform halike hframe fun hop => absurd hop hstep).1

theorem endFrame (halike : Alike a b) (report : FrameReport) :
    (b.endFrame report).1 = (a.endFrame report).1 ∧
      Alike (a.endFrame report).2 (b.endFrame report).2 := by
  have htick := h.tick halike
  refine ⟨?_, htick⟩
  simp only [Machine.endFrame, h.soundActive htick, h.isAwaitingKey htick]

/-- A frame in which the machines do not part. -/
theorem frameSteps : ∀ (k : Nat) (report : FrameReport) {a b : Machine}, Alike a b →
    (∀ i, ¬ MeetsAt Parting a (frameParts k a) i) →
    (frameSteps k report b).1 = (frameSteps k report a).1 ∧
      Alike (frameSteps k report a).2 (frameSteps k report b).2
  | 0, report, _, _, halike, _ => h.endFrame halike report
  | k + 1, report, a, b, halike, hno => by
      have hanswer := h.answer halike
      have hafter := fun hparting => h.step (a := a) (b := b) hparting halike
      rw [frameParts] at hno
      rw [Machine.frameSteps, Machine.frameSteps]
      cases ha : a.step with
      | mk r a' =>
        cases hb : b.step with
        | mk r' b' =>
          have hperform : (a.perform .step).2 = a' := congrArg Prod.snd ha
          rw [ha, hb] at hanswer hafter
          rw [ha] at hno
          obtain rfl : r' = r := hanswer
          cases r' with
          | error t => exact ⟨rfl, hafter fun hparting => hno 0 ⟨rfl, hparting⟩⟩
          | ok s =>
            cases s with
            | executed =>
              have hsafe : ¬ Parting a := fun hparting => hno 0 ⟨rfl, hparting⟩
              exact frameSteps k _ (hafter hsafe) fun i hmeets => hno (i + 1) (hmeets.cons hperform)
            | redrawn =>
              have hsafe : ¬ Parting a := fun hparting => hno 0 ⟨rfl, hparting⟩
              exact frameSteps k _ (hafter hsafe) fun i hmeets => hno (i + 1) (hmeets.cons hperform)
            | awaitingKey =>
              obtain ⟨rfl, -⟩ := awaiting_of_step ha
              obtain ⟨rfl, -⟩ := awaiting_of_step hb
              exact h.endFrame halike report

/-- Any operation in whose parts the machines do not part. -/
theorem perform_parts (halike : Alike a b) (op : Operation)
    (hno : ∀ i, ¬ MeetsAt Parting a (a.parts op) i) :
    (b.perform op).1 = (a.perform op).1 ∧ Alike (a.perform op).2 (b.perform op).2 := by
  by_cases hframe : op = .runFrame
  · subst hframe
    have hrun : b.runFrame.1 = a.runFrame.1 ∧ Alike a.runFrame.2 b.runFrame.2 := by
      rw [runFrame, runFrame, h.cyclesPerFrame halike]
      exact h.frameSteps _ {} halike hno
    exact ⟨congrArg (fun r => (r.mapError Error.trap).map Reply.framed) hrun.1, hrun.2⟩
  · refine h.perform halike hframe ?_
    rintro rfl hparting
    exact hno 0 ⟨rfl, hparting⟩

/-! ## Runs -/

/-- The parts of a frame, and then of the operations after it. -/
theorem together_frame {ops : List Operation}
    (hrest : ∀ {a b : Machine}, Alike a b →
      Together Alike Parting a (a.unrolled ops) b (b.unrolled ops)) :
    ∀ (k : Nat) (report : FrameReport) {a b : Machine}, Alike a b →
      Together Alike Parting a (frameParts k a ++ (Machine.frameSteps k report a).2.unrolled ops)
        b (frameParts k b ++ (Machine.frameSteps k report b).2.unrolled ops)
  | 0, report, _, _, halike => .next halike nofun (hrest (h.tick halike))
  | k + 1, report, a, b, halike => by
      have hanswer := h.answer halike
      have hafter := fun hsafe => h.step (a := a) (b := b) hsafe halike
      rw [frameParts, frameParts, Machine.frameSteps, Machine.frameSteps]
      cases ha : a.step with
      | mk r a' =>
        cases hb : b.step with
        | mk r' b' =>
          rw [ha, hb] at hanswer hafter
          obtain rfl : r' = r := hanswer
          have hstep : ∀ {rest rest' : List Operation},
              (¬ Parting a → Together Alike Parting a' rest b' rest') →
                Together Alike Parting a (.step :: rest) b (.step :: rest') :=
            Together.step halike (congrArg Prod.snd ha) (congrArg Prod.snd hb)
          cases r' with
          | error t => exact hstep fun hsafe => hrest (hafter hsafe)
          | ok s =>
            cases s with
            | executed => exact hstep fun hsafe => together_frame hrest k _ (hafter hsafe)
            | redrawn => exact hstep fun hsafe => together_frame hrest k _ (hafter hsafe)
            | awaitingKey =>
              obtain ⟨rfl, -⟩ := awaiting_of_step ha
              obtain ⟨rfl, -⟩ := awaiting_of_step hb
              exact .next halike nofun (hrest (h.tick halike))

/-- Machines that are alike go through the same parts of a run until they may part. -/
theorem together (halike : Alike a b) :
    ∀ (ops : List Operation), Together Alike Parting a (a.unrolled ops) b (b.unrolled ops) := by
  intro ops
  induction ops generalizing a b with
  | nil => exact .done halike
  | cons op ops ih =>
    rw [unrolled, unrolled]
    by_cases hframe : op = .runFrame
    · subst hframe
      show Together Alike Parting a
        (frameParts a.config.cyclesPerFrame.toNat a ++ a.runFrame.2.unrolled ops) b
        (frameParts b.config.cyclesPerFrame.toNat b ++ b.runFrame.2.unrolled ops)
      rw [runFrame, runFrame, h.cyclesPerFrame halike]
      exact h.together_frame ih _ {} halike
    · rw [parts_of_ne hframe, parts_of_ne hframe]
      by_cases hparting : op = .step ∧ Parting a
      · obtain ⟨rfl, hparting⟩ := hparting
        exact .parting halike hparting
      · have hsafe : op = .step → ¬ Parting a := fun hop hp => hparting ⟨hop, hp⟩
        exact .next halike hsafe (ih (h.perform halike hframe hsafe).2)

/-- As long as two machines that are alike have not parted, at each moment of a run the same part
comes next and is answered alike, and the machines are alike. -/
theorem moment (halike : Alike a b) (ops : List Operation) {j : Nat}
    (hno : ∀ i < j, ¬ MeetsAt Parting a (a.unrolled ops) i) :
    (b.unrolled ops)[j]? = (a.unrolled ops)[j]? ∧
      (∀ op, (a.unrolled ops)[j]? = some op →
        ((b.moment ops j).perform op).1 = ((a.moment ops j).perform op).1) ∧
      Alike (a.moment ops j) (b.moment ops j) := by
  obtain ⟨hpart, hmoment⟩ := (h.together halike ops).moment j hno
  refine ⟨hpart, ?_, hmoment⟩
  intro op hop
  exact h.answer_part hmoment (mem_unrolled (List.mem_of_getElem? hop)).1

/-- Two machines that are alike answer alike throughout a run in which they never part. -/
theorem answers (halike : Alike a b) {ops : List Operation}
    (hno : ∀ i, ¬ MeetsAt Parting a (a.unrolled ops) i) :
    b.answers ops = a.answers ops ∧ Alike (a.run ops) (b.run ops) := by
  induction ops generalizing a b with
  | nil => exact ⟨rfl, halike⟩
  | cons op ops ih =>
    rw [unrolled] at hno
    obtain ⟨hanswer, hafter⟩ :=
      h.perform_parts halike op fun i hmeets => hno i (hmeets.append_left _)
    have hlater : ∀ i, ¬ MeetsAt Parting (a.perform op).2 ((a.perform op).2.unrolled ops) i := by
      intro i hmeets
      refine hno ((a.parts op).length + i) (MeetsAt.append_right ?_)
      rw [run_parts]
      exact hmeets
    obtain ⟨hanswers, hend⟩ := ih hafter hlater
    refine ⟨?_, hend⟩
    rw [Machine.answers, Machine.answers, hanswer, hanswers]

end Lockstep

end Chip8.Machine
