import Chip8.Proofs.Quitting
import Chip8.Proofs.Retention
import Chip8.Proofs.Suspension

/-!
# What becomes of a trap

A machine of a console is halted in a frame and nowhere else, and the frame that halts it says
so: it tells the speaker to be silent, and then it answers with the trap, or with the error of
the speaker if that fails (`Framing.trapped_of_isHalted`).  A frame that answers that the console
goes on has left a machine that is not halted.  For this the machine must not be halted with
frames that have no cycles, in which nobody would find out.  A console never gets there, since it
has no other way to halt its machine than by the cycles of a frame (`Machine.HaltsInFrames`).

So a run of a console whose speaker does not fail ends with a trap exactly if its machine is
halted at the end, and then there is silence (`no_trap_is_lost`).
-/

namespace Chip8

/-! ## What halts a machine -/

namespace Machine

/-- A trap has stopped the machine. -/
def IsHalted (m : Machine) : Prop := ∃ t, m.activity = .halted t

variable {m m' : Machine}

theorem not_isHalted_of_running (h : m.activity = .running) : ¬ m.IsHalted := by
  rintro ⟨t, ht⟩
  cases h.symm.trans ht

/-- Only steps and frames halt a machine. -/
theorem isHalted_of_perform {op : Operation} (hstep : op ≠ .step) (hframe : op ≠ .runFrame)
    (h : (m.perform op).2.IsHalted) : m.IsHalted := by
  cases op with
  | step => exact absurd rfl hstep
  | runFrame => exact absurd rfl hframe
  | tick => exact h
  | reset => exact absurd h (not_isHalted_of_running rfl)
  | load program =>
    obtain ⟨memory, hl⟩ := m.load_eq program
    have hloaded : (m.load program).2.IsHalted := h
    rw [hl] at hloaded
    exact hloaded
  | keyUp code =>
    obtain ⟨keypad, hk⟩ := m.keyUp_eq code
    have hreleased : (m.keyUp code).2.IsHalted := h
    rw [hk] at hreleased
    exact hreleased
  | keyDown code =>
    have hpressed : (m.keyDown code).2.IsHalted := h
    rcases m.keyDown_cases code with ⟨-, hk⟩ | ⟨key, -, ⟨x, -, hk⟩ | ⟨-, hk⟩⟩
    · rw [hk] at hpressed
      exact hpressed
    · rw [hk] at hpressed
      exact absurd hpressed (not_isHalted_of_running rfl)
    · rw [hk] at hpressed
      exact hpressed

theorem isHalted_of_run {ops : List Operation} (hops : ∀ op ∈ ops, op ≠ .step ∧ op ≠ .runFrame)
    (h : (m.run ops).IsHalted) : m.IsHalted := by
  induction ops generalizing m with
  | nil => exact h
  | cons op ops ih =>
    obtain ⟨hstep, hframe⟩ := hops op (.head _)
    exact isHalted_of_perform hstep hframe (ih (fun op' hop => hops op' (.tail _ hop)) h)

/-- A step that succeeds does not halt the machine. -/
theorem not_isHalted_of_step {s : Step} (h : m.step = (.ok s, m')) : ¬ m'.IsHalted := by
  rintro ⟨t, ht⟩
  cases ha : m.activity with
  | running =>
    have herror := step_error_of_halted ha (by rw [h]; exact ht)
    rw [h] at herror
    cases herror
  | awaitingKey x =>
    rw [step_of_awaitingKey ha] at h
    cases h
    cases ha.symm.trans ht
  | halted t' =>
    rw [step_of_halted ha] at h
    cases h

theorem Cycles.not_isHalted {n : Nat} {redraw : Bool} (h : Cycles m n redraw m')
    (hm : ¬ m.IsHalted) : ¬ m'.IsHalted := by
  induction h with
  | none m => exact hm
  | executed hs _ ih => exact ih (not_isHalted_of_step hs)
  | redrawn hs _ ih => exact ih (not_isHalted_of_step hs)

/-- If the machine is halted, its frames have cycles to say so. -/
def HaltsInFrames (m : Machine) : Prop := m.IsHalted → m.config.cyclesPerFrame.toNat ≠ 0

theorem haltsInFrames_of_not_isHalted (h : ¬ m.IsHalted) : m.HaltsInFrames := fun hm => absurd hm h

/-- A frame that succeeds leaves a machine that is not halted. -/
theorem HaltsInFrames.not_isHalted (hm : m.HaltsInFrames) {report : FrameReport}
    (h : m.runFrame = (.ok report, m')) : ¬ m'.IsHalted := by
  by_cases hhalted : m.IsHalted
  · obtain ⟨t, ht⟩ := hhalted
    rw [runFrame_of_halted ht, if_neg (hm ⟨t, ht⟩)] at h
    cases h
  · have hc := m.runFrame_cases
    rw [h] at hc
    generalize hr : ((.ok report, m') : Except Trap FrameReport × Machine) = r at hc
    cases hc with
    | finished hc hle hwait hexecuted hredraw =>
      cases hr
      exact hc.not_isHalted hhalted
    | trapped hc hlt ht => cases hr

/-- Without steps and without cycles nothing halts. -/
theorem isHalted_of_run_without_cycles {ops : List Operation} (hstep : .step ∉ ops)
    (hcycles : m.config.cyclesPerFrame.toNat = 0) (h : (m.run ops).IsHalted) : m.IsHalted := by
  induction ops generalizing m with
  | nil => exact h
  | cons op ops ih =>
    have hne : op ≠ .step := by
      rintro rfl
      exact hstep (.head _)
    have hconfig : (m.perform op).2.config = m.config := m.config_run [op]
    have hfirst : (m.perform op).2.IsHalted :=
      ih (fun hmem => hstep (.tail _ hmem)) (by rw [hconfig]; exact hcycles) h
    by_cases hframe : op = .runFrame
    · subst hframe
      have hend : (m.perform .runFrame).2 = m.tick := by
        rw [perform, runFrame, hcycles]
        rfl
      rw [hend] at hfirst
      exact hfirst
    · exact isHalted_of_perform hne hframe hfirst

theorem HaltsInFrames.run (hm : m.HaltsInFrames) {ops : List Operation} (hstep : .step ∉ ops) :
    (m.run ops).HaltsInFrames := by
  intro hhalted hcycles
  rw [config_run] at hcycles
  exact hm (isHalted_of_run_without_cycles hstep hcycles hhalted) hcycles

end Machine

/-! ## Operations of a console -/

namespace Event

theorem mem_keyOperations {op : Operation} :
    ∀ {events : List Event}, op ∈ keyOperations events → op ≠ .step ∧ op ≠ .runFrame
  | .down code :: rest, h => by
      cases h with
      | head => exact ⟨nofun, nofun⟩
      | tail _ h => exact mem_keyOperations h
  | .up code :: rest, h => by
      cases h with
      | head => exact ⟨nofun, nofun⟩
      | tail _ h => exact mem_keyOperations h

/-- The events of a frame never make the machine do a single step. -/
theorem step_not_mem_operations (program : List UInt8) (events : List Event) :
    .step ∉ operations program events := by
  induction events with
  | nil => simp [operations]
  | cons e rest ih =>
    cases e with
    | down code =>
      rw [operations]
      split
      · simp
      · simpa using ih
    | up code =>
      rw [operations]
      split
      · simp
      · simpa using ih
    | reset => simp [operations, Machine.startingOver]
    | quit => simp [operations]

end Event

namespace Core

variable {ι : Type} {k : Core ι}

theorem step_not_mem_startingOver (program : List UInt8) :
    .step ∉ Machine.startingOver program := by
  simp [Machine.startingOver]

theorem haltsInFrames_load (h : k.machine.HaltsInFrames) (read : Except IoError (List UInt8)) :
    (k.load read).machine.HaltsInFrames := by
  cases read with
  | error e => exact h
  | ok program => exact h.run (step_not_mem_startingOver program)

theorem haltsInFrames_restart (h : k.machine.HaltsInFrames) : k.restart.machine.HaltsInFrames :=
  h.run (step_not_mem_startingOver k.program)

theorem haltsInFrames_frames [EventSource ι] (h : k.machine.HaltsInFrames) (n : Nat) :
    (Core.frame^[n] k).machine.HaltsInFrames := by
  induction n generalizing k with
  | zero => exact h
  | succ n ih =>
    refine ih ?_
    rw [Core.frame]
    split
    · exact h
    · exact h.run (Event.step_not_mem_operations _ _)

end Core

/-! ## What devices answer -/

/-- The errors of sources of this type are those of devices. -/
def EventSource.FailsWithIo (ι : Type) [EventSource ι] : Prop :=
  ∀ (source : ι) (e : Error), (EventSource.poll source).1 = .error e → ∃ reason, e = .io reason

/-- What a speaker of this type is doing is what it was told last, if it did not fail then. -/
def Speaker.Obeys {σ : Type} [Speaker σ] (active : σ → Bool) : Prop :=
  ∀ (speaker speaker' : σ) (told : Bool),
    Speaker.setActive speaker told = (.ok (), speaker') → active speaker' = told

/-- A call of a device that may fail has an error of its own or that of the device. -/
theorem Faulty.error_of_call {δ α : Type} {d : Faulty δ} {act : δ → Except Error α × δ} {e : Error}
    (h : (d.call act).1 = .error e) :
    (∃ reason, e = .io reason) ∨ (act d.device).1 = .error e := by
  rw [call] at h
  split at h
  · cases h
    exact .inl ⟨_, rfl⟩
  · exact .inr h

theorem Display.failsWithIo_recorder : Display.FailsWithIo (Faulty Recorder) := by
  intro display f e h
  rcases Faulty.error_of_call h with hio | hdevice
  · exact hio
  · cases hdevice

theorem EventSource.failsWithIo_script : EventSource.FailsWithIo (Faulty Script) := by
  intro source e h
  rcases Faulty.error_of_call h with hio | hdevice
  · exact hio
  · cases hdevice

theorem Speaker.obeys_mute : Speaker.Obeys Mute.active := by
  intro speaker speaker' told h
  cases h
  rfl

namespace Console

variable {δ ι σ : Type} {c c' : Console δ ι σ} {active : σ → Bool}

/-! ## Answers that account for the machine -/

/-- The answer is a trap exactly if that trap has halted the machine, and if one has, the speaker
is silent. -/
structure Accounts {α : Type} (active : σ → Bool) (r : Except Error α) (c : Console δ ι σ) :
    Prop where
  trap_iff : ∀ t, r = .error (.trap t) ↔ c.machine.activity = .halted t
  silent : c.machine.IsHalted → active c.speaker = false

theorem accounts_of_not_isHalted {α : Type} {r : Except Error α} (hc : ¬ c.machine.IsHalted)
    (hr : ∀ t, r ≠ .error (.trap t)) : Accounts active r c where
  trap_iff t := ⟨fun h => absurd h (hr t), fun h => absurd ⟨t, h⟩ hc⟩
  silent h := absurd h hc

variable [Speaker σ]

theorem accounts_of_finish (hc : ¬ c.machine.IsHalted) (hspeaker : Speaker.NeverFails c.speaker)
    (played : Nat) : Accounts active (c.finish played).1 (c.finish played).2 := by
  obtain ⟨hanswer, -⟩ := finish_of_neverFails hspeaker played
  have hmachine : (c.finish played).2.machine = c.machine :=
    congrArg Core.machine (c.core_finish played)
  rw [hanswer]
  exact accounts_of_not_isHalted (by rw [hmachine]; exact hc) nofun

/-! ## What a console does to its machine -/

variable [Display δ] [EventSource ι]

theorem haltsInFrames_after (h : c.machine.HaltsInFrames) (call : Call) :
    (c.after call).machine.HaltsInFrames := by
  have hcore : (c.after call).core.machine.HaltsInFrames := by
    cases call with
    | load read =>
      rw [after, core_load]
      exact Core.haltsInFrames_load h read
    | restart =>
      rw [after, core_restart]
      exact Core.haltsInFrames_restart h
    | frame =>
      rw [after, core_frame]
      exact Core.haltsInFrames_frames h 1
    | play limit =>
      obtain ⟨n, hplay⟩ := c.core_play limit
      rw [after, hplay]
      exact Core.haltsInFrames_frames h n
  exact hcore

theorem haltsInFrames_run (h : c.machine.HaltsInFrames) (calls : List Call) :
    (c.run calls).machine.HaltsInFrames := by
  induction calls generalizing c with
  | nil => exact h
  | cons call calls ih => exact ih (haltsInFrames_after h call)

theorem LeadsTo.haltsInFrames {calls : List Call} (hc : c.LeadsTo calls c')
    (h : c.machine.HaltsInFrames) : c'.machine.HaltsInFrames := by
  have hrun := haltsInFrames_run h calls
  cases hc with
  | after => exact hrun
  | within n =>
    have hframes : ((c.run calls).draw.2.framed n).core.machine.HaltsInFrames := by
      rw [core_framed, core_draw]
      exact Core.haltsInFrames_frames hrun n
    exact hframes

/-! ## What a frame answers -/

/-- A frame that leaves the machine halted, and has not found it so, has told the speaker to be
silent and answers with the trap, or else with the error of the speaker. -/
theorem Framing.trapped_of_isHalted {r : Except Error Control × Console δ ι σ} (hf : Framing c r)
    (hbefore : ¬ c.machine.IsHalted) {t : Trap} (hafter : r.2.machine.activity = .halted t) :
    ∃ told, Speaker.setActive c.speaker false = (told, r.2.speaker) ∧
      r.1 = told >>= fun _ => .error (.trap t) := by
  have hkeys {events : List Event} {ops : List Operation}
      (hdone : ops <+: Event.keyOperations events) : ¬ (c.machine.run ops).IsHalted :=
    fun h => hbefore (Machine.isHalted_of_run
      (fun op hop => Event.mem_keyOperations (hdone.subset hop)) h)
  have hran {events : List Event} {report : FrameReport} {machine : Machine}
      (hrun : (c.machine.run (Event.keyOperations events)).runFrame = (.ok report, machine)) :
      ¬ machine.IsHalted :=
    (Machine.haltsInFrames_of_not_isHalted (hkeys (List.prefix_refl _))).not_isHalted hrun
  cases hf with
  | unpolled journal hpoll => exact absurd ⟨t, hafter⟩ hbefore
  | refused ops journal hpoll he hcode hnone hdone => exact absurd ⟨t, hafter⟩ (hkeys hdone)
  | tooLong journal hpoll houtcome hlong => cases hafter
  | restarted journal hpoll houtcome hfits hmachine hdraw =>
    subst hmachine
    cases hafter
  | quit journal hpoll houtcome => exact absurd ⟨t, hafter⟩ (hkeys (List.prefix_refl _))
  | @trapped events source t' machine told speaker journal hpoll houtcome hrun hsound =>
    have hhalted : machine.activity = .halted t' := Machine.activity_of_frameSteps_error hrun
    obtain rfl : t' = t := Activity.halted.inj (hhalted.symm.trans hafter)
    exact ⟨told, hsound, rfl⟩
  | undrawn journal hpoll houtcome hrun hdraw => exact absurd ⟨t, hafter⟩ (hran hrun)
  | ran journal hpoll houtcome hrun hdraw hsound => exact absurd ⟨t, hafter⟩ (hran hrun)

/-- A frame with which the console goes on leaves a machine that is not halted. -/
theorem not_isHalted_of_continue (hc : c.machine.HaltsInFrames)
    (h : c.frame = (.ok .continue, c')) : ¬ c'.machine.IsHalted := by
  cases succeeding_of_frame h with
  | restarted houtcome hbooted hdraw hspeaker =>
    rw [hbooted]
    exact Machine.not_isHalted_of_running rfl
  | ran houtcome hrun hdraw hsound =>
    have hkeys : .step ∉ Event.keyOperations c.nextEvents :=
      fun hstep => (Event.mem_keyOperations hstep).1 rfl
    exact (hc.run hkeys).not_isHalted hrun

/-- A frame tells the speaker something at most once. -/
theorem Framing.speaker {r : Except Error Control × Console δ ι σ} (hf : Framing c r) :
    r.2.speaker = c.speaker ∨ ∃ active, r.2.speaker = (Speaker.setActive c.speaker active).2 := by
  cases hf with
  | unpolled journal hpoll => exact .inl rfl
  | refused ops journal hpoll he hcode hnone hdone => exact .inl rfl
  | tooLong journal hpoll houtcome hlong => exact .inl rfl
  | restarted journal hpoll houtcome hfits hmachine hdraw => exact .inl rfl
  | quit journal hpoll houtcome => exact .inl rfl
  | trapped journal hpoll houtcome hrun hsound => exact .inr ⟨false, by rw [hsound]⟩
  | undrawn journal hpoll houtcome hrun hdraw => exact .inl rfl
  | ran journal hpoll houtcome hrun hdraw hsound => exact .inr ⟨_, by rw [hsound]⟩

theorem Framing.neverFails {r : Except Error Control × Console δ ι σ} (hf : Framing c r)
    (h : Speaker.NeverFails c.speaker) : Speaker.NeverFails r.2.speaker := by
  rcases hf.speaker with hsame | ⟨active, htold⟩
  · rw [hsame]
    exact h
  · rw [htold]
    exact (h.of_setActive rfl).2

/-- If traps are not what devices fail with, a frame answers with a trap only if that has halted
the machine. -/
theorem Framing.activity_of_trap {r : Except Error Control × Console δ ι σ} (hf : Framing c r)
    (hdisplay : Display.FailsWithIo δ) (hsource : EventSource.FailsWithIo ι)
    (hspeaker : Speaker.NeverFails c.speaker) {t : Trap} (h : r.1 = .error (.trap t)) :
    r.2.machine.activity = .halted t := by
  cases hf with
  | unpolled journal hpoll =>
    cases h
    obtain ⟨reason, hio⟩ := hsource _ _ (congrArg Prod.fst hpoll)
    cases hio
  | refused ops journal hpoll he hcode hnone hdone => cases h
  | tooLong journal hpoll houtcome hlong => cases h
  | @restarted events source machine r display journal hpoll houtcome hfits hmachine hdraw =>
    cases r with
    | ok u => cases h
    | error e =>
      cases h
      obtain ⟨reason, hio⟩ := hdisplay _ _ _ (congrArg Prod.fst hdraw)
      cases hio
  | quit journal hpoll houtcome => cases h
  | trapped journal hpoll houtcome hrun hsound =>
    obtain ⟨rfl, -⟩ := hspeaker.of_setActive hsound
    cases h
    exact Machine.activity_of_frameSteps_error hrun
  | undrawn journal hpoll houtcome hrun hdraw =>
    cases h
    obtain ⟨reason, hio⟩ := hdisplay _ _ _ (congrArg Prod.fst hdraw)
    cases hio
  | ran journal hpoll houtcome hrun hdraw hsound =>
    obtain ⟨rfl, -⟩ := hspeaker.of_setActive hsound
    cases h

/-! ## What a run answers -/

/-- A frame that fails, on a console whose machine was not halted. -/
theorem accounts_of_frame_error (hdisplay : Display.FailsWithIo δ)
    (hsource : EventSource.FailsWithIo ι) (hobeys : Speaker.Obeys active)
    (hc : ¬ c.machine.IsHalted) (hspeaker : Speaker.NeverFails c.speaker) {e : Error}
    (h : c.frame = (.error e, c')) : Accounts (α := Nat) active (.error e) c' := by
  have hf := c.frame_cases
  rw [h] at hf
  have htrapped : ∀ t, c'.machine.activity = .halted t →
      e = .trap t ∧ active c'.speaker = false := by
    intro t ht
    obtain ⟨told, hsound, hanswer⟩ := hf.trapped_of_isHalted hc ht
    obtain ⟨rfl, -⟩ := hspeaker.of_setActive hsound
    cases hanswer
    exact ⟨rfl, hobeys _ _ _ hsound⟩
  constructor
  · intro t
    constructor
    · intro htrap
      cases htrap
      exact hf.activity_of_trap hdisplay hsource hspeaker rfl
    · intro ht
      rw [(htrapped t ht).1]
  · rintro ⟨t, ht⟩
    exact (htrapped t ht).2

theorem accounts_of_playFrames (hdisplay : Display.FailsWithIo δ)
    (hsource : EventSource.FailsWithIo ι) (hobeys : Speaker.Obeys active) :
    ∀ (k played : Nat) {c : Console δ ι σ}, ¬ c.machine.IsHalted → Speaker.NeverFails c.speaker →
      Accounts active (playFrames k played c).1 (playFrames k played c).2
  | 0, played, c, hc, hspeaker => accounts_of_finish hc hspeaker played
  | k + 1, played, c, hc, hspeaker => by
      have hf := c.frame_cases
      rw [playFrames]
      split
      · next e c₁ h => exact accounts_of_frame_error hdisplay hsource hobeys hc hspeaker h
      · next c₁ h =>
        rw [h] at hf
        have hgoing := not_isHalted_of_continue (Machine.haltsInFrames_of_not_isHalted hc) h
        exact accounts_of_playFrames hdisplay hsource hobeys k (played + 1) hgoing
          (hf.neverFails hspeaker)
      · next c₁ h =>
        rw [h] at hf
        have hquit : ¬ (c₁.note (.quit (played + 1))).machine.IsHalted := by
          rintro ⟨t, ht⟩
          obtain ⟨told, -, hanswer⟩ := hf.trapped_of_isHalted hc ht
          cases told with
          | error e => cases hanswer
          | ok u => cases hanswer
        exact accounts_of_finish hquit (hf.neverFails hspeaker) (played + 1)

/-- No trap of a console that has just loaded a program is lost.  Whatever the console has been
through since, a frame with which it goes on leaves a machine that is not halted, and the frame
that halts the machine has told the speaker to be silent and answers with the trap that the
machine is halted by, unless the speaker fails, and then with that error.  The first run of
the console, if its speaker never fails, answers with a trap exactly if that trap has halted the
machine, and then the speaker is silent. -/
theorem no_trap_is_lost {c₀ : Console δ ι σ} {read : Except IoError (List UInt8)}
    (hload : c₀.load read = (.ok (), c)) :
    (∀ calls d, c.LeadsTo calls d →
      (∀ d', d.frame = (.ok .continue, d') → ¬ d'.machine.IsHalted) ∧
      (¬ d.machine.IsHalted →
        ∀ r d' t, d.frame = (r, d') → d'.machine.activity = .halted t →
          ∃ told, Speaker.setActive d.speaker false = (told, d'.speaker) ∧
            (told = .ok () → r = .error (.trap t)) ∧ ∀ e, told = .error e → r = .error e)) ∧
    (Display.FailsWithIo δ → EventSource.FailsWithIo ι → Speaker.NeverFails c.speaker →
      ∀ active : σ → Bool, Speaker.Obeys active → ∀ limit r c', c.play limit = (r, c') →
        (∀ t, r = .error (.trap t) ↔ c'.machine.activity = .halted t) ∧
        (c'.machine.IsHalted → active c'.speaker = false)) := by
  have hfresh : ¬ c.machine.IsHalted := by
    rcases c₀.load_cases read with ⟨_, -, hl⟩ | ⟨_, _, -, -, hl⟩ | ⟨_, _, -, -, hl⟩
    · rw [hl] at hload
      cases hload
    · rw [hl] at hload
      cases hload
    · rw [hl] at hload
      cases hload
      exact Machine.not_isHalted_of_running rfl
  refine ⟨?_, ?_⟩
  · intro calls d hd
    have hframes := hd.haltsInFrames (Machine.haltsInFrames_of_not_isHalted hfresh)
    refine ⟨fun d' h => not_isHalted_of_continue hframes h, ?_⟩
    intro hbefore r d' t h ht
    have hf := d.frame_cases
    rw [h] at hf
    obtain ⟨told, hsound, rfl⟩ := hf.trapped_of_isHalted hbefore ht
    refine ⟨told, hsound, ?_, ?_⟩
    · rintro rfl
      rfl
    · rintro e rfl
      rfl
  · intro hdisplay hsource hspeaker active hobeys limit r c' h
    suffices haccounts : Accounts active (c.play limit).1 (c.play limit).2 by
      rw [h] at haccounts
      exact ⟨haccounts.trap_iff, haccounts.silent⟩
    rw [play]
    cases hshown : Display.draw c.display c.machine.screen.frame with
    | mk drawn display =>
      rw [draw_of hshown]
      cases drawn with
      | error e =>
        obtain ⟨reason, rfl⟩ := hdisplay _ _ _ (congrArg Prod.fst hshown)
        exact accounts_of_not_isHalted hfresh (fun t ht => by cases ht)
      | ok u => exact accounts_of_playFrames hdisplay hsource hobeys _ 0 hfresh hspeaker

/-- A program sounds and then returns without a call.  One speaker fails when it is told to be
silent, and its error hides the trap, but the machine is halted by it.  The other console is
restarted once before, and its run ends with the trap and in silence. -/
theorem no_trap_is_lost_sounding :
    let program : List UInt8 := [0x60, 0x0A, 0xF0, 0x18, 0x00, 0xEE]
    let t : Trap := ⟨.stackUnderflow, 0x204, some 0x00EE⟩
    let worn : Console (Faulty Recorder) (Faulty Script) (Faulty Mute) :=
      { machine := .powerOn { cyclesPerFrame := 2 } 0
        display := { device := {}, text := "display", failing := [] }
        source := { device := ⟨[]⟩, text := "input", failing := [] }
        speaker := { device := {}, text := "speaker", failing := [1] } }
    let intact : Console (Faulty Recorder) (Faulty Script) Mute :=
      { machine := .powerOn { cyclesPerFrame := 2 } 0
        display := { device := {}, text := "display", failing := [2] }
        source := { device := ⟨[[], [.reset, .quit], [.down 3]]⟩, text := "input", failing := [9] }
        speaker := {} }
    let d := (worn.load (.ok program)).2.run [.frame]
    let p := (intact.load (.ok program)).2.play none
    d.frame.1 = .error (.io (.device "speaker")) ∧ d.frame.2.machine.activity = .halted t ∧
      p.1 = .error (.trap t) ∧ p.2.speaker.active = false ∧ p.2.speaker.beeps = 1 := by
  intro program t worn intact d p
  have hworn : worn.load (.ok program) = (.ok (), (worn.load (.ok program)).2) := by rfl
  have hintact : intact.load (.ok program) = (.ok (), (intact.load (.ok program)).2) := by rfl
  obtain ⟨hbefore, hafter, htold⟩ :
      d.machine.activity = .running ∧ d.frame.2.machine.activity = .halted t ∧
        (Speaker.setActive d.speaker false).1 = .error (.io (.device "speaker")) := by
    decide +kernel
  obtain ⟨hend, hbeeps⟩ : p.2.machine.activity = .halted t ∧ p.2.speaker.beeps = 1 := by
    decide +kernel
  obtain ⟨hframes, -⟩ := no_trap_is_lost hworn
  obtain ⟨-, hhalts⟩ := hframes [.frame] d .after
  obtain ⟨told, hsound, -, hfails⟩ :=
    hhalts (Machine.not_isHalted_of_running hbefore) _ _ t rfl hafter
  rw [hsound] at htold
  obtain ⟨-, hplays⟩ := no_trap_is_lost hintact
  obtain ⟨htrap, hsilent⟩ := hplays Display.failsWithIo_recorder EventSource.failsWithIo_script
    (fun _ _ => rfl) Mute.active Speaker.obeys_mute none _ _ rfl
  exact ⟨hfails _ htold, hafter, (htrap t).2 hend, hsilent ⟨t, hend⟩, hbeeps⟩

end Console

end Chip8
