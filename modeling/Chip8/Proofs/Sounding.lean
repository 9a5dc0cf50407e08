import Chip8.Device.Mute
import Chip8.Device.Recorder
import Chip8.Device.Script
import Chip8.Proofs.Frames
import Chip8.Proofs.Framing

/-!
# What the speaker was last told

A frame that runs the machine ends by telling the speaker whether the sound timer runs.  A
frame that only restarts the console stops the sound timer and tells the speaker nothing.
So the speaker is as loud as the sound timer was after the last frame that ran the machine,
`Console.heard`, and it is out of step with the timer exactly if that frame left the timer
running and all frames since then were restarts (`speaker_as_heard`).
-/

namespace Chip8

/-- What a frame reports of the sound is so. -/
theorem Machine.soundActive_of_runFrame {m m' : Machine} {report : FrameReport}
    (h : m.runFrame = (.ok report, m')) : report.soundActive = m'.soundActive := by
  have hc := m.runFrame_cases
  rw [h] at hc
  generalize hr : ((.ok report, m') : Except Trap FrameReport × Machine) = r at hc
  cases hc with
  | finished hc hle hwait hexecuted hredraw =>
    cases hr
    rfl
  | trapped hc hlt ht => cases hr

namespace Console

variable {δ ι : Type} [Display δ] [EventSource ι]

/-! ## One frame -/

/-- The next frame is asked to restart the console. -/
def Restarts (c : Console δ ι Mute) : Prop := .reset ∈ c.nextEvents

instance (c : Console δ ι Mute) : Decidable c.Restarts := inferInstanceAs (Decidable (_ ∈ _))

variable {c c' : Console δ ι Mute}

/-- A frame that ran the machine has told the speaker. -/
theorem active_of_frame (h : c.frame = (.ok .continue, c')) (hran : ¬ c.Restarts) :
    c'.speaker.active = c'.machine.soundActive := by
  cases succeeding_of_frame h with
  | restarted houtcome hbooted hdraw hspeaker =>
    exact absurd (Event.mem_reset_of_outcome houtcome) hran
  | @ran c' report houtcome hrun hdraw hsound =>
    have htold : c.speaker.switch report.soundActive = c'.speaker := congrArg Prod.snd hsound
    rw [← htold, ← Machine.soundActive_of_runFrame hrun]
    rfl

/-- A frame that restarted the console has stopped the sound timer behind the speaker's back. -/
theorem speaker_of_restart (h : c.frame = (.ok .continue, c')) (hrestart : c.Restarts) :
    c'.speaker = c.speaker ∧ c'.machine.soundActive = false := by
  cases succeeding_of_frame h with
  | restarted houtcome hbooted hdraw hspeaker =>
    rw [hbooted]
    exact ⟨hspeaker, rfl⟩
  | ran houtcome hrun hdraw hsound =>
    exact absurd hrestart (Event.not_mem_reset_of_outcome houtcome)

/-! ## Frames in a row -/

/-- After `n` frames, the number of frames after which the speaker was last told of the sound
timer. -/
def heard (c : Console δ ι Mute) : (n : Nat) → Nat
  | 0 => 0
  | n + 1 => if (c.framed n).Restarts then c.heard n else n + 1

theorem heard_of_restarts {n : Nat} (h : (c.framed n).Restarts) : c.heard (n + 1) = c.heard n := by
  rw [heard, if_pos h]

theorem heard_of_not_restarts {n : Nat} (h : ¬ (c.framed n).Restarts) :
    c.heard (n + 1) = n + 1 := by
  rw [heard, if_neg h]

/-- The speaker is as loud as the sound timer was when it was last told of it. -/
theorem active_as_heard (hstart : c.speaker.active = c.machine.soundActive) :
    ∀ (n : Nat), (∀ i < n, (c.framed i).frame.1 = .ok .continue) →
      (c.framed n).speaker.active = (c.framed (c.heard n)).machine.soundActive
  | 0, _ => hstart
  | n + 1, hframes => by
      have hframe := frame_eq_framed (hframes n (Nat.lt_succ_self n))
      by_cases hrestart : (c.framed n).Restarts
      · have hbefore := active_as_heard hstart n fun i hi => hframes i (by omega)
        rw [heard_of_restarts hrestart, (speaker_of_restart hframe hrestart).1]
        exact hbefore
      · rw [heard_of_not_restarts hrestart]
        exact active_of_frame hframe hrestart

/-- If there were only restarts since the speaker was told, the sound timer stands still. -/
theorem soundActive_of_heard_ne {n : Nat} (hn : c.heard n ≠ n)
    (hframes : ∀ i < n, (c.framed i).frame.1 = .ok .continue) :
    (c.framed n).machine.soundActive = false := by
  cases n with
  | zero => exact absurd rfl hn
  | succ n =>
    have hframe := frame_eq_framed (hframes n (Nat.lt_succ_self n))
    by_cases hrestart : (c.framed n).Restarts
    · exact (speaker_of_restart hframe hrestart).2
    · exact absurd (heard_of_not_restarts hrestart) hn

/-- After a frame with which the console goes on, the speaker is in step with the sound timer
exactly if the frame was not asked to restart or the speaker was silent before.  From a
console that is in step, as long as it goes on, the speaker is as loud as the timer was when
the speaker was last told of it; so it falls out of step exactly by restarts while it
sounds. -/
theorem speaker_as_heard (c : Console δ ι Mute) :
    (∀ c', c.frame = (.ok .continue, c') →
      (c'.speaker.active = c'.machine.soundActive ↔
        (.reset ∈ c.nextEvents → c.speaker.active = false))) ∧
    (c.speaker.active = c.machine.soundActive →
      ∀ n, (∀ i < n, (c.framed i).frame.1 = .ok .continue) →
        (c.framed n).speaker.active = (c.framed (c.heard n)).machine.soundActive ∧
        ((c.framed n).speaker.active = (c.framed n).machine.soundActive ↔
          c.heard n = n ∨ (c.framed (c.heard n)).machine.soundActive = false)) := by
  refine ⟨?_, ?_⟩
  · intro c' h
    by_cases hrestart : c.Restarts
    · obtain ⟨hspeaker, hsilent⟩ := speaker_of_restart h hrestart
      rw [hspeaker, hsilent]
      exact ⟨fun hstep _ => hstep, fun hstep => hstep hrestart⟩
    · exact ⟨fun _ hreset => absurd hreset hrestart, fun _ => active_of_frame h hrestart⟩
  · intro hstart n hframes
    have hheard := active_as_heard hstart n hframes
    refine ⟨hheard, ?_⟩
    rw [hheard]
    by_cases hn : c.heard n = n
    · rw [hn]
      exact ⟨fun _ => .inl rfl, fun _ => rfl⟩
    · rw [soundActive_of_heard_ne hn hframes]
      exact ⟨.inr, fun h => h.resolve_left hn⟩

/-- A program sounds, the user restarts it, and it sounds again.  Meanwhile the speaker stays as
loud as the sound timer was before the restart. -/
theorem speaker_as_heard_restarted :
    let fresh : Console Recorder Script Mute :=
      { machine := .powerOn { cyclesPerFrame := 2 } 0
        display := {}
        source := ⟨[[], [.reset]]⟩
        speaker := {} }
    let c := (fresh.load (.ok [0x60, 0x0A, 0xF0, 0x18, 0x12, 0x04])).2
    c.speaker.active = c.machine.soundActive ∧
      (∀ i < 3, (c.framed i).frame.1 = .ok .continue) ∧ c.heard 2 = 1 ∧ c.heard 3 = 3 ∧
      (c.framed 2).speaker.active = (c.framed 1).machine.soundActive ∧
      (c.framed 3).speaker.active = (c.framed 3).machine.soundActive := by
  intro fresh c
  have hstart : c.speaker.active = c.machine.soundActive := rfl
  have hframes : ∀ i < 3, (c.framed i).frame.1 = .ok .continue := by decide +kernel
  obtain ⟨hrestarted, hran⟩ : c.heard 2 = 1 ∧ c.heard 3 = 3 := by decide +kernel
  obtain ⟨-, hheard⟩ := speaker_as_heard c
  have htwo := (hheard hstart 2 fun i hi => hframes i (by omega)).1
  have hthree := (hheard hstart 3 hframes).1
  rw [hrestarted] at htwo
  rw [hran] at hthree
  exact ⟨hstart, hframes, hrestarted, hran, htwo, hthree⟩

/-- A program sounds, and the user restarts it: the frame succeeds, the sound timer stands still,
and the speaker goes on. -/
theorem speaker_out_of_step :
    let fresh : Console Recorder Script Mute :=
      { machine := .powerOn {} 0, display := {}, source := ⟨[[], [.reset]]⟩, speaker := {} }
    let c := (fresh.load (.ok [0x60, 0x0A, 0xF0, 0x18, 0x12, 0x04])).2
    c.frame.1 = .ok .continue ∧ c.frame.2.frame.1 = .ok .continue ∧
      (c.framed 2).machine.soundActive = false ∧ (c.framed 2).speaker.active = true := by
  decide +kernel

end Console

end Chip8
