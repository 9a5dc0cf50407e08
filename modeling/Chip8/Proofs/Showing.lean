import Chip8.Device.Recorder
import Chip8.Proofs.Frames
import Chip8.Proofs.Framing

/-!
# What the display shows

A console draws only when it has to: at the start, after a restart, and after a frame that
reports a redraw.  That is enough.  If the display shows the screen before a frame of the
console and the frame succeeds, the display shows the screen after it, since neither keys
nor ticks nor instructions that ask for no redraw touch the screen.  So the display shows
the screen at the end of every run that succeeds, whatever was played (`shows_of_ok`).
-/

namespace Chip8

namespace Machine

theorem screen_keyDown (m : Machine) (code : UInt8) : (m.keyDown code).2.screen = m.screen := by
  obtain ⟨keypad, v, activity, hk⟩ := m.keyDown_eq code
  rw [hk]

theorem screen_keyUp (m : Machine) (code : UInt8) : (m.keyUp code).2.screen = m.screen := by
  obtain ⟨keypad, hk⟩ := m.keyUp_eq code
  rw [hk]

theorem screen_run_keyOperations (m : Machine) :
    ∀ events : List Event, (m.run (Event.keyOperations events)).screen = m.screen
  | [] => rfl
  | .down code :: rest =>
      (screen_run_keyOperations (m.keyDown code).2 rest).trans (m.screen_keyDown code)
  | .up code :: rest => (screen_run_keyOperations (m.keyUp code).2 rest).trans (m.screen_keyUp code)
  | .reset :: _ => rfl
  | .quit :: _ => rfl

/-- A frame that reports no redraw leaves the screen alone. -/
theorem screen_of_runFrame {m m' : Machine} {report : FrameReport}
    (h : m.runFrame = (.ok report, m')) (hredraw : report.redraw = false) :
    m'.screen = m.screen := by
  have hc := m.runFrame_cases
  rw [h] at hc
  generalize hr : ((.ok report, m') : Except Trap FrameReport × Machine) = r at hc
  cases hc with
  | finished hc hle hwait hexecuted hnote =>
    cases hr
    exact hc.screen_eq (hnote.symm.trans hredraw)
  | trapped hc hlt ht => cases hr

end Machine

namespace Console

variable {ι σ : Type}

/-- The latest frame of the display is the picture of the screen as it is. -/
def Shows (c : Console Recorder ι σ) : Prop := c.display.bytes = c.machine.screen.frame.toList

theorem Shows.congr {c c' : Console Recorder ι σ} (h : c.Shows) (hdisplay : c'.display = c.display)
    (hscreen : c'.machine.screen = c.machine.screen) : c'.Shows := by
  rw [Shows, hdisplay, hscreen]
  exact h

theorem Shows.length_bytes {c : Console Recorder ι σ} (h : c.Shows) :
    c.display.bytes.length = Frame.byteCount := by
  rw [h, Frame.toList, Vector.length_toList]
  rfl

/-- A display that has just recorded the screen shows it. -/
theorem shows_of_recorded {c : Console Recorder ι σ} {display : Recorder} {r : Except Error Unit}
    (h : Display.draw display c.machine.screen.frame = (r, c.display)) : c.Shows := by
  have hdisplay : display.record c.machine.screen.frame = c.display := congrArg Prod.snd h
  rw [Shows, ← hdisplay]
  rfl

theorem shows_of_draw {c c' : Console Recorder ι σ} {r : Except Error Unit}
    (h : c.draw = (r, c')) : c'.Shows := by
  cases h
  exact shows_of_recorded rfl

/-- A restart that succeeds has drawn. -/
theorem shows_of_restart {c c' : Console Recorder ι σ} (h : c.restart = (.ok (), c')) :
    c'.Shows := by
  rw [restart] at h
  split at h
  · cases h
  · exact shows_of_draw h

variable [Speaker σ]

/-! ## One frame -/

/-- What a frame that succeeds does not draw is a screen that it has left alone. -/
theorem shows_of_frame [EventSource ι] {c c' : Console Recorder ι σ} {control : Control}
    (hc : c.Shows) (h : c.frame = (.ok control, c')) : c'.Shows := by
  have hkeys := c.machine.screen_run_keyOperations c.nextEvents
  cases succeeding_of_frame h with
  | restarted houtcome hbooted hdraw hspeaker => exact shows_of_recorded hdraw
  | quit houtcome hmachine hdisplay hspeaker =>
    refine hc.congr hdisplay ?_
    rw [hmachine, hkeys]
  | ran houtcome hrun hdraw hsound =>
    split at hdraw
    · exact shows_of_recorded hdraw
    · next hquiet =>
      have hscreen := Machine.screen_of_runFrame hrun (Bool.eq_false_iff.2 hquiet)
      exact hc.congr hdraw (hscreen.trans hkeys)

/-! ## A run -/

theorem shows_of_finish {c c' : Console Recorder ι σ} {played n : Nat} (hc : c.Shows)
    (h : c.finish played = (.ok n, c')) : c'.Shows := by
  have hsilent : (c.setSound false).2.Shows := hc.congr rfl rfl
  rw [finish] at h
  split at h
  · cases h
  · next hs =>
    cases h
    rw [hs] at hsilent
    exact hsilent

variable [EventSource ι]

theorem shows_of_playFrames :
    ∀ {k played n : Nat} {c c' : Console Recorder ι σ},
      c.Shows → playFrames k played c = (.ok n, c') → c'.Shows
  | 0, _, _, _, _, hc, h => shows_of_finish hc h
  | k + 1, played, n, c, c', hc, h => by
      rw [playFrames] at h
      split at h
      · cases h
      · next hf => exact shows_of_playFrames (shows_of_frame hc hf) h
      · next c₁ hf =>
        have hquit := shows_of_frame hc hf
        have hnoted : (c₁.note (.quit (played + 1))).Shows := hquit.congr rfl rfl
        exact shows_of_finish hnoted h

/-- The display shows the screen after every drawing and after every restart that succeeds; if it
shows the screen before a frame that succeeds, it shows it after the frame, whatever events
there were and whatever the program did; and it shows all 256 bytes of it at the end of
every run that succeeds. -/
theorem shows_of_ok (c : Console Recorder ι σ) :
    c.draw.2.Shows ∧
    (∀ c', c.restart = (.ok (), c') → c'.Shows) ∧
    (c.display.bytes = c.machine.screen.frame.toList →
      ∀ control c', c.frame = (.ok control, c') →
        c'.display.bytes = c'.machine.screen.frame.toList) ∧
    ∀ limit n c', c.play limit = (.ok n, c') →
      c'.display.bytes = c'.machine.screen.frame.toList ∧
        c'.display.bytes.length = Frame.byteCount := by
  have hdraw : c.draw.2.Shows := shows_of_draw rfl
  refine ⟨hdraw, fun c' h => shows_of_restart h, fun hc control c' h => shows_of_frame hc h, ?_⟩
  intro limit n c' h
  rw [play] at h
  split at h
  · cases h
  · next c₁ hd =>
    rw [hd] at hdraw
    have hend : c'.Shows := shows_of_playFrames hdraw h
    exact ⟨hend, hend.length_bytes⟩

end Console

end Chip8
