import Chip8.Device.Faulty
import Chip8.Device.Mute
import Chip8.Device.Recorder
import Chip8.Device.Script
import Chip8.Proofs.Framing

/-!
# How long a console plays

A run of frames ends with the first batch of events that makes the console quit, or at its
limit.  A batch makes the console quit if there is a quit in it that no reset precedes: a
reset ends its frame, and what stands behind it is never looked at.  So with devices that do
not fail and a program that does not trap, how long a run lasts can be read off the script
(`play_until_quit`), and a quit behind a reset is missed.
-/

namespace Chip8

/-! ## Devices that never fail -/

/-- Whatever the display has been shown, it shows the next frame. -/
def Display.NeverFails {δ : Type} [Display δ] (display : δ) : Prop :=
  ∀ (shown : List Frame) (f : Frame),
    (Display.draw (shown.foldl (fun d f => (Display.draw d f).2) display) f).1 = .ok ()

theorem Display.NeverFails.of_draw {δ : Type} [Display δ] {display display' : δ}
    (h : NeverFails display) {f : Frame} {r : Except Error Unit}
    (hdraw : Display.draw display f = (r, display')) : r = .ok () ∧ NeverFails display' := by
  have hdrawn : (Display.draw display f).1 = .ok () := h [] f
  have hnext : NeverFails (Display.draw display f).2 := fun shown => h (f :: shown)
  rw [hdraw] at hdrawn hnext
  exact ⟨hdrawn, hnext⟩

/-- Whatever the speaker has been told, it does what it is told next. -/
def Speaker.NeverFails {σ : Type} [Speaker σ] (speaker : σ) : Prop :=
  ∀ (told : List Bool) (active : Bool),
    (Speaker.setActive (told.foldl (fun s a => (Speaker.setActive s a).2) speaker) active).1 =
      .ok ()

theorem Speaker.NeverFails.of_setActive {σ : Type} [Speaker σ] {speaker speaker' : σ}
    (h : NeverFails speaker) {active : Bool} {r : Except Error Unit}
    (hsound : Speaker.setActive speaker active = (r, speaker')) :
    r = .ok () ∧ NeverFails speaker' := by
  have htold : (Speaker.setActive speaker active).1 = .ok () := h [] active
  have hnext : NeverFails (Speaker.setActive speaker active).2 := fun told => h (active :: told)
  rw [hsound] at htold hnext
  exact ⟨htold, hnext⟩

/-! ## Batches that quit -/

namespace Event

/-- There is a quit that no reset precedes. -/
def quits (events : List Event) : Bool := .quit ∈ events.takeWhile (· ≠ .reset)

theorem quits_iff_outcome {events : List Event} :
    quits events = true ↔ outcome events = some .quit := by
  induction events with
  | nil => simp [quits, outcome]
  | cons e rest ih =>
    cases e with
    | down code =>
      have hrest : quits (.down code :: rest) = quits rest := by simp [quits]
      rw [hrest]
      exact ih
    | up code =>
      have hrest : quits (.up code :: rest) = quits rest := by simp [quits]
      rw [hrest]
      exact ih
    | reset =>
      have hends : quits (.reset :: rest) = false := by simp [quits]
      rw [hends]
      exact ⟨nofun, nofun⟩
    | quit =>
      have hends : quits (.quit :: rest) = true := by simp [quits]
      rw [hends]
      exact ⟨fun _ => rfl, fun _ => rfl⟩

theorem not_quits_of_outcome {events : List Event} {asked : Option Control}
    (h : outcome events = asked) (hother : asked ≠ some .quit) : ¬ quits events = true := by
  rw [quits_iff_outcome, h]
  exact hother

theorem mem_quit_of_quits {events : List Event} (h : quits events = true) : .quit ∈ events :=
  (List.takeWhile_sublist _).mem (of_decide_eq_true h)

end Event

/-- How many frames there are up to and with the first batch of events of a kind, at most
`limit`. -/
def framesUntil (kind : List Event → Bool) (limit : Nat) (batches : List (List Event)) : Nat :=
  match batches.findIdx? kind with
  | some q => min limit (q + 1)
  | none => limit

section FramesUntil

variable {kind : List Event → Bool}

@[simp] theorem framesUntil_zero (batches : List (List Event)) :
    framesUntil kind 0 batches = 0 := by
  rw [framesUntil]
  split
  · exact Nat.zero_min _
  · rfl

/-- After the last batch there are batches without events. -/
theorem framesUntil_succ (hnil : kind [] = false) (limit : Nat) (batches : List (List Event)) :
    framesUntil kind (limit + 1) batches =
      if kind (batches.headD []) then 1 else framesUntil kind limit batches.tail + 1 := by
  cases batches with
  | nil => simp [framesUntil, hnil]
  | cons batch rest =>
    rw [framesUntil, framesUntil, List.findIdx?_cons, List.headD_cons, List.tail_cons]
    by_cases hkind : kind batch = true
    · simp [hkind]
    · rw [if_neg hkind, if_neg hkind]
      cases rest.findIdx? kind with
      | none => rfl
      | some q =>
        simp only [Option.map_some]
        omega

theorem framesUntil_pos {limit : Nat} (h : 0 < limit) (batches : List (List Event)) :
    0 < framesUntil kind limit batches := by
  rw [framesUntil]
  split
  · omega
  · exact h

/-- A wider kind of batches ends the frames at the same one, unless the first batch of the wider
kind comes before the limit and is not of the narrower kind. -/
theorem framesUntil_eq_iff {wider : List Event → Bool} (hnil : wider [] = false)
    (hwider : ∀ batch, kind batch = true → wider batch = true) (limit : Nat)
    (batches : List (List Event)) :
    framesUntil kind limit batches = framesUntil wider limit batches ↔
      ∀ q, batches.findIdx? wider = some q → q + 1 < limit → kind (batches.getD q []) = true := by
  have hkindnil : kind [] = false := by
    refine Bool.eq_false_iff.2 fun h => ?_
    rw [hwider [] h] at hnil
    cases hnil
  induction batches generalizing limit with
  | nil => simp [framesUntil]
  | cons batch rest ih =>
    cases limit with
    | zero => simp
    | succ k =>
      rw [framesUntil_succ hkindnil, framesUntil_succ hnil, List.headD_cons, List.tail_cons,
        List.findIdx?_cons]
      by_cases hw : wider batch = true
      · rw [if_pos hw, if_pos hw]
        by_cases hk : kind batch = true
        · simp [hk]
        · -- The frames go on behind this batch, unless it is the last before the limit.
          rw [if_neg hk]
          constructor
          · intro h q hq hlt
            have hpos : 0 < framesUntil kind k rest := framesUntil_pos (by omega) rest
            omega
          · intro h
            cases k with
            | zero => rw [framesUntil_zero]
            | succ k => exact absurd (h 0 rfl (by omega)) hk
      · have hk : ¬ kind batch = true := fun hk => hw (hwider batch hk)
        rw [if_neg hk, if_neg hw, if_neg hw]
        refine (Nat.add_right_cancel_iff.trans (ih k)).trans ⟨?_, ?_⟩
        · intro h q hq hlt
          obtain ⟨q', hrest, rfl⟩ := Option.map_eq_some_iff.1 hq
          exact h q' hrest (by omega)
        · intro h q hq hlt
          exact h (q + 1) (Option.map_eq_some_iff.2 ⟨q, hq, rfl⟩) (by omega)

end FramesUntil

namespace Console

theorem finish_of_neverFails {δ ι σ : Type} [Speaker σ] {c : Console δ ι σ}
    (h : Speaker.NeverFails c.speaker) (played : Nat) :
    (c.finish played).1 = .ok played ∧ (c.finish played).2.source = c.source := by
  rw [finish]
  cases hsound : Speaker.setActive c.speaker false with
  | mk r speaker =>
    obtain ⟨rfl, -⟩ := h.of_setActive hsound
    rw [setSound_of hsound]
    exact ⟨rfl, rfl⟩

variable {δ σ : Type} [Display δ] [Speaker σ]

/-! ## One frame -/

/-- Nothing can go wrong with the console but a trap: its devices never fail, the program to restart
fits, and the script tells of no keys but those of the keypad. -/
structure Dependable (c : Console δ (Faulty Script) σ) : Prop where
  display : Display.NeverFails c.display
  speaker : Speaker.NeverFails c.speaker
  source : c.source.failing = []
  fits : c.program.length ≤ Memory.maxProgramBytes
  keys : ∀ batch ∈ c.source.device.batches, ∀ e ∈ batch, ∀ code, e.Names code → code.toNat < 16

namespace Dependable

variable {c : Console δ (Faulty Script) σ}

/-- Each poll takes the next batch, and after the last there is nothing to tell. -/
theorem poll (h : c.Dependable) :
    EventSource.poll c.source = (.ok (c.source.device.batches.headD []),
      { c.source with device := ⟨c.source.device.batches.tail⟩, calls := c.source.calls + 1 }) := by
  have hcall : c.source.calls ∉ c.source.failing := by
    rw [h.source]
    exact List.not_mem_nil
  have hnext : EventSource.poll c.source.device =
      (.ok (c.source.device.batches.headD []), ⟨c.source.device.batches.tail⟩) := by
    cases c.source.device with
    | mk batches =>
      cases batches with
      | nil => rfl
      | cons batch rest => rfl
  show c.source.call EventSource.poll = _
  rw [Faulty.call, if_neg hcall, hnext]

theorem nextEvents (h : c.Dependable) : c.nextEvents = c.source.device.batches.headD [] :=
  nextEvents_of_poll h.poll

theorem batches_frame (h : c.Dependable) :
    c.frame.2.source.device.batches = c.source.device.batches.tail := by
  rw [source_frame, h.poll]

theorem calls_frame (h : c.Dependable) : c.frame.2.source.calls = c.source.calls + 1 := by
  rw [source_frame, h.poll]

/-- No event is refused. -/
theorem key?_ne_none (h : c.Dependable) {events : List Event} {source : Faulty Script}
    (hpoll : EventSource.poll c.source = (.ok events, source)) {e : Event} (he : e ∈ events)
    {code : UInt8} (hcode : e.Names code) : Keypad.key? code ≠ none := by
  have hevents : events = c.source.device.batches.headD [] := by
    rw [← h.nextEvents, nextEvents_of_poll hpoll]
  have hmem : events ∈ c.source.device.batches := by
    rw [hevents] at he ⊢
    cases hbatches : c.source.device.batches with
    | nil =>
      rw [hbatches] at he
      cases he
    | cons batch rest => exact .head _
  have hsmall := h.keys events hmem e he code hcode
  rw [Ne, Keypad.key?_eq_none_iff]
  omega

/-- The console stays dependable as long as its devices do. -/
theorem next (h : c.Dependable) {c' : Console δ (Faulty Script) σ}
    (hprogram : c'.program = c.program) (hsource : c'.source = (EventSource.poll c.source).2)
    (hdisplay : Display.NeverFails c'.display) (hspeaker : Speaker.NeverFails c'.speaker) :
    c'.Dependable where
  display := hdisplay
  speaker := hspeaker
  source := by
    rw [hsource, h.poll]
    exact h.source
  fits := by
    rw [hprogram]
    exact h.fits
  keys := by
    rw [hsource, h.poll]
    exact fun batch hbatch => h.keys batch (List.mem_of_mem_tail hbatch)

/-- A frame without a trap quits or goes on, as its batch says, and the console stays dependable. -/
theorem frame (h : c.Dependable) (htrap : ∀ t, c.frame.1 ≠ .error (.trap t)) :
    c.frame.2.Dependable ∧
      c.frame.1 = .ok (if Event.quits c.nextEvents then .quit else .continue) := by
  have hf := c.frame_cases
  generalize c.frame = r at hf htrap ⊢
  cases hf with
  | unpolled journal hpoll =>
    rw [h.poll] at hpoll
    cases hpoll
  | refused ops journal hpoll he hcode hnone => exact absurd hnone (h.key?_ne_none hpoll he hcode)
  | tooLong journal hpoll houtcome hlong =>
    have hfits := h.fits
    omega
  | quit journal hpoll houtcome =>
    have hquits := Event.quits_iff_outcome.2 houtcome
    rw [nextEvents_of_poll hpoll, if_pos hquits]
    exact ⟨h.next rfl (by rw [hpoll]) h.display h.speaker, rfl⟩
  | restarted journal hpoll houtcome hfits hmachine hdraw =>
    obtain ⟨rfl, hdisplay⟩ := h.display.of_draw hdraw
    have hquits := Event.not_quits_of_outcome houtcome nofun
    rw [nextEvents_of_poll hpoll, if_neg hquits]
    exact ⟨h.next rfl (by rw [hpoll]) hdisplay h.speaker, rfl⟩
  | trapped journal hpoll houtcome hrun hsound =>
    obtain ⟨rfl, -⟩ := h.speaker.of_setActive hsound
    exact absurd rfl (htrap _)
  | undrawn journal hpoll houtcome hrun hdraw =>
    obtain ⟨herror, -⟩ := h.display.of_draw hdraw
    cases herror
  | @ran events source report machine display r speaker journal hpoll houtcome hrun hdraw hsound =>
    obtain ⟨rfl, hspeaker⟩ := h.speaker.of_setActive hsound
    have hdisplay : Display.NeverFails display := by
      split at hdraw
      · exact (h.display.of_draw hdraw).2
      · exact hdraw ▸ h.display
    have hquits := Event.not_quits_of_outcome houtcome nofun
    rw [nextEvents_of_poll hpoll, if_neg hquits]
    exact ⟨h.next rfl (by rw [hpoll]) hdisplay hspeaker, rfl⟩

/-! ## A run of frames -/

/-- The frames of a run last until a batch quits, and each of them polls once. -/
theorem playFrames (h : c.Dependable) (k played : Nat)
    (htrap : ∀ i < framesUntil Event.quits k c.source.device.batches, ∀ t,
      (c.framed i).frame.1 ≠ .error (.trap t)) :
    (Console.playFrames k played c).1 =
        .ok (played + framesUntil Event.quits k c.source.device.batches) ∧
      (Console.playFrames k played c).2.source.calls =
        c.source.calls + framesUntil Event.quits k c.source.device.batches := by
  induction k generalizing played c with
  | zero =>
    obtain ⟨hr, hsource⟩ := finish_of_neverFails h.speaker played
    rw [Console.playFrames, hr, hsource, framesUntil_zero]
    exact ⟨rfl, rfl⟩
  | succ k ih =>
    rw [framesUntil_succ rfl, ← h.nextEvents] at htrap ⊢
    rw [Console.playFrames]
    have hfirst : ∀ t, c.frame.1 ≠ .error (.trap t) := htrap 0 (by split <;> omega)
    obtain ⟨hnext, hr⟩ := h.frame hfirst
    by_cases hquits : Event.quits c.nextEvents = true
    · rw [if_pos hquits] at hr ⊢
      have hframe : c.frame = (.ok .quit, c.frame.2) := by rw [← hr]
      have hspeaker : Speaker.NeverFails (c.frame.2.note (.quit (played + 1))).speaker :=
        hnext.speaker
      obtain ⟨hplayed, hsource⟩ := finish_of_neverFails hspeaker (played + 1)
      rw [hframe]
      refine ⟨hplayed, ?_⟩
      rw [← h.calls_frame]
      exact congrArg Faulty.calls hsource
    · rw [if_neg hquits] at hr htrap ⊢
      have hframe : c.frame = (.ok .continue, c.frame.2) := by rw [← hr]
      have hrest := ih hnext (played + 1)
      rw [h.batches_frame, h.calls_frame] at hrest
      have hlater : ∀ i < framesUntil Event.quits k c.source.device.batches.tail, ∀ t,
          (c.frame.2.framed i).frame.1 ≠ .error (.trap t) := by
        intro i hi
        rw [← framed_succ]
        exact htrap (i + 1) (by omega)
      obtain ⟨hplayed, hcalls⟩ := hrest hlater
      rw [hframe]
      dsimp only
      rw [hplayed, hcalls]
      exact ⟨congrArg Except.ok (by omega), by omega⟩

end Dependable

/-- How long a run of a dependable console lasts, if none of its frames traps.  Each frame polls
once, the last is that of the first batch with a quit that no reset precedes, and without such a
batch the limit ends the run.  The first batch with any quit ends it as well exactly if it is
such a batch, or the run gets no further anyway. -/
theorem play_until_quit {c : Console δ (Faulty Script) σ} (h : c.Dependable) {limit : UInt64}
    (htrap : ∀ i < framesUntil Event.quits limit.toNat c.source.device.batches, ∀ t,
      (c.draw.2.framed i).frame.1 ≠ .error (.trap t)) :
    let batches := c.source.device.batches
    let played := framesUntil Event.quits limit.toNat batches
    (c.play (some limit)).1 = .ok played ∧
      (c.play (some limit)).2.source.calls = c.source.calls + played ∧
      (played = framesUntil (fun events => .quit ∈ events) limit.toNat batches ↔
        ∀ q, batches.findIdx? (fun events => .quit ∈ events) = some q → q + 1 < limit.toNat →
          Event.quits (batches.getD q []) = true) := by
  intro batches played
  have hkinds : ∀ batch, Event.quits batch = true → decide (.quit ∈ batch) = true :=
    fun _ hquits => decide_eq_true (Event.mem_quit_of_quits hquits)
  suffices hplay : (c.play (some limit)).1 = .ok played ∧
      (c.play (some limit)).2.source.calls = c.source.calls + played from
    ⟨hplay.1, hplay.2, framesUntil_eq_iff rfl hkinds limit.toNat batches⟩
  rw [play]
  cases hshown : Display.draw c.display c.machine.screen.frame with
  | mk r display =>
    obtain ⟨rfl, hdisplay⟩ := h.display.of_draw hshown
    have hdraw : c.draw = (.ok (), { c with display }) := draw_of hshown
    have hstart : Dependable { c with display } :=
      { display := hdisplay, speaker := h.speaker, source := h.source, fits := h.fits,
        keys := h.keys }
    rw [hdraw] at htrap ⊢
    obtain ⟨hplayed, hcalls⟩ := hstart.playFrames limit.toNat 0 htrap
    rw [Nat.zero_add] at hplayed
    exact ⟨hplayed, hcalls⟩

/-- A key goes down, the user restarts and wants to quit, nothing happens, and the user quits, first
thing and then again.  Only the last batch ends the run. -/
theorem play_until_quit_restarted :
    let c : Console Recorder (Faulty Script) Mute :=
      { machine := .powerOn { cyclesPerFrame := 2 } 0
        display := {}
        source :=
          { device := ⟨[[.down 1], [.reset, .quit], [], [.up 1, .quit, .quit]]⟩
            text := ""
            failing := [] }
        speaker := {} }
    let loaded := (c.load (.ok [0x12, 0x00])).2
    loaded.Dependable ∧ (loaded.play (some 9)).1 = .ok 4 ∧
      (loaded.play (some 9)).2.source.calls = 4 := by
  intro c loaded
  have hevents : ∀ batch ∈ loaded.source.device.batches, ∀ e ∈ batch,
      e = .down 1 ∨ e = .reset ∨ e = .quit ∨ e = .up 1 := by decide
  have hkeys : ∀ batch ∈ loaded.source.device.batches, ∀ e ∈ batch, ∀ code, e.Names code →
      code.toNat < 16 := by
    rintro batch hbatch e he code (rfl | rfl)
    · obtain rfl : code = 1 := by simpa using hevents batch hbatch _ he
      decide
    · obtain rfl : code = 1 := by simpa using hevents batch hbatch _ he
      decide
  have hdependable : loaded.Dependable :=
    { display := fun _ _ => rfl, speaker := fun _ _ => rfl, source := rfl, fits := by decide,
      keys := hkeys }
  have hplayed : framesUntil Event.quits (9 : UInt64).toNat loaded.source.device.batches = 4 := by
    decide
  have htrap : ∀ i < framesUntil Event.quits (9 : UInt64).toNat loaded.source.device.batches, ∀ t,
      (loaded.draw.2.framed i).frame.1 ≠ .error (.trap t) := by
    rw [hplayed]
    have hframes : ∀ i < 4, (loaded.draw.2.framed i).frame.1.isOk = true := by decide +kernel
    intro i hi t ht
    have hok := hframes i hi
    rw [ht] at hok
    cases hok
  obtain ⟨hplay, hcalls, -⟩ := play_until_quit hdependable htrap
  rw [hplayed] at hplay hcalls
  exact ⟨hdependable, hplay, hcalls⟩

/-- The user restarts and wants to quit before the first frame.  The quit is lost, and the run goes
on to its limit. -/
theorem play_past_quit :
    let c : Console Recorder (Faulty Script) Mute :=
      { machine := .powerOn {} 0
        display := {}
        source := { device := ⟨[[.reset, .quit]]⟩, text := "", failing := [] }
        speaker := {} }
    let loaded := (c.load (.ok [0x12, 0x00])).2
    (loaded.play (some 3)).1 = .ok 3 ∧ (loaded.play (some 3)).2.source.calls = 3 ∧
      framesUntil (fun events => .quit ∈ events) 3 loaded.source.device.batches = 1 := by
  decide +kernel

end Console

end Chip8
