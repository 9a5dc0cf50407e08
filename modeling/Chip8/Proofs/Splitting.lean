import Chip8.Proofs.Core
import Chip8.Proofs.Reporting
import Chip8.Proofs.Showing

/-!
# A play in two parts

To play some frames and then some more is to play them all at once (`play_split`).  Between the
parts the speaker falls silent and the screen is shown once more, and neither matters.  What is
shown is what the display shows already.  And two consoles that are `Abreast`, the same but for
what their speakers do, how often they have drawn and what they have logged, stay abreast, since
nothing of that is ever asked for.

That two calls answer the same and leave consoles that are abreast is `Alike`, with one lemma for
each thing that a console does in a frame.
-/

namespace Chip8

/-- The bytes of a frame are all there is to it. -/
theorem Frame.toList_injective : Function.Injective Frame.toList := by
  rintro ⟨bytes⟩ ⟨bytes'⟩ h
  exact congrArg Frame.mk (Vector.toList_inj.1 h)

namespace Console

theorem Shows.last_eq {ι σ : Type} {c : Console Recorder ι σ} (h : c.Shows) :
    c.display.last = some c.machine.screen.frame := by
  have hbytes : (c.display.last.map Frame.toList).getD [] = c.machine.screen.frame.toList := h
  cases hlast : c.display.last with
  | none =>
    have hlength := h.length_bytes
    rw [Recorder.bytes, hlast] at hlength
    cases hlength
  | some f =>
    rw [hlast] at hbytes
    exact congrArg some (Frame.toList_injective hbytes)

/-! ## Frames with which a console goes on -/

section Frames

variable {δ ι σ : Type} [Display δ] [EventSource ι] [Speaker σ]

theorem playFrames_succ_of_continue {c c' : Console δ ι σ} (h : c.frame = (.ok .continue, c'))
    (k played : Nat) : playFrames (k + 1) played c = playFrames k (played + 1) c' := by
  rw [playFrames, h]

/-- Frames with which the console goes on can be played beforehand. -/
theorem playFrames_add {j : Nat} {c : Console δ ι σ}
    (h : ∀ i < j, (c.framed i).frame.1 = .ok .continue) (k played : Nat) :
    playFrames (j + k) played c = playFrames k (played + j) (c.framed j) := by
  induction j generalizing c played with
  | zero =>
    rw [Nat.zero_add]
    rfl
  | succ j ih =>
    have hfirst : c.frame = (.ok .continue, c.frame.2) := frame_eq_framed (h 0 (Nat.succ_pos j))
    have hrest : ∀ i < j, (c.frame.2.framed i).frame.1 = .ok .continue := by
      intro i hi
      rw [← framed_succ]
      exact h (i + 1) (Nat.succ_lt_succ hi)
    rw [Nat.succ_add, playFrames_succ_of_continue hfirst, ih hrest, framed_succ]
    congr 1
    omega

/-- If a play succeeds and no frame of it quits, the console goes on with each of them. -/
theorem continue_of_playFrames {k played n : Nat} {c : Console δ ι σ}
    (h : (playFrames k played c).1 = .ok n)
    (hquit : ∀ i < k, (c.framed i).frame.1 ≠ .ok .quit) :
    ∀ i < k, (c.framed i).frame.1 = .ok .continue := by
  induction k generalizing c played with
  | zero =>
    intro i hi
    omega
  | succ k ih =>
    rw [playFrames] at h
    split at h
    · cases h
    · next c' hc =>
      have hnext : c.frame.2 = c' := congrArg Prod.snd hc
      have hlater : ∀ i < k, (c'.framed i).frame.1 ≠ .ok .quit := by
        intro i hi
        rw [← hnext, ← framed_succ]
        exact hquit (i + 1) (Nat.succ_lt_succ hi)
      intro i hi
      cases i with
      | zero => exact congrArg Prod.fst hc
      | succ i =>
        rw [framed_succ, hnext]
        exact ih h hlater i (Nat.lt_of_succ_lt_succ hi)
    · next c' hc => exact absurd (congrArg Prod.fst hc) (hquit 0 (Nat.succ_pos k))

end Frames

/-! ## Calls on two consoles -/

section Alike

variable {δ ι σ : Type}

/-- Two calls that answer the same and leave consoles that are related. -/
inductive Alike (R : Console δ ι σ → Console δ ι σ → Prop) {ε α : Type} :
    Except ε α × Console δ ι σ → Except ε α × Console δ ι σ → Prop where
  | intro {r : Except ε α} {c d : Console δ ι σ} : R c d → Alike R (r, c) (r, d)

theorem Alike.then {R : Console δ ι σ → Console δ ι σ → Prop} {α : Type}
    {x y : Except Error Unit × Console δ ι σ}
    {next : Console δ ι σ → Except Error α × Console δ ι σ} :
    Alike R x y → (∀ {c d}, R c d → Alike R (next c) (next d)) →
    Alike R
      (match x with
        | (.error e, c) => (.error e, c)
        | (.ok (), c) => next c)
      (match y with
        | (.error e, c) => (.error e, c)
        | (.ok (), c) => next c) := by
  intro h hnext
  cases h with
  | @intro r c d h =>
    cases r with
    | error e => exact .intro h
    | ok u => exact hnext h

end Alike

variable {ι : Type} {c d : Console Recorder ι Mute}

/-! ## Consoles that are abreast -/

/-- The second console is the first but for its speaker, how often it has drawn and its journal. -/
structure Abreast (c d : Console Recorder ι Mute) : Prop where
  machine : d.machine = c.machine
  program : d.program = c.program
  source : d.source = c.source
  last : d.display.last = c.display.last

namespace Abreast

theorem draw (h : Abreast c d) : Alike Abreast c.draw d.draw := by
  have hframe : d.machine.screen.frame = c.machine.screen.frame := by rw [h.machine]
  exact .intro ⟨h.machine, h.program, h.source, congrArg some hframe⟩

theorem setSound (h : Abreast c d) (active : Bool) :
    Alike Abreast (c.setSound active) (d.setSound active) :=
  .intro ⟨h.machine, h.program, h.source, h.last⟩

theorem driven (h : Abreast c d) (ops : List Operation) (journal journal' : Journal) :
    Abreast (c.driven ops journal) (d.driven ops journal') :=
  ⟨congrArg (Machine.run · ops) h.machine, h.program, h.source, h.last⟩

theorem insert (h : Abreast c d) (program : List UInt8) :
    Alike Abreast (c.insert program) (d.insert program) := by
  rw [Console.insert, Console.insert, h.machine]
  exact .intro ⟨rfl, h.program, h.source, h.last⟩

theorem reset (h : Abreast c d) : Abreast c.reset d.reset := by
  -- The consoles are taken apart, lest their memories be compared with that at power-on.
  obtain ⟨machine, program, display, source, speaker, journal⟩ := c
  obtain ⟨machine', program', display', source', speaker', journal'⟩ := d
  have hmachine : machine' = machine := h.machine
  have hprogram : program' = program := h.program
  have hsource : source' = source := h.source
  have hlast : display'.last = display.last := h.last
  exact ⟨congrArg Machine.reset hmachine, hprogram, hsource, hlast⟩

theorem restart (h : Abreast c d) : Alike Abreast c.restart d.restart := by
  have hnoted : Abreast (c.note .restarting) (d.note .restarting) :=
    ⟨h.machine, h.program, h.source, h.last⟩
  rw [Console.restart, Console.restart, h.program]
  exact (hnoted.reset.insert c.program).then draw

theorem handle (h : Abreast c d) (events : List Event) :
    Alike Abreast (c.handle events) (d.handle events) := by
  induction events generalizing c d with
  | nil => exact .intro h
  | cons e rest ih =>
    cases e with
    | down code =>
      rw [Console.handle, Console.handle, keyDown_driven, keyDown_driven, h.machine]
      exact Alike.then (.intro (h.driven _ _ _)) ih
    | up code =>
      rw [Console.handle, Console.handle, keyUp_driven, keyUp_driven, h.machine]
      exact Alike.then (.intro (h.driven _ _ _)) ih
    | reset =>
      rw [Console.handle, Console.handle]
      exact h.restart.then .intro
    | quit => exact .intro h

theorem present (h : Abreast c d) (report : FrameReport) :
    Alike Abreast (c.present report) (d.present report) := by
  rw [Console.present, Console.present]
  split
  · exact h.draw.then fun h => h.setSound _
  · exact h.setSound _

theorem giveUp (h : Abreast c d) (t : Trap) : Alike Abreast (c.giveUp t) (d.giveUp t) := by
  have hnoted : Abreast (c.note (.failed t)) (d.note (.failed t)) :=
    ⟨h.machine, h.program, h.source, h.last⟩
  exact (hnoted.setSound false).then .intro

theorem advance (h : Abreast c d) : Alike Abreast c.advance d.advance := by
  have hran : Alike Abreast c.runMachine d.runMachine := by
    rw [runMachine, runMachine, h.machine]
    exact .intro ⟨rfl, h.program, h.source, h.last⟩
  rw [Console.advance, Console.advance]
  generalize c.runMachine = x at hran ⊢
  generalize d.runMachine = y at hran ⊢
  cases hran with
  | @intro r c d h =>
    cases r with
    | error t => exact h.giveUp t
    | ok report => exact (h.present report).then .intro

variable [EventSource ι]

theorem frame (h : Abreast c d) : Alike Abreast c.frame d.frame := by
  rw [Console.frame, Console.frame, poll, poll, h.source]
  cases EventSource.poll c.source with
  | mk answer source =>
    have hpolled (journal journal' : Journal) :
        Abreast { c with source, journal } { d with source, journal := journal' } :=
      ⟨h.machine, h.program, rfl, h.last⟩
    cases answer with
    | error e => exact .intro (hpolled _ _)
    | ok events =>
      dsimp only
      have hhandled := fun journal journal' => (hpolled journal journal').handle events
      specialize hhandled (c.journal.noteAll (EventSource.pollRecords c.source))
        (d.journal.noteAll (EventSource.pollRecords c.source))
      generalize Console.handle { c with source, journal := _ } events = x at hhandled ⊢
      generalize Console.handle { d with source, journal := _ } events = y at hhandled ⊢
      cases hhandled with
      | @intro r c d h =>
        cases r with
        | error e => exact .intro h
        | ok asked =>
          cases asked with
          | none => exact h.advance
          | some control => exact .intro h

/-- Plays of consoles that are abreast, one of which has a number of frames behind it. -/
theorem playFrames (h : Abreast c d) (k played before : Nat) :
    (Console.playFrames k (before + played) d).1 =
        (Console.playFrames k played c).1.map (before + ·) ∧
      Abreast (Console.playFrames k played c).2 (Console.playFrames k (before + played) d).2 := by
  induction k generalizing c d played with
  | zero => exact ⟨rfl, h.machine, h.program, h.source, h.last⟩
  | succ k ih =>
    have hframe := h.frame
    rw [Console.playFrames, Console.playFrames]
    generalize c.frame = x at hframe ⊢
    generalize d.frame = y at hframe ⊢
    cases hframe with
    | @intro r c d h =>
      cases r with
      | error e => exact ⟨rfl, h⟩
      | ok control =>
        cases control with
        | «continue» => exact ih h (played + 1)
        | quit => exact ⟨rfl, h.machine, h.program, h.source, h.last⟩

end Abreast

/-! ## Silence at the end -/

variable [EventSource ι]

/-- A frame that traps has silenced the speaker. -/
theorem silent_of_frame (hsource : EventSource.FailsWithIo ι) {t : Trap}
    (h : c.frame.1 = .error (.trap t)) : c.frame.2.speaker.active = false := by
  have hf := c.frame_cases
  generalize c.frame = r at hf h ⊢
  cases hf with
  | unpolled journal hpoll =>
    cases h
    obtain ⟨reason, hio⟩ := hsource _ _ (congrArg Prod.fst hpoll)
    cases hio
  | refused ops journal hpoll he hcode hnone hdone => cases h
  | tooLong journal hpoll houtcome hlong => cases h
  | restarted journal hpoll houtcome hfits hmachine hdraw =>
    cases hdraw
    cases h
  | quit journal hpoll houtcome => cases h
  | trapped journal hpoll houtcome hrun hsound =>
    cases hsound
    rfl
  | undrawn journal hpoll houtcome hrun hdraw => cases hdraw
  | ran journal hpoll houtcome hrun hdraw hsound =>
    cases hsound
    cases h

/-- A play that ends by itself or with a trap ends in silence. -/
theorem silent_of_playFrames (hsource : EventSource.FailsWithIo ι) {k played : Nat}
    {c : Console Recorder ι Mute}
    (h : ∀ e, (playFrames k played c).1 = .error e → ∃ t, e = .trap t) :
    (playFrames k played c).2.speaker.active = false := by
  induction k generalizing c played with
  | zero => rfl
  | succ k ih =>
    have hframe := fun t => silent_of_frame (c := c) hsource (t := t)
    rw [playFrames] at h ⊢
    generalize c.frame = r at h hframe ⊢
    obtain ⟨answer, c'⟩ := r
    cases answer with
    | error e =>
      obtain ⟨t, rfl⟩ := h e rfl
      exact hframe t rfl
    | ok control =>
      cases control with
      | «continue» => exact ih h
      | quit => rfl

/-! ## Both parts -/

theorem play_eq (c : Console Recorder ι Mute) (limit : UInt64) :
    c.play (some limit) = playFrames limit.toNat 0 c.draw.2 := rfl

theorem silent_of_play (hsource : EventSource.FailsWithIo ι) {limit : UInt64}
    {c : Console Recorder ι Mute}
    (h : ∀ e, (c.play (some limit)).1 = .error e → ∃ t, e = .trap t) :
    (c.play (some limit)).2.speaker.active = false :=
  silent_of_playFrames hsource h

/-- The first part of a play comes to the console that its frames lead to, which then falls
silent, and the play as a whole goes on from that console without a pause. -/
theorem play_of_continue {a b : UInt64} (hsum : a.toNat + b.toNat < UInt64.size)
    (h : ∀ i < a.toNat, (c.draw.2.framed i).frame.1 = .ok .continue) :
    c.play (some a) = (c.draw.2.framed a.toNat).finish a.toNat ∧
      c.play (some (a + b)) = playFrames b.toNat a.toNat (c.draw.2.framed a.toNat) := by
  have hlimit : (a + b).toNat = a.toNat + b.toNat := by
    rw [UInt64.toNat_add]
    exact Nat.mod_eq_of_lt hsum
  have hfirst := playFrames_add h 0 0
  have hall := playFrames_add h b.toNat 0
  rw [Nat.zero_add] at hfirst hall
  rw [play_eq, play_eq, hlimit]
  exact ⟨hfirst, hall⟩

/-- Take a play of `a` frames that succeeds and in which no frame quits.  To play up to `b` frames
after it is to have played up to `a + b` from the beginning: the same number of frames less
`a`, or the same error, and in any case the same machine, program, events to come and picture on
the display.  If the end is no error but perhaps a trap, the speaker is doing the same too. -/
theorem play_split (hsource : EventSource.FailsWithIo ι) (c : Console Recorder ι Mute)
    {a b : UInt64} (hsum : a.toNat + b.toNat < UInt64.size)
    (hfirst : (c.play (some a)).1 = .ok a.toNat)
    (hquit : ∀ i < a.toNat, (c.draw.2.framed i).frame.1 ≠ .ok .quit) :
    let split := (c.play (some a)).2.play (some b)
    let whole := c.play (some (a + b))
    (∀ n, split.1 = .ok n ↔ whole.1 = .ok (a.toNat + n)) ∧
      (∀ e, split.1 = .error e ↔ whole.1 = .error e) ∧
      whole.2.machine = split.2.machine ∧ whole.2.program = split.2.program ∧
      whole.2.source = split.2.source ∧ whole.2.display.last = split.2.display.last ∧
      ((∀ e, split.1 = .error e → ∃ t, e = .trap t) →
        whole.2.speaker.active = split.2.speaker.active) := by
  intro split whole
  have hgoing : ∀ i < a.toNat, (c.draw.2.framed i).frame.1 = .ok .continue :=
    continue_of_playFrames hfirst hquit
  obtain ⟨hpart, hwhole⟩ := play_of_continue hsum hgoing
  let m := c.draw.2.framed a.toNat
  have hshows : m.Shows := (shows_of_playFrames (shows_of_draw rfl) hpart).congr rfl rfl
  have habreast : Abreast (m.finish a.toNat).2.draw.2 m := ⟨rfl, rfl, rfl, hshows.last_eq⟩
  have hsplit : split = playFrames b.toNat 0 (m.finish a.toNat).2.draw.2 := by
    rw [← play_eq, ← hpart]
  obtain ⟨hanswer, hend⟩ := habreast.playFrames b.toNat 0 a.toNat
  rw [Nat.add_zero, ← hsplit, ← hwhole] at hanswer hend
  have herror : ∀ e, split.1 = .error e ↔ whole.1 = .error e := by
    intro e
    rw [hanswer]
    cases split.1 with
    | error e' => exact Iff.rfl
    | ok n => exact iff_of_false nofun nofun
  refine ⟨?_, herror, hend.machine, hend.program, hend.source, hend.last, ?_⟩
  · intro n
    rw [hanswer]
    cases split.1 with
    | error e => exact iff_of_false nofun nofun
    | ok n' => simp [Except.map]
  · intro htrap
    have hsilent : split.2.speaker.active = false := silent_of_play hsource htrap
    have hsilent' : whole.2.speaker.active = false :=
      silent_of_play hsource fun e he => htrap e ((herror e).2 he)
    rw [hsilent, hsilent']

/-- A program sounds, draws and then returns without a call.  It is restarted after its first frame,
so two frames can be played before the three more of which the last traps.  The picture between
the parts makes one more drawing. -/
theorem play_split_trapped :
    let c : Console Recorder (Faulty Script) Mute :=
      { machine := .powerOn { cyclesPerFrame := 2 } 0
        display := {}
        source := { device := ⟨[[.down 5], [.reset, .quit]]⟩, text := "", failing := [] }
        speaker := {} }
    let program : List UInt8 := [0x60, 0x0A, 0xF0, 0x18, 0xD0, 0x05, 0x60, 0x00, 0x00, 0xEE]
    let loaded := (c.load (.ok program)).2
    let t : Trap := ⟨.stackUnderflow, 0x208, some 0x00EE⟩
    ((loaded.play (some 2)).2.play (some 7)).1 = .error (.trap t) ∧
      (loaded.play (some (2 + 7))).1 = .error (.trap t) ∧
      (loaded.play (some (2 + 7))).2.display.last =
        ((loaded.play (some 2)).2.play (some 7)).2.display.last ∧
      (loaded.play (some (2 + 7))).2.speaker.active =
        ((loaded.play (some 2)).2.play (some 7)).2.speaker.active ∧
      ((loaded.play (some 2)).2.play (some 7)).2.display.drawn = 4 ∧
      (loaded.play (some (2 + 7))).2.display.drawn = 3 := by
  intro c program loaded t
  obtain ⟨hfirst, hquit, htrap, hdrawn, hdrawn'⟩ :
      (loaded.play (some 2)).1 = .ok (2 : UInt64).toNat ∧
        (∀ i < (2 : UInt64).toNat, (loaded.draw.2.framed i).frame.1 ≠ .ok .quit) ∧
        ((loaded.play (some 2)).2.play (some 7)).1 = .error (.trap t) ∧
        ((loaded.play (some 2)).2.play (some 7)).2.display.drawn = 4 ∧
        (loaded.play (some (2 + 7))).2.display.drawn = 3 := by
    decide +kernel
  have hend : ∀ e, ((loaded.play (some 2)).2.play (some 7)).1 = .error e → ∃ t, e = .trap t := by
    intro e he
    exact ⟨t, Except.error.inj (he.symm.trans htrap)⟩
  obtain ⟨-, herror, -, -, -, hlast, hactive⟩ :=
    loaded.play_split EventSource.failsWithIo_script (b := 7) (by decide) hfirst hquit
  exact ⟨htrap, (herror _).1 htrap, hlast, hactive hend, hdrawn, hdrawn'⟩

end Console

end Chip8
