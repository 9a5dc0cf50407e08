import Chip8.Device.Mute
import Chip8.Device.Recorder
import Chip8.Device.Script
import Chip8.Proofs.Bare.Hold
import Chip8.Proofs.HoldTimes

/-!
# Only keys of the keypad

Key codes are bytes from the keystroke to the machine, and the keypad has sixteen keys.  No code
above fifteen gets on the way: a keystroke stands for an entry of the keymap (`told_of_event?`), a
poll tells of keys that were pressed or have a counter (`code_lt_of_mem_poll`), and so the machine
refuses none of them (`frame_ne_invalidKey`).

A counter above zero belongs to a key that has gone down and not come up since
(`Polled.exists_down`), so no key comes up that has not gone down.
-/

namespace Chip8

open Hold

/-! ## Keystrokes -/

namespace Keystroke

theorem code_lt_of_mem_keymap {entry : Char × UInt8} (h : entry ∈ keymap) :
    entry.2.toNat < 16 := by
  have hall : ∀ entry ∈ keymap, entry.2.toNat < 16 := by decide
  exact hall entry h

/-- A terminal can tell all that a keystroke asks for. -/
theorem told_of_event? {k : Keystroke} {e : Event} (h : k.event? = some e) : Told e := by
  rw [event?] at h
  split at h
  · cases h
    exact .inr (.inr rfl)
  · cases h
    exact .inr (.inl rfl)
  · next c _ =>
    split at h
    · cases h
      exact .inr (.inr rfl)
    · obtain ⟨code, hcode, rfl⟩ := Option.map_eq_some_iff.1 h
      obtain ⟨before, behind, hmap, -⟩ := List.lookup_eq_some_iff.1 hcode
      have hmem : (c.toLower, code) ∈ keymap := by
        rw [hmap]
        exact List.mem_append_right _ (.head _)
      have hlt := code_lt_of_mem_keymap hmem
      exact .inl ⟨⟨code.toNat, hlt⟩, key?_downEvent (Keypad.key?_eq_some_iff.2 rfl)⟩
  · cases h

/-- What keystrokes ask for, in their order. -/
def presses (ks : List Keystroke) : List Event := ks.filterMap event?

theorem told_of_mem_presses {ks : List Keystroke} {e : Event} (h : e ∈ presses ks) : Told e := by
  obtain ⟨k, -, hk⟩ := List.mem_filterMap.1 h
  exact told_of_event? hk

end Keystroke

/-! ## Polls -/

namespace Hold

theorem code_lt_of_names {e : Event} {code : UInt8} (hcode : e.Names code)
    (h : Told e ∨ ∃ k : Key, e = upEvent k) : code.toNat < 16 := by
  have hkey : ∀ k : Key, (UInt8.ofNat k).toNat < 16 := fun k => by
    rw [Keypad.key?_eq_some_iff.1 (Keypad.key?_ofNat k)]
    exact k.isLt
  rcases h with (⟨k, rfl⟩ | rfl | rfl) | ⟨k, rfl⟩
  · rcases hcode with h | h
    · cases h
      exact hkey k
    · cases h
  · rcases hcode with h | h <;> cases h
  · rcases hcode with h | h <;> cases h
  · rcases hcode with h | h
    · cases h
    · cases h
      exact hkey k

theorem told_of_mem_passedOn {h : Hold} {presses : List Event} (htold : ∀ e ∈ presses, Told e)
    {e : Event} (he : e ∈ h.passedOn presses) : Told e := by
  obtain ⟨p, hp, rfl⟩ := List.mem_map.1 he
  exact htold _ (List.fst_mem_of_mem_zipIdx (List.mem_of_mem_filter hp))

/-- A poll tells of keys only, whatever the table. -/
theorem code_lt_of_mem_poll {hold hold' : Hold} {presses events : List Event}
    (htold : ∀ e ∈ presses, Told e) (h : hold.poll presses = .ok (events, hold')) {e : Event}
    (he : e ∈ events) {code : UInt8} (hcode : e.Names code) : code.toNat < 16 := by
  obtain ⟨ups, rfl, -, -⟩ := exists_ups_of_poll htold h
  refine code_lt_of_names hcode ?_
  rcases List.mem_append.1 he with he | he
  · exact .inl (told_of_mem_passedOn htold he)
  · obtain ⟨k, -, rfl⟩ := List.mem_map.1 he
    exact .inr ⟨k, rfl⟩

theorem bounded_empty : empty.Bounded := by
  intro k
  rw [count_empty]
  exact Nat.zero_le _

namespace Polled

variable {presses events : Nat → List Event} {hold : Nat → Hold} (h : Polled presses events hold)

include h

theorem bounded (n : Nat) : (hold n).Bounded := by
  induction n with
  | zero =>
    rw [h.start]
    exact bounded_empty
  | succ n ih => exact (poll_bare ih (up_not_mem_of_told (h.told n)) (h.poll n)).1

theorem poll_bare (n : Nat) :
    Bare.Hold.poll (hold n).bare (presses n) = .ok (events n, (hold (n + 1)).bare) :=
  (Hold.poll_bare (h.bounded n) (up_not_mem_of_told (h.told n)) (h.poll n)).2

/-- A key with a counter above zero has gone down and not come up since. -/
theorem exists_down {k : Key} {n : Nat} (hpos : 0 < (hold n).count k) :
    ∃ m < n, downEvent k ∈ events m ∧ ∀ j, m ≤ j → j < n → upEvent k ∉ events j := by
  have hup := fun j => upEvent_mem_of_poll (h.told j) (h.poll j) k
  induction n with
  | zero =>
    rw [h.start, count_empty] at hpos
    cases hpos
  | succ n ih =>
    rw [h.count_succ] at hpos
    by_cases hzero : (hold n).count k = 0
    · -- The counter leaves zero in this poll, so this is where the key goes down.
      have hpressed : downEvent k ∈ presses n := by
        by_contra hnot
        rw [if_neg hnot, hzero] at hpos
        cases hpos
      have hdown : downEvent k ∈ (events n).filter (About k) := by
        rw [about_of_poll (h.told n) (h.poll n), if_pos hpressed, if_pos hzero]
        exact .head _
      refine ⟨n, Nat.lt_succ_self n, List.mem_of_mem_filter hdown, fun j hnj hjn => ?_⟩
      obtain rfl : j = n := by omega
      exact fun hmem => ((hup j).1 hmem).1 hpressed
    · obtain ⟨m, hm, hdown, hsince⟩ := ih (Nat.pos_of_ne_zero hzero)
      refine ⟨m, Nat.lt_succ_of_lt hm, hdown, fun j hmj hjn hmem => ?_⟩
      rcases Nat.lt_succ_iff_lt_or_eq.1 hjn with hlt | rfl
      · exact hsince j hmj hlt hmem
      · obtain ⟨hunpressed, hone⟩ := (hup j).1 hmem
        rw [if_neg hunpressed, hone] at hpos
        cases hpos

end Polled

end Hold

/-! ## Frames -/

namespace Console

variable {δ ι σ : Type} [Display δ] [EventSource ι] [Speaker σ]

/-- Neither the display nor the speaker says that a code names no key. -/
structure KeylessOutput (c : Console δ ι σ) : Prop where
  display : ∀ frame code, (Display.draw c.display frame).1 ≠ .error (.invalidKey code)
  speaker : ∀ active code, (Speaker.setActive c.speaker active).1 ≠ .error (.invalidKey code)

/-- If the events of a frame name keys only, the frame refuses none. -/
theorem frame_ne_invalidKey {c : Console δ ι σ} (hout : c.KeylessOutput) {events : List Event}
    (hpoll : (EventSource.poll c.source).1 = .ok events)
    (hkeys : ∀ e ∈ events, ∀ code, e.Names code → code.toNat < 16) (code : UInt8) :
    c.frame.1 ≠ .error (.invalidKey code) := by
  intro h
  have hf := c.frame_cases
  generalize c.frame = r at h hf
  cases hf with
  | unpolled journal hunpolled =>
    rw [hunpolled] at hpoll
    cases hpoll
  | refused ops journal hpoll' he hcode hnone hdone =>
    rw [hpoll'] at hpoll
    cases hpoll
    have hlt := hkeys _ he _ hcode
    have hge := Keypad.key?_eq_none_iff.1 hnone
    omega
  | tooLong journal hpoll' houtcome hlong => cases h
  | @restarted events source machine r display journal hpoll' houtcome hfits hmachine hdraw =>
    cases r with
    | ok u => cases h
    | error e =>
      cases h
      exact hout.display _ _ (congrArg Prod.fst hdraw)
  | quit journal hpoll' houtcome => cases h
  | @trapped events source t machine r speaker journal hpoll' houtcome hrun hsound =>
    cases r with
    | ok u => cases h
    | error e =>
      cases h
      exact hout.speaker _ _ (congrArg Prod.fst hsound)
  | undrawn journal hpoll' houtcome hrun hdraw =>
    cases h
    exact hout.display _ _ (congrArg Prod.fst hdraw)
  | @ran events source report machine display r speaker journal hpoll' houtcome hrun hdraw hsound =>
    cases r with
    | ok u => cases h
    | error e =>
      cases h
      exact hout.speaker _ _ (congrArg Prod.fst hsound)

/-- The keyboard of a terminal always has an answer, and it tells of keys only. -/
theorem keyboard_poll (k : Keyboard) :
    ∃ events, (EventSource.poll k).1 = .ok events ∧
      ∀ e ∈ events, ∀ code, e.Names code → code.toNat < 16 := by
  have htold : ∀ e ∈ k.presses, Told e := fun e he => Keystroke.told_of_mem_presses he
  have hsame : k.take.2.hold = k.hold := Keyboard.hold_takeUpTo _ k
  obtain ⟨⟨events, hold⟩, hpoll⟩ := k.hold.exists_poll htold
  refine ⟨events, ?_, fun e he code hcode => code_lt_of_mem_poll htold hpoll he hcode⟩
  have htaken : k.take.2.hold.poll (k.take.1.filterMap Keystroke.event?) = .ok (events, hold) := by
    rw [hsame]
    exact hpoll
  show k.poll.1 = _
  rw [Keyboard.poll]
  dsimp only
  rw [htaken]

/-- No keystroke stands for a code that names no key.  Whatever is struck in the polls of a
terminal, they all succeed.  Counters that are looked up by the codes of the presses are always
found, and no poll takes one from a counter of zero, so the counters of the bare table are those of
the hold table; none is above eight.  What a poll tells of are keys, and a key that comes up has
gone down in an earlier poll and has not come up since.  Whatever state a console is in when it is
told that, its frame does not answer that a code names no key, unless its display or its speaker
says so.  In particular no frame of a console with the keyboard of a terminal does. -/
theorem only_keys_of_keypad :
    (∀ (k : Keystroke) code, k.event? = some (.down code) → code.toNat < 16) ∧
    (∀ strokes : Nat → List Keystroke,
      ∃ (events : Nat → List Event) (hold : Nat → Hold) (counters : Nat → List UInt8),
        hold 0 = .empty ∧ counters 0 = List.replicate 16 0 ∧ ∀ n,
          (hold n).poll (Keystroke.presses (strokes n)) = .ok (events n, hold (n + 1)) ∧
          Bare.Hold.poll (counters n) (Keystroke.presses (strokes n)) =
            .ok (events n, counters (n + 1)) ∧
          counters n = (hold n).bare ∧ (∀ counter ∈ counters n, counter ≤ 8) ∧
          (∀ code, .down code ∈ events n → code.toNat < 16) ∧
          (∀ code, .up code ∈ events n → code.toNat < 16 ∧
            ∃ m < n, .down code ∈ events m ∧ ∀ j, m ≤ j → j < n → .up code ∉ events j) ∧
          ∀ c : Console δ ι σ, c.KeylessOutput → (EventSource.poll c.source).1 = .ok (events n) →
            ∀ code, c.frame.1 ≠ .error (.invalidKey code)) ∧
    ∀ c : Console δ Keyboard σ, c.KeylessOutput → ∀ code,
      c.frame.1 ≠ .error (.invalidKey code) := by
  refine ⟨fun k code h => ?_, fun strokes => ?_, fun c hout code => ?_⟩
  · exact code_lt_of_names (.inl rfl) (.inl (Keystroke.told_of_event? h))
  · have htold : ∀ n, ∀ e ∈ Keystroke.presses (strokes n), Told e :=
      fun n e he => Keystroke.told_of_mem_presses he
    obtain ⟨events, hold, h⟩ := exists_polled htold
    have hkeys : ∀ n, ∀ e ∈ events n, ∀ code, e.Names code → code.toNat < 16 :=
      fun n e he code => code_lt_of_mem_poll (h.told n) (h.poll n) he
    refine ⟨events, hold, fun n => (hold n).bare, h.start, ?_, fun n => ⟨h.poll n, h.poll_bare n,
      rfl, ?_, fun code hdown => hkeys n _ hdown _ (.inl rfl), fun code hup => ?_,
      fun c hout hpoll => frame_ne_invalidKey hout hpoll (hkeys n)⟩⟩
    · dsimp only
      rw [h.start]
      decide
    · intro counter hcounter
      obtain ⟨k, -, rfl⟩ := List.mem_map.1 hcounter
      rw [UInt8.le_iff_toNat_le, toNat_counter (h.bounded n) k]
      exact h.bounded n k
    · have hlt := hkeys n _ hup _ (.inr rfl)
      obtain ⟨k, hk⟩ : ∃ k : Key, UInt8.ofNat k = code := ⟨⟨code.toNat, hlt⟩, UInt8.ofNat_toNat⟩
      subst hk
      -- The key comes up because its counter was one.
      obtain ⟨-, hone⟩ := (upEvent_mem_of_poll (h.told n) (h.poll n) k).1 hup
      exact ⟨hlt, h.exists_down (hone ▸ Nat.one_pos)⟩
  · obtain ⟨events, hpoll, hkeys⟩ := keyboard_poll c.source
    exact frame_ne_invalidKey hout hpoll hkeys code

/-- An accented letter, Control-Q, the Kelvin sign and Control-C are struck in the first poll and
nothing later.  That is a key and the wish to stop, and the key comes up eight polls later. -/
theorem only_keys_of_keypad_struck_once :
    let struck : List Keystroke := [⟨.char 'é', {}⟩, ⟨.char 'Q', { control := true }⟩,
      ⟨.char '\u212a', {}⟩, ⟨.char 'c', { control := true }⟩]
    let strokes : Nat → List Keystroke := ([struck].getD · [])
    let c : Console Recorder Script Mute :=
      { machine := .powerOn {} 0, display := {}, source := ⟨[[.down 4, .quit]]⟩, speaker := {} }
    let d : Console Recorder Keyboard Mute :=
      { machine := .powerOn {} 0, display := {}, source := { inbox := struck.map .keystroke },
        speaker := {} }
    (⟨.char 'Q', { control := true }⟩ : Keystroke).event? = some (.down 4) ∧
    (4 : UInt8).toNat < 16 ∧
    ∃ (events : Nat → List Event) (hold : Nat → Hold), hold 0 = .empty ∧
      (∀ n, (hold n).poll (Keystroke.presses (strokes n)) = .ok (events n, hold (n + 1))) ∧
      events 0 = [.down 4, .quit] ∧ .up 4 ∈ events 8 ∧ (∃ m < 8, .down 4 ∈ events m) ∧
      c.KeylessOutput ∧ (EventSource.poll c.source).1 = .ok (events 0) ∧
      (∀ code, c.frame.1 ≠ .error (.invalidKey code)) ∧
      d.KeylessOutput ∧ ∀ code, d.frame.1 ≠ .error (.invalidKey code) := by
  intro struck strokes c d
  obtain ⟨hcode, hpolls, hkeyboard⟩ := only_keys_of_keypad (δ := Recorder) (ι := Script) (σ := Mute)
  obtain ⟨events, hold, counters, hstart, -, h⟩ := hpolls strokes
  have hpolled : Polled (fun n => Keystroke.presses (strokes n)) events hold :=
    ⟨hstart, fun n e he => Keystroke.told_of_mem_presses he, fun n => (h n).1⟩
  have hfirst : events 0 = [.down 4, .quit] := by
    have hpoll : Hold.empty.poll (Keystroke.presses struck) =
        .ok ([.down 4, .quit], (Hold.empty.refresh 4).age [4]) := rfl
    have hzero := (h 0).1
    rw [hstart] at hzero
    exact (congrArg Prod.fst (Except.ok.inj (hpoll.symm.trans hzero))).symm
  have hlast : LastPressed (fun n => Keystroke.presses (strokes n)) 4 0 8 := by
    have hsince : ∀ j < 9, 0 < j → downEvent 4 ∉ Keystroke.presses (strokes j) := by decide
    exact ⟨Nat.zero_le 8, by decide, fun j hj hjn => hsince j (by omega) hj⟩
  have hup : .up 4 ∈ events 8 :=
    (upEvent_mem_of_poll (hpolled.told 8) (hpolled.poll 8) 4).2
      (hpolled.expires_iff.2 ⟨0, rfl, hlast⟩)
  have hc : c.KeylessOutput := ⟨fun _ _ => nofun, fun _ _ => nofun⟩
  have hd : d.KeylessOutput := ⟨fun _ _ => nofun, fun _ _ => nofun⟩
  have hsource : (EventSource.poll c.source).1 = .ok (events 0) := by
    rw [hfirst]
    rfl
  obtain ⟨-, -, -, -, -, -, hframe⟩ := h 0
  obtain ⟨-, -, -, -, -, hcomes, -⟩ := h 8
  obtain ⟨-, m, hm, hdown, -⟩ := hcomes 4 hup
  have hstruck : (⟨.char 'Q', { control := true }⟩ : Keystroke).event? = some (.down 4) := by decide
  exact ⟨hstruck, hcode _ 4 hstruck, events, hold, hstart, fun n => (h n).1, hfirst, hup,
    ⟨m, hm, hdown⟩, hc, hsource, hframe c hc hsource, hd, hkeyboard d hd⟩

end Console

end Chip8
