import Chip8.Device.Mute
import Chip8.Device.Recorder
import Chip8.Keyboard
import Chip8.Proofs.Cycle
import Chip8.Proofs.Framing
import Chip8.Proofs.Reachability

/-!
# Which keys are held

Two sides remember which keys are held: the machine by its keypad and a terminal's keyboard by
its hold table.  They are kept in step by events alone, one when a counter leaves zero and one
when it comes back to zero.  A restart releases all keys of the keypad behind the back of the
hold table, and drops what else its poll told of.  So the two are of one mind about a key
unless it counts as held and its counter has not been zero since the last restart
(`isPressed_iff_counted`).
-/

namespace Chip8

/-! ## Events and the keypad -/

namespace Keypad

/-- The keypad after an event, the same if that is about no key. -/
def heed (keypad : Keypad) : Event → Keypad
  | .down code => (key? code).elim keypad keypad.press
  | .up code => (key? code).elim keypad keypad.release
  | .reset => keypad
  | .quit => keypad

theorem heed_down {keypad : Keypad} {code : UInt8} {k : Key} (h : key? code = some k) :
    keypad.heed (.down code) = keypad.press k := by
  rw [heed, h]
  rfl

theorem heed_control {keypad : Keypad} {e : Event} (h : e.control? ≠ none) :
    keypad.heed e = keypad := by
  cases e with
  | down code => exact absurd rfl h
  | up code => exact absurd rfl h
  | reset => rfl
  | quit => rfl

theorem key?_ofNat (k : Key) : key? (UInt8.ofNat k) = some k := by
  refine key?_eq_some_iff.2 ?_
  have := k.isLt
  rw [UInt8.toNat_ofNat']
  omega

theorem isPressed_ofNat (keypad : Keypad) (k : Key) :
    keypad.isPressed (UInt8.ofNat k) = keypad.held.get k := by
  rw [isPressed, key?_ofNat]
  rfl

end Keypad

namespace Machine

theorem keypad_keyDown (m : Machine) (code : UInt8) :
    (m.keyDown code).2.keypad = m.keypad.heed (.down code) := by
  rw [Keypad.heed]
  rcases m.keyDown_cases code with ⟨hnone, hk⟩ | ⟨key, hsome, ⟨x, -, hk⟩ | ⟨-, hk⟩⟩
  · rw [hk, hnone]
    rfl
  · rw [hk, hsome]
    rfl
  · rw [hk, hsome]
    rfl

theorem keypad_keyUp (m : Machine) (code : UInt8) :
    (m.keyUp code).2.keypad = m.keypad.heed (.up code) := by
  rw [Keypad.heed]
  rcases m.keyUp_cases code with ⟨hnone, hk⟩ | ⟨key, hsome, hk⟩
  · rw [hk, hnone]
    rfl
  · rw [hk, hsome]
    rfl

/-- If a batch asks for nothing, the machine heeds all of its events. -/
theorem keypad_run_keyOperations (m : Machine) {events : List Event}
    (h : Event.outcome events = none) :
    (m.run (Event.keyOperations events)).keypad = events.foldl Keypad.heed m.keypad := by
  induction events generalizing m with
  | nil => rfl
  | cons e rest ih =>
    cases e with
    | down code =>
      show ((m.keyDown code).2.run (Event.keyOperations rest)).keypad = _
      rw [ih _ h, keypad_keyDown]
      rfl
    | up code =>
      show ((m.keyUp code).2.run (Event.keyOperations rest)).keypad = _
      rw [ih _ h, keypad_keyUp]
      rfl
    | reset => cases h
    | quit => cases h

theorem keypad_runFrame (m : Machine) : m.runFrame.2.keypad = m.keypad :=
  frameSteps_keeps (P := fun w => w.keypad = m.keypad)
    (fun {w} hw => (keypad_step w).trans hw) (fun hw => hw) _ _ rfl

end Machine

/-! ## Presses and the hold table -/

namespace Hold

/-- `Pressing hold presses events hold' pressed` says that taking the presses of a poll yields these
events, this table and these keys. -/
inductive Pressing : Hold → List Event → List Event → Hold → List Key → Prop where
  | nil {hold : Hold} : Pressing hold [] [] hold []
  /-- A key goes down, unless it is held already, and is pressed. -/
  | down {hold hold' : Hold} {code : UInt8} {k : Key} {rest events : List Event}
      {pressed : List Key} :
      Keypad.key? code = some k →
      Pressing (hold.refresh k) rest events hold' pressed →
      Pressing hold (.down code :: rest)
        (if hold.count k = 0 then .down code :: events else events) hold' (k :: pressed)
  /-- What asks something of the console is passed on. -/
  | control {hold hold' : Hold} {e : Event} {rest events : List Event} {pressed : List Key} :
      e.control? ≠ none →
      Pressing hold rest events hold' pressed →
      Pressing hold (e :: rest) (e :: events) hold' pressed

theorem pressing_of_press {hold : Hold} {presses : List Event} (hup : ∀ code, .up code ∉ presses)
    {events : List Event} {hold' : Hold} {pressed : List Key}
    (h : hold.press presses = .ok (events, hold', pressed)) :
    Pressing hold presses events hold' pressed := by
  induction presses generalizing hold events pressed with
  | nil =>
    cases h
    exact .nil
  | cons e rest ih =>
    have hrest : ∀ code, .up code ∉ rest := fun code hmem => hup code (.tail _ hmem)
    cases e with
    | up code => exact absurd (.head _) (hup code)
    | down code =>
      rw [press] at h
      cases hk : Keypad.key? code with
      | none =>
        rw [hk] at h
        cases h
      | some k =>
        rw [hk] at h
        obtain ⟨⟨events₁, hold₁, pressed₁⟩, hpress, h⟩ := bind_eq_ok_iff.1 h
        cases h
        exact .down hk (ih hrest hpress)
    | reset =>
      obtain ⟨⟨events₁, hold₁, pressed₁⟩, hpress, h⟩ := bind_eq_ok_iff.1 h
      cases h
      exact .control nofun (ih hrest hpress)
    | quit =>
      obtain ⟨⟨events₁, hold₁, pressed₁⟩, hpress, h⟩ := bind_eq_ok_iff.1 h
      cases h
      exact .control nofun (ih hrest hpress)

namespace Pressing

variable {hold hold' : Hold} {presses events : List Event} {pressed : List Key}

theorem mem_reset (h : Pressing hold presses events hold' pressed) :
    .reset ∈ events ↔ .reset ∈ presses := by
  induction h with
  | nil => exact Iff.rfl
  | down hk hrest ih =>
    split
    · simp [ih]
    · simp [ih]
  | control he hrest ih => simp [ih]

/-- Every press winds its counter up, and the other counters stay. -/
theorem count (h : Pressing hold presses events hold' pressed) (j : Key) :
    (j ∈ pressed ∧ hold'.count j = frames) ∨ (j ∉ pressed ∧ hold'.count j = hold.count j) := by
  induction h with
  | nil => exact .inr ⟨List.not_mem_nil, rfl⟩
  | @down hold hold' code k rest events pressed hk hrest ih =>
    rw [count_refresh] at ih
    by_cases hj : j = k
    · rw [if_pos hj] at ih
      exact .inl ⟨List.mem_cons.2 (.inl hj), ih.elim And.right And.right⟩
    · rw [if_neg hj] at ih
      simpa [hj] using ih
  | control he hrest ih => exact ih

/-- A key that does not count as held yet goes down. -/
theorem held (h : Pressing hold presses events hold' pressed) (keypad : Keypad) (j : Key) :
    (events.foldl Keypad.heed keypad).held.get j = true ↔
      keypad.held.get j = true ∨ (j ∈ pressed ∧ hold.count j = 0) := by
  induction h generalizing keypad with
  | nil => simp
  | @down hold hold' code k rest events pressed hk hrest ih =>
    by_cases hzero : hold.count k = 0
    · rw [if_pos hzero, List.foldl_cons, Keypad.heed_down hk, ih, Keypad.held_press, count_refresh]
      by_cases hj : j = k
      · simp [hj, hzero]
      · simp [hj]
    · rw [if_neg hzero, ih, count_refresh]
      by_cases hj : j = k
      · simp [hj, hzero, frames]
      · simp [hj]
  | control he hrest ih => rw [List.foldl_cons, Keypad.heed_control he, ih]

end Pressing

/-- The keys that come up are held no more. -/
theorem held_upEvents (keypad : Keypad) (ks : List Key) (j : Key) :
    ((ks.map upEvent).foldl Keypad.heed keypad).held.get j = true ↔
      keypad.held.get j = true ∧ j ∉ ks := by
  induction ks generalizing keypad with
  | nil => simp
  | cons k ks ih =>
    have hup : keypad.heed (upEvent k) = keypad.release k := by
      rw [upEvent, Keypad.heed, Keypad.key?_ofNat]
      rfl
    rw [List.map_cons, List.foldl_cons, hup, ih, Keypad.held_release]
    by_cases hj : j = k
    · simp [hj]
    · simp [hj]

section Poll

variable {hold hold' : Hold} {presses events : List Event}
  (hup : ∀ code, .up code ∉ presses) (h : hold.poll presses = .ok (events, hold'))

include hup h

theorem pressing_of_poll :
    ∃ opening hold₁ pressed, Pressing hold presses opening hold₁ pressed ∧
      events = opening ++ (hold₁.expiring pressed).map upEvent ∧ hold' = hold₁.age pressed := by
  obtain ⟨⟨opening, hold₁, pressed⟩, hpress, h⟩ := bind_eq_ok_iff.1 h
  cases h
  exact ⟨opening, hold₁, pressed, pressing_of_press hup hpress, rfl, rfl⟩

theorem mem_reset_of_poll : .reset ∈ events ↔ .reset ∈ presses := by
  obtain ⟨opening, hold₁, pressed, hpressing, rfl, -⟩ := pressing_of_poll hup h
  rw [List.mem_append, hpressing.mem_reset]
  simp [upEvent]

/-- A poll tells of a key, which goes down if it was not held, or does not tell of it, and then the
key comes up if its counter runs out. -/
theorem poll_cases (keypad : Keypad) (j : Key) :
    (hold'.count j = frames ∧
      ((events.foldl Keypad.heed keypad).held.get j = true ↔
        keypad.held.get j = true ∨ hold.count j = 0)) ∨
    (hold'.count j = hold.count j - 1 ∧
      ((events.foldl Keypad.heed keypad).held.get j = true ↔
        keypad.held.get j = true ∧ hold.count j ≠ 1)) := by
  obtain ⟨opening, hold₁, pressed, hpressing, rfl, rfl⟩ := pressing_of_poll hup h
  rw [List.foldl_append, held_upEvents, hpressing.held, mem_expiring]
  rcases hpressing.count j with ⟨hj, hcount⟩ | ⟨hj, hcount⟩
  · refine .inl ⟨?_, by simp [hj]⟩
    rw [count_age_of_mem _ hj, hcount]
  · refine .inr ⟨?_, by simp [hj, hcount]⟩
    rw [count_age_of_not_mem _ hj, hcount]

end Poll

/-! ## Polls in a row -/

/-- Since each of the first `n` polls that told of a reset, the counter of the key was zero once. -/
def Recounted (hold : Nat → Hold) (presses : Nat → List Event) (k : Key) (n : Nat) : Prop :=
  ∀ i < n, .reset ∈ presses i → ∃ j, i < j ∧ j ≤ n ∧ (hold j).count k = 0

section Recounted

variable {hold : Nat → Hold} {presses : Nat → List Event} {k : Key} {n : Nat}

theorem recounted_of_count_eq_zero (h : (hold n).count k = 0) : Recounted hold presses k n :=
  fun _ hi _ => ⟨n, hi, Nat.le_refl n, h⟩

theorem not_recounted_of_mem_reset (hreset : .reset ∈ presses n)
    (h : (hold (n + 1)).count k ≠ 0) : ¬ Recounted hold presses k (n + 1) := by
  intro hre
  obtain ⟨j, hnj, hj, hzero⟩ := hre n (Nat.lt_succ_self n) hreset
  have hlast : j = n + 1 := by omega
  exact h (hlast ▸ hzero)

/-- A poll that neither tells of a reset nor leaves the counter at zero makes no difference. -/
theorem recounted_succ (hreset : .reset ∉ presses n) (h : (hold (n + 1)).count k ≠ 0) :
    Recounted hold presses k (n + 1) ↔ Recounted hold presses k n := by
  constructor
  · intro hre i hi hmem
    obtain ⟨j, hij, hj, hzero⟩ := hre i (by omega) hmem
    have hlast : j ≠ n + 1 := by
      rintro rfl
      exact h hzero
    exact ⟨j, hij, by omega, hzero⟩
  · intro hre i hi hmem
    have hne : i ≠ n := by
      rintro rfl
      exact hreset hmem
    obtain ⟨j, hij, hj, hzero⟩ := hre i (by omega) hmem
    exact ⟨j, hij, by omega, hzero⟩

end Recounted

/-- Keypad and hold table are of one mind about which keys are held. -/
def Agrees (hold : Hold) (keypad : Keypad) : Prop :=
  ∀ k : Key, keypad.isPressed (UInt8.ofNat k) = true ↔ hold.count k ≠ 0

end Hold

namespace Keyboard

/-! ## The presses of a keyboard -/

/-- What the next poll takes from what was typed. -/
def presses (k : Keyboard) : List Event := k.take.1.filterMap Keystroke.event?

/-- A terminal does not tell when a key comes up. -/
theorem up_not_mem_presses (k : Keyboard) (code : UInt8) : .up code ∉ k.presses := by
  intro hmem
  obtain ⟨stroke, -, hstroke⟩ := List.mem_filterMap.1 hmem
  rw [Keystroke.event?] at hstroke
  split at hstroke
  · cases hstroke
  · cases hstroke
  · split at hstroke
    · cases hstroke
    · obtain ⟨key, -, hkey⟩ := Option.map_eq_some_iff.1 hstroke
      cases hkey
  · cases hstroke

theorem hold_read (n : Nat) (k : Keyboard) : (read n k).hold = k.hold := by
  induction n generalizing k with
  | zero => rfl
  | succ n ih =>
    rw [read]
    split
    · exact ih k.readOnce
    · rfl

theorem hold_takeUpTo (n : Nat) (k : Keyboard) : (takeUpTo n k).2.hold = k.hold := by
  induction n generalizing k with
  | zero =>
    unfold takeUpTo
    cases untilCursor k.inbox with
    | mk ks behind =>
      cases behind with
      | none => rfl
      | some rest => rfl
  | succ n ih =>
    unfold takeUpTo
    cases untilCursor k.inbox with
    | mk ks behind =>
      cases behind with
      | some rest => rfl
      | none =>
        dsimp only
        split
        · exact (ih _).trans (hold_read _ _)
        · rfl

/-- A poll passes what it takes through the hold table. -/
theorem hold_poll {k k' : Keyboard} {events : List Event} (h : k.poll = (.ok events, k')) :
    k.hold.poll k.presses = .ok (events, k'.hold) := by
  have hhold : k.take.2.hold = k.hold := hold_takeUpTo _ k
  rw [poll] at h
  rw [presses, ← hhold]
  generalize k.take = taken at h ⊢
  dsimp only at h
  split at h
  · cases h
  · next hpoll =>
    cases h
    exact hpoll

end Keyboard

/-! ## The console and its keyboard -/

namespace Console

variable {δ ι σ : Type} [Display δ] [EventSource ι] [Speaker σ]

/-- A frame after which the console goes on, and in which its source told of presses what a hold
table makes of them.  Until the next frame all but the machine may change. -/
structure Attends (c : Console δ ι σ) (hold : Hold) (presses : List Event)
    (c' : Console δ ι σ) (hold' : Hold) : Prop where
  no_up : ∀ code, .up code ∉ presses
  poll : hold.poll presses = .ok (c.nextEvents, hold')
  frame : c.frame.1 = .ok .continue
  machine : c'.machine = c.frame.2.machine

/-- A restart releases all keys.  Else the keypad heeds the events of the poll, and the machine
leaves it alone. -/
theorem Attends.keypad {c c' : Console δ ι σ} {hold hold' : Hold} {presses : List Event}
    (h : c.Attends hold presses c' hold') :
    (.reset ∈ presses ∧ c'.machine.keypad = .released) ∨
    (.reset ∉ presses ∧
      c'.machine.keypad = c.nextEvents.foldl Keypad.heed c.machine.keypad) := by
  have hreset := Hold.mem_reset_of_poll h.no_up h.poll
  have hframe : c.frame = (.ok .continue, c.frame.2) := by rw [← h.frame]
  rw [← hreset, h.machine]
  cases succeeding_of_frame hframe with
  | restarted houtcome hbooted hdraw hspeaker =>
    rw [hbooted]
    exact .inl ⟨Event.mem_reset_of_outcome houtcome, rfl⟩
  | ran houtcome hrun hdraw hsound =>
    refine .inr ⟨Event.not_mem_reset_of_outcome houtcome, ?_⟩
    have hkeypad := (c.machine.run (Event.keyOperations c.nextEvents)).keypad_runFrame
    rw [hrun, c.machine.keypad_run_keyOperations houtcome] at hkeypad
    exact hkeypad

section Run

variable {c : Nat → Console δ ι σ} {hold : Nat → Hold} {presses : Nat → List Event}

/-- One more frame: if the keypad has held a key exactly if it counts as held and has been
recounted, then it still does. -/
theorem held_succ {k : Key} {n : Nat}
    (h : (c n).Attends (hold n) (presses n) (c (n + 1)) (hold (n + 1)))
    (hbefore : (c n).machine.keypad.held.get k = true ↔
      (hold n).count k ≠ 0 ∧ Hold.Recounted hold presses k n) :
    (c (n + 1)).machine.keypad.held.get k = true ↔
      (hold (n + 1)).count k ≠ 0 ∧ Hold.Recounted hold presses k (n + 1) := by
  rcases h.keypad with ⟨hmem, hreleased⟩ | ⟨hmem, hheeds⟩
  · -- After a restart the keypad holds nothing, and no counter can have been zero since.
    rw [hreleased, Keypad.held_released]
    refine ⟨nofun, fun ⟨hcount, hre⟩ => ?_⟩
    exact absurd hre (Hold.not_recounted_of_mem_reset hmem hcount)
  · rw [hheeds]
    rcases Hold.poll_cases h.no_up h.poll (c n).machine.keypad k with
      ⟨hcount, hheld⟩ | ⟨hcount, hheld⟩
    · have hne : (hold (n + 1)).count k ≠ 0 := by
        rw [hcount]
        decide
      rw [hheld, hbefore, Hold.recounted_succ hmem hne]
      by_cases hzero : (hold n).count k = 0
      · have hre : Hold.Recounted hold presses k n := Hold.recounted_of_count_eq_zero hzero
        exact ⟨fun _ => ⟨hne, hre⟩, fun _ => .inr hzero⟩
      · exact ⟨fun h => ⟨hne, (h.resolve_right hzero).2⟩, fun h => .inl ⟨hzero, h.2⟩⟩
    · rw [hheld, hbefore]
      constructor
      · rintro ⟨⟨hzero, hre⟩, hone⟩
        have hne : (hold (n + 1)).count k ≠ 0 := by omega
        exact ⟨hne, (Hold.recounted_succ hmem hne).2 hre⟩
      · rintro ⟨hne, hre⟩
        exact ⟨⟨by omega, (Hold.recounted_succ hmem hne).1 hre⟩, by omega⟩

variable (hkeypad : (c 0).machine.keypad = .released) (hempty : hold 0 = .empty)

include hkeypad hempty

/-- From a keypad and a hold table that hold nothing, the keypad always holds a key exactly if it
counts as held and has been recounted. -/
theorem held_iff_recounted (k : Key) {n : Nat}
    (hattends : ∀ i < n, (c i).Attends (hold i) (presses i) (c (i + 1)) (hold (i + 1))) :
    (c n).machine.keypad.held.get k = true ↔
      (hold n).count k ≠ 0 ∧ Hold.Recounted hold presses k n := by
  induction n with
  | zero =>
    rw [hkeypad, hempty]
    simp
  | succ n ih =>
    have hbefore := ih fun i hi => hattends i (by omega)
    exact held_succ (hattends n (Nat.lt_succ_self n)) hbefore

/-- Keypad and hold table start out with no key held.  From then on, as long as the console goes on,
the keypad reports a key exactly if the key counts as held and its counter was zero once since
each restart.  So the two are of one mind all the time exactly if every restart comes with no
key that counts as held. -/
theorem isPressed_iff_counted {n : Nat}
    (hattends : ∀ i < n, (c i).Attends (hold i) (presses i) (c (i + 1)) (hold (i + 1))) :
    (∀ k : Key, (c n).machine.keypad.isPressed (UInt8.ofNat k) = true ↔
      (hold n).count k ≠ 0 ∧
        ∀ i < n, .reset ∈ presses i → ∃ j, i < j ∧ j ≤ n ∧ (hold j).count k = 0) ∧
    ((∀ i ≤ n, (hold i).Agrees (c i).machine.keypad) ↔
      ∀ i < n, .reset ∈ presses i → ∀ k, (hold (i + 1)).count k = 0) := by
  have hheld := fun (k : Key) (i : Nat) (hi : i ≤ n) =>
    held_iff_recounted hkeypad hempty k fun j (hj : j < i) => hattends j (by omega)
  refine ⟨?_, ?_, ?_⟩
  · intro k
    rw [Keypad.isPressed_ofNat]
    exact hheld k n (Nat.le_refl n)
  · intro hagrees i hi hmem k
    by_contra hne
    -- The key counts as held, so the keypad holds it, which is what a restart excludes.
    have hpressed := (hagrees (i + 1) hi k).2 hne
    rw [Keypad.isPressed_ofNat, hheld k (i + 1) hi] at hpressed
    exact Hold.not_recounted_of_mem_reset hmem hne hpressed.2
  · intro hzero i hi k
    rw [Keypad.isPressed_ofNat, hheld k i hi]
    refine ⟨And.left, fun hne => ⟨hne, ?_⟩⟩
    intro j hj hmem
    exact ⟨j + 1, Nat.lt_succ_self j, hj, hzero j (by omega) hmem k⟩

end Run

/-! ## Typing at a console -/

/-- The console before its frame `n`, if `texts i` is typed at its keyboard before frame `i`. -/
def typed (c : Console δ Keyboard σ) (texts : Nat → String) : (n : Nat) → Console δ Keyboard σ
  | 0 => { c with source := c.source.type (texts 0) }
  | n + 1 =>
    let c' := (c.typed texts n).frame.2
    { c' with source := c'.source.type (texts (n + 1)) }

theorem attends_typed {c : Console δ Keyboard σ} {texts : Nat → String} {n : Nat}
    (h : (c.typed texts n).frame.1 = .ok .continue) :
    (c.typed texts n).Attends (c.typed texts n).source.hold (c.typed texts n).source.presses
      (c.typed texts (n + 1)) (c.typed texts (n + 1)).source.hold where
  no_up := Keyboard.up_not_mem_presses _
  poll := by
    -- What is typed next leaves the hold table as this poll has left it.
    have hpoll := Keyboard.hold_poll (poll_of_frame h)
    exact hpoll
  frame := h
  machine := rfl

/-- Somebody restarts the program, presses a key in the next frame, and in the one after that
restarts it again and presses another key.  The keypad reports the first key and then neither,
while both count as held. -/
theorem isPressed_iff_counted_typed :
    let fresh : Console Recorder Keyboard Mute :=
      { machine := .powerOn { cyclesPerFrame := 2 } 0, display := {}, source := {}, speaker := {} }
    let c := (fresh.load (.ok [0x12, 0x00])).2.typed (["\x7f", "q", "\x7f1"].getD · "")
    (∀ i < 3, (c i).Attends (c i).source.hold (c i).source.presses (c (i + 1))
      (c (i + 1)).source.hold) ∧
    (c 2).machine.keypad.isPressed 4 = true ∧
    (c 3).machine.keypad.isPressed 4 = false ∧ (c 3).source.hold.count 4 = 7 ∧
    (c 3).machine.keypad.isPressed 1 = false ∧ (c 3).source.hold.count 1 = 8 := by
  intro fresh c
  obtain ⟨hframes, hquiet, hfree, hheld, hagain, hfirst, hsecond⟩ :
      (∀ i < 3, (c i).frame.1 = .ok .continue) ∧ .reset ∉ (c 1).source.presses ∧
        (c 1).source.hold.count 4 = 0 ∧ (c 2).source.hold.count 4 = 8 ∧
        .reset ∈ (c 2).source.presses ∧
        (c 3).source.hold.count 4 = 7 ∧ (c 3).source.hold.count 1 = 8 := by decide +kernel
  have hattends : ∀ i < 3, (c i).Attends (c i).source.hold (c i).source.presses (c (i + 1))
      (c (i + 1)).source.hold := fun i hi => attends_typed (hframes i hi)
  have hkeypad : (c 0).machine.keypad = .released := rfl
  have hempty : (c 0).source.hold = .empty := rfl
  clear_value c
  obtain ⟨hbefore, -⟩ := isPressed_iff_counted hkeypad hempty fun i (hi : i < 2) =>
    hattends i (by omega)
  obtain ⟨hafter, -⟩ := isPressed_iff_counted hkeypad hempty hattends
  -- What counts as held after the second restart has not been recounted.
  have hreleased : ∀ k : Key, (c 3).source.hold.count k ≠ 0 →
      (c 3).machine.keypad.isPressed (UInt8.ofNat k) = false := by
    intro k hk
    refine Bool.eq_false_iff.2 fun hpressed => ?_
    obtain ⟨-, hre⟩ := (hafter k).1 hpressed
    have hnot : ¬ Hold.Recounted (fun i => (c i).source.hold) (fun i => (c i).source.presses) k 3 :=
      Hold.not_recounted_of_mem_reset hagain hk
    exact hnot hre
  refine ⟨hattends, (hbefore 4).2 ⟨?_, ?_⟩, hreleased 4 ?_, hfirst, hreleased 1 ?_, hsecond⟩
  · rw [hheld]
    decide
  · intro i hi hmem
    cases i with
    | zero => exact ⟨1, by decide, by decide, hfree⟩
    | succ i =>
      cases i with
      | zero => exact absurd hmem hquiet
      | succ i => omega
  · rw [hfirst]
    decide
  · rw [hsecond]
    decide

/-- Somebody restarts the program and presses a key before the next frame.  The frame succeeds, the
key counts as held, and the keypad does not know of it. -/
theorem not_pressed_of_counted :
    let fresh : Console Recorder Keyboard Mute :=
      { machine := .powerOn {} 0, display := {}, source := {}, speaker := {} }
    let c := (fresh.load (.ok [0x12, 0x00])).2.typed fun _ => "\x7fq"
    (c 0).machine.keypad = .released ∧ (c 0).source.hold = .empty ∧
      (c 0).source.presses = [.reset, .down 4] ∧ (c 0).frame.1 = .ok .continue ∧
      (c 1).source.hold.count 4 = 8 ∧ (c 1).machine.keypad.isPressed 4 = false := by
  decide +kernel

end Console

end Chip8
