import Mathlib.Logic.Function.Iterate
import Chip8.Proofs.Loading

/-!
# What a frame of the console can do

A batch of events is a row of key events up to the first event that asks something of the
console itself, a reset or a quit, and what comes behind that event is not looked at.  So
two things are known of a batch before anybody deals with it: what it does to the machine
(`Event.keyOperations`) and what it asks for (`Event.outcome`).

`Framing c` lists the ways in which a frame of the console `c` can go, with all that it leaves
behind but the journal, and `frame_cases` says that there are no others.  Facts on frames are
proved by cases on them.
-/

namespace Chip8

namespace Event

/-! ## Batches -/

/-- What an event asks of the console, if it is not about a key. -/
def control? : Event → Option Control
  | .down _ => none
  | .up _ => none
  | .reset => some .continue
  | .quit => some .quit

/-- What a batch asks of the console: the first event that asks for something decides. -/
def outcome (events : List Event) : Option Control := events.findSome? control?

/-- What a batch makes the machine do, up to the first event that is not about a key. -/
def keyOperations : List Event → List Operation
  | .down code :: rest => .keyDown code :: keyOperations rest
  | .up code :: rest => .keyUp code :: keyOperations rest
  | _ => []

theorem mem_reset_of_outcome {events : List Event} (h : outcome events = some .continue) :
    .reset ∈ events := by
  obtain ⟨e, he, hcontrol⟩ := List.exists_of_findSome?_eq_some h
  cases e with
  | reset => exact he
  | down code => cases hcontrol
  | up code => cases hcontrol
  | quit => cases hcontrol

theorem not_mem_reset_of_outcome {events : List Event} (h : outcome events = none) :
    .reset ∉ events := by
  intro hreset
  have hcontrol := List.findSome?_eq_none_iff.1 h .reset hreset
  cases hcontrol

/-- The event is about a code that names no key. -/
def Names (e : Event) (code : UInt8) : Prop := e = .down code ∨ e = .up code

end Event

/-- The machine started over with a program that fits. -/
def Machine.booted (m : Machine) (program : List UInt8) : Machine :=
  { m.reset with memory := m.reset.memory.poke Memory.programStart program }

namespace Console

variable {δ ι σ : Type}

theorem draw_of [Display δ] {c : Console δ ι σ} {r : Except Error Unit} {display : δ}
    (h : Display.draw c.display c.machine.screen.frame = (r, display)) :
    c.draw = (r, { c with display }) := by
  rw [draw, h]

theorem setSound_of [Speaker σ] {c : Console δ ι σ} {active : Bool} {r : Except Error Unit}
    {speaker : σ} (h : Speaker.setActive c.speaker active = (r, speaker)) :
    c.setSound active = (r, { c with speaker }) := by
  rw [setSound, h]

/-! ## Restarts -/

/-- A restart finds that the kept program is too long, or starts the machine over with it and
draws. -/
theorem restart_cases [Display δ] (c : Console δ ι σ) :
    (Memory.maxProgramBytes < c.program.length ∧ ∃ journal,
      c.restart = (.error (.programTooLarge c.program.length Memory.maxProgramBytes),
        { c with machine := c.machine.reset, journal })) ∨
    (c.program.length ≤ Memory.maxProgramBytes ∧ ∃ journal,
      c.restart = draw { c with machine := c.machine.booted c.program, journal }) := by
  let journal := c.machine.reset.report (.load c.program)
    (c.machine.report .reset (c.journal.note .restarting))
  rcases c.machine.reset.load_cases c.program with ⟨hlong, hl⟩ | ⟨hshort, hl⟩
  · refine .inl ⟨hlong, journal, ?_⟩
    have hinsert : (c.note .restarting).reset.insert c.program = _ := insert_of_load hl
    rw [restart, hinsert]
    dsimp only [reset, note, journal]
  · refine .inr ⟨hshort, journal, ?_⟩
    have hinsert : (c.note .restarting).reset.insert c.program = _ := insert_of_load hl
    rw [restart, hinsert]
    dsimp only [reset, note, journal, Machine.booted]

/-! ## Presenting a frame -/

theorem giveUp_of [Speaker σ] {c : Console δ ι σ} {t : Trap} {r : Except Error Unit} {speaker : σ}
    (h : Speaker.setActive c.speaker false = (r, speaker)) :
    c.giveUp t = (r >>= fun _ => .error (.trap t),
      { c with speaker, journal := c.journal.note (.failed t) }) := by
  have hset : (c.note (.failed t)).setSound false = _ := setSound_of h
  rw [giveUp, hset]
  cases r with
  | error e => rfl
  | ok u => rfl

/-- A display that is not asked to draw stays as it is, and one that is may fail; then the speaker
is not told. -/
theorem present_cases [Display δ] [Speaker σ] (c : Console δ ι σ) (report : FrameReport) :
    (∃ e display, Display.draw c.display c.machine.screen.frame = (.error e, display) ∧
      c.present report = (.error e, { c with display })) ∨
    ∃ display r speaker,
      (if report.redraw then Display.draw c.display c.machine.screen.frame = (.ok (), display)
        else display = c.display) ∧
      Speaker.setActive c.speaker report.soundActive = (r, speaker) ∧
      c.present report = (r, { c with display, speaker }) := by
  cases hsound : Speaker.setActive c.speaker report.soundActive with
  | mk r speaker =>
    rw [present]
    by_cases hredraw : report.redraw = true
    · rw [if_pos hredraw]
      cases hdraw : Display.draw c.display c.machine.screen.frame with
      | mk drawn display =>
        rw [draw_of hdraw]
        cases drawn with
        | error e => exact .inl ⟨e, display, rfl, rfl⟩
        | ok u =>
          have hset : setSound { c with display } report.soundActive = _ := setSound_of hsound
          exact .inr ⟨display, r, speaker, by rw [if_pos hredraw], rfl, hset⟩
    · rw [if_neg hredraw]
      exact .inr ⟨c.display, r, speaker, by rw [if_neg hredraw], rfl, setSound_of hsound⟩

/-! ## Dealing with a batch -/

/-- The console after operations on its machine. -/
def driven (c : Console δ ι σ) (ops : List Operation) (journal : Journal) : Console δ ι σ :=
  { c with machine := c.machine.run ops, journal }

/-- The results that dealing with a batch can have. -/
inductive Handling [Display δ] (c : Console δ ι σ) (events : List Event) :
    Except Error (Option Control) × Console δ ι σ → Prop where
  /-- All events are about keys, and the frame goes on. -/
  | through (journal : Journal) :
      Event.outcome events = none →
      Handling c events (.ok none, c.driven (Event.keyOperations events) journal)
  /-- An event is about a code that names no key, and no event behind it is dealt with. -/
  | refused {e : Event} {code : UInt8} (ops : List Operation) (journal : Journal) :
      e ∈ events → e.Names code → Keypad.key? code = none →
      ops <+: Event.keyOperations events →
      Handling c events (.error (.invalidKey code), c.driven ops journal)
  /-- The events up to a reset were about keys, and the console starts over. -/
  | restarting {r : Except Error Unit} {c' : Console δ ι σ} (journal : Journal) :
      Event.outcome events = some .continue →
      (c.driven (Event.keyOperations events) journal).restart = (r, c') →
      Handling c events (r.map fun _ => some .continue, c')
  /-- The events up to a quit were about keys. -/
  | quitting (journal : Journal) :
      Event.outcome events = some .quit →
      Handling c events (.ok (some .quit), c.driven (Event.keyOperations events) journal)

/-- A key event that the machine accepts puts its operation before those of the rest. -/
theorem Handling.cons [Display δ] {c : Console δ ι σ} {e : Event} {op : Operation}
    {rest : List Event} {journal : Journal} {r : Except Error (Option Control) × Console δ ι σ}
    (houtcome : Event.outcome (e :: rest) = Event.outcome rest)
    (hops : Event.keyOperations (e :: rest) = op :: Event.keyOperations rest)
    (h : Handling (c.driven [op] journal) rest r) : Handling c (e :: rest) r := by
  cases h with
  | through journal hr =>
    have := Handling.through (c := c) journal (houtcome.trans hr)
    rw [hops] at this
    exact this
  | refused ops journal he hcode hnone hdone =>
    refine .refused (op :: ops) journal (.tail _ he) hcode hnone ?_
    rw [hops]
    exact List.cons_prefix_cons.2 ⟨rfl, hdone⟩
  | restarting journal hr hrestart =>
    refine .restarting journal (houtcome.trans hr) ?_
    rw [hops]
    exact hrestart
  | quitting journal hr =>
    have := Handling.quitting (c := c) journal (houtcome.trans hr)
    rw [hops] at this
    exact this

theorem keyDown_driven (c : Console δ ι σ) (code : UInt8) :
    c.keyDown code = ((c.machine.keyDown code).1,
      c.driven [.keyDown code] (c.machine.report (.keyDown code) c.journal)) := rfl

theorem keyUp_driven (c : Console δ ι σ) (code : UInt8) :
    c.keyUp code = ((c.machine.keyUp code).1,
      c.driven [.keyUp code] (c.machine.report (.keyUp code) c.journal)) := rfl

theorem handle_cases [Display δ] (c : Console δ ι σ) :
    ∀ events : List Event, Handling c events (c.handle events)
  | [] => .through c.journal rfl
  | .down code :: rest => by
      rw [handle, keyDown_driven]
      rcases c.machine.keyDown_cases code with ⟨hnone, hk⟩ | ⟨key, -, ⟨x, -, hk⟩ | ⟨-, hk⟩⟩
      · rw [hk]
        exact .refused _ _ (.head _) (.inl rfl) hnone (List.prefix_append _ _)
      · rw [hk]
        exact .cons rfl rfl (handle_cases _ rest)
      · rw [hk]
        exact .cons rfl rfl (handle_cases _ rest)
  | .up code :: rest => by
      rw [handle, keyUp_driven]
      rcases c.machine.keyUp_cases code with ⟨hnone, hk⟩ | ⟨key, -, hk⟩
      · rw [hk]
        exact .refused _ _ (.head _) (.inr rfl) hnone (List.prefix_append _ _)
      · rw [hk]
        exact .cons rfl rfl (handle_cases _ rest)
  | .reset :: rest => by
      rw [handle]
      cases hr : c.restart with
      | mk r c' =>
        have h : Handling c (.reset :: rest) (r.map fun _ => some .continue, c') :=
          .restarting c.journal rfl hr
        cases r with
        | error e => exact h
        | ok u => exact h
  | .quit :: rest => .quitting c.journal rfl

/-! ## A frame as a whole -/

/-- The events that the next poll tells of, none if it fails. -/
def nextEvents [EventSource ι] (c : Console δ ι σ) : List Event :=
  match (EventSource.poll c.source).1 with
  | .error _ => []
  | .ok events => events

theorem nextEvents_of_poll [EventSource ι] {c : Console δ ι σ} {events : List Event} {source : ι}
    (h : EventSource.poll c.source = (.ok events, source)) : c.nextEvents = events := by
  rw [nextEvents, h]

variable [Display δ] [EventSource ι] [Speaker σ]

/-- The results that a frame can have.  The machine is the one that the events have led to,
`c.machine.run (Event.keyOperations events)`, and what becomes of it. -/
inductive Framing (c : Console δ ι σ) : Except Error Control × Console δ ι σ → Prop where
  /-- There are no events to be had. -/
  | unpolled {e : Error} {source : ι} (journal : Journal) :
      EventSource.poll c.source = (.error e, source) →
      Framing c (.error e, { c with source, journal })
  /-- An event is about a code that names no key, and no event behind it is dealt with. -/
  | refused {events : List Event} {source : ι} {e : Event} {code : UInt8}
      (ops : List Operation) (journal : Journal) :
      EventSource.poll c.source = (.ok events, source) →
      e ∈ events → e.Names code → Keypad.key? code = none →
      ops <+: Event.keyOperations events →
      Framing c (.error (.invalidKey code),
        { c with machine := c.machine.run ops, source, journal })
  /-- The user asks for a restart, and the kept program is too long. -/
  | tooLong {events : List Event} {source : ι} (journal : Journal) :
      EventSource.poll c.source = (.ok events, source) →
      Event.outcome events = some .continue →
      Memory.maxProgramBytes < c.program.length →
      Framing c (.error (.programTooLarge c.program.length Memory.maxProgramBytes),
        { c with machine := (c.machine.run (Event.keyOperations events)).reset, source, journal })
  /-- The user asks for a restart, and that is all the frame does. -/
  | restarted {events : List Event} {source : ι} {machine : Machine} {r : Except Error Unit}
      {display : δ} (journal : Journal) :
      EventSource.poll c.source = (.ok events, source) →
      Event.outcome events = some .continue →
      c.program.length ≤ Memory.maxProgramBytes →
      machine = (c.machine.run (Event.keyOperations events)).booted c.program →
      Display.draw c.display machine.screen.frame = (r, display) →
      Framing c (r.map fun _ => .continue, { c with machine, source, display, journal })
  /-- The user quits. -/
  | quit {events : List Event} {source : ι} (journal : Journal) :
      EventSource.poll c.source = (.ok events, source) →
      Event.outcome events = some .quit →
      Framing c (.ok .quit,
        { c with machine := c.machine.run (Event.keyOperations events), source, journal })
  /-- The machine traps, and the speaker falls silent. -/
  | trapped {events : List Event} {source : ι} {t : Trap} {machine : Machine}
      {r : Except Error Unit} {speaker : σ} (journal : Journal) :
      EventSource.poll c.source = (.ok events, source) →
      Event.outcome events = none →
      (c.machine.run (Event.keyOperations events)).runFrame = (.error t, machine) →
      Speaker.setActive c.speaker false = (r, speaker) →
      Framing c (r >>= fun _ => .error (.trap t), { c with machine, source, speaker, journal })
  /-- The machine runs for a frame, and the display fails. -/
  | undrawn {events : List Event} {source : ι} {report : FrameReport} {machine : Machine}
      {e : Error} {display : δ} (journal : Journal) :
      EventSource.poll c.source = (.ok events, source) →
      Event.outcome events = none →
      (c.machine.run (Event.keyOperations events)).runFrame = (.ok report, machine) →
      Display.draw c.display machine.screen.frame = (.error e, display) →
      Framing c (.error e, { c with machine, source, display, journal })
  /-- The machine runs for a frame, the screen is drawn if it has to be, and the speaker is told. -/
  | ran {events : List Event} {source : ι} {report : FrameReport} {machine : Machine} {display : δ}
      {r : Except Error Unit} {speaker : σ} (journal : Journal) :
      EventSource.poll c.source = (.ok events, source) →
      Event.outcome events = none →
      (c.machine.run (Event.keyOperations events)).runFrame = (.ok report, machine) →
      (if report.redraw then Display.draw c.display machine.screen.frame = (.ok (), display)
        else display = c.display) →
      Speaker.setActive c.speaker report.soundActive = (r, speaker) →
      Framing c (r.map fun _ => .continue, { c with machine, source, display, speaker, journal })

/-- A frame whose events ask for nothing goes on as the machine's frame does. -/
theorem Framing.of_advance {c : Console δ ι σ} {events : List Event} {source : ι}
    (journal : Journal) (hpoll : EventSource.poll c.source = (.ok events, source))
    (houtcome : Event.outcome events = none) :
    Framing c (advance { c with machine := c.machine.run (Event.keyOperations events), source,
                                journal }) := by
  rw [advance, runMachine]
  cases hrun : (c.machine.run (Event.keyOperations events)).runFrame with
  | mk answer machine =>
    cases answer with
    | error t =>
      cases hsound : Speaker.setActive c.speaker false with
      | mk r speaker =>
        have hgive := fun journal =>
          giveUp_of (c := { c with machine, source, journal }) (t := t) hsound
        dsimp only
        rw [hgive]
        exact .trapped _ hpoll houtcome hrun hsound
    | ok report =>
      have hpresent := fun journal => present_cases { c with machine, source, journal } report
      dsimp only
      rcases hpresent _ with ⟨e, display, hdraw, hp⟩ | ⟨display, r, speaker, hdraw, hsound, hp⟩
      · rw [hp]
        exact .undrawn _ hpoll houtcome hrun hdraw
      · rw [hp]
        have h := fun journal => Framing.ran journal hpoll houtcome hrun hdraw hsound
        cases r with
        | error e => exact h _
        | ok u => exact h _

/-- A frame whose events ask for a restart is that restart. -/
theorem Framing.of_restart {c c' : Console δ ι σ} {events : List Event} {source : ι}
    {journal : Journal} {r : Except Error Unit}
    (hpoll : EventSource.poll c.source = (.ok events, source))
    (houtcome : Event.outcome events = some .continue)
    (h : restart { c with machine := c.machine.run (Event.keyOperations events), source,
                          journal } = (r, c')) :
    Framing c (r.map fun _ => .continue, c') := by
  rcases restart_cases { c with machine := c.machine.run (Event.keyOperations events), source,
                                journal } with ⟨hlong, journal, hr⟩ | ⟨hfits, journal, hr⟩
  · rw [hr] at h
    cases h
    exact .tooLong journal hpoll houtcome hlong
  · rw [hr] at h
    cases h
    exact .restarted journal hpoll houtcome hfits rfl rfl

/-- A frame is what comes of dealing with the events of its poll. -/
theorem Framing.of_handle {c : Console δ ι σ} {events : List Event} {source : ι} {journal : Journal}
    {r : Except Error (Option Control) × Console δ ι σ}
    (hpoll : EventSource.poll c.source = (.ok events, source)) :
    Handling { c with source, journal } events r →
    Framing c (match r with
      | (.error e, c) => (.error e, c)
      | (.ok (some control), c) => (.ok control, c)
      | (.ok none, c) => c.advance) := by
  intro h
  cases h with
  | through journal houtcome => exact .of_advance journal hpoll houtcome
  | refused ops journal he hcode hnone hdone =>
    exact .refused ops journal hpoll he hcode hnone hdone
  | quitting journal houtcome => exact .quit journal hpoll houtcome
  | @restarting r c' journal houtcome hrestart =>
    have hframing := Framing.of_restart hpoll houtcome hrestart
    cases r with
    | error e => exact hframing
    | ok u => exact hframing

theorem frame_cases (c : Console δ ι σ) : Framing c c.frame := by
  rw [frame, poll]
  cases hpoll : EventSource.poll c.source with
  | mk answer source =>
    cases answer with
    | error e => exact .unpolled _ hpoll
    | ok events => exact .of_handle hpoll (handle_cases _ events)

/-! ## Frames in a row -/

/-- The console after a number of frames, whatever they answer. -/
def framed (c : Console δ ι σ) (n : Nat) : Console δ ι σ := (fun c => c.frame.2)^[n] c

theorem framed_succ (c : Console δ ι σ) (n : Nat) : c.framed (n + 1) = c.frame.2.framed n :=
  Function.iterate_succ_apply (fun c : Console δ ι σ => c.frame.2) n c

/-- One more frame at the end is one more at the beginning. -/
theorem frame_framed (c : Console δ ι σ) (n : Nat) : (c.framed n).frame.2 = c.framed (n + 1) :=
  (Function.iterate_succ_apply' (fun c : Console δ ι σ => c.frame.2) n c).symm

theorem frame_eq_framed {c : Console δ ι σ} {n : Nat} {r : Except Error Control}
    (h : (c.framed n).frame.1 = r) : (c.framed n).frame = (r, c.framed (n + 1)) := by
  rw [← h, ← frame_framed]

/-- A frame polls once, whatever comes of it. -/
theorem source_frame (c : Console δ ι σ) : c.frame.2.source = (EventSource.poll c.source).2 := by
  have h := c.frame_cases
  generalize c.frame = r at h ⊢
  cases h with
  | unpolled journal hpoll => rw [hpoll]
  | refused ops journal hpoll he hcode hnone => rw [hpoll]
  | tooLong journal hpoll houtcome hlong => rw [hpoll]
  | restarted journal hpoll houtcome hfits hmachine hdraw => rw [hpoll]
  | quit journal hpoll houtcome => rw [hpoll]
  | trapped journal hpoll houtcome hrun hsound => rw [hpoll]
  | undrawn journal hpoll houtcome hrun hdraw => rw [hpoll]
  | ran journal hpoll houtcome hrun hdraw hsound => rw [hpoll]

/-- A frame that succeeds has polled with success. -/
theorem poll_of_frame {c : Console δ ι σ} {control : Control} (h : c.frame.1 = .ok control) :
    EventSource.poll c.source = (.ok c.nextEvents, c.frame.2.source) := by
  rw [source_frame]
  cases hpoll : EventSource.poll c.source with
  | mk answer source =>
    cases answer with
    | ok events => rw [nextEvents_of_poll hpoll]
    | error e =>
      rw [frame, poll, hpoll] at h
      cases h

/-- What a frame that succeeds has done. -/
inductive Succeeding (c : Console δ ι σ) : Control → Console δ ι σ → Prop where
  /-- It has restarted the console, shown the screen and told nothing to the speaker. -/
  | restarted {c' : Console δ ι σ} :
      Event.outcome c.nextEvents = some .continue →
      c'.machine = (c.machine.run (Event.keyOperations c.nextEvents)).booted c.program →
      Display.draw c.display c'.machine.screen.frame = (.ok (), c'.display) →
      c'.speaker = c.speaker →
      Succeeding c .continue c'
  /-- It has passed on the keys before a quit. -/
  | quit {c' : Console δ ι σ} :
      Event.outcome c.nextEvents = some .quit →
      c'.machine = c.machine.run (Event.keyOperations c.nextEvents) →
      c'.display = c.display →
      c'.speaker = c.speaker →
      Succeeding c .quit c'
  /-- It has run the machine, shown the screen if it had to, and told the speaker what the machine
  reports. -/
  | ran {c' : Console δ ι σ} {report : FrameReport} :
      Event.outcome c.nextEvents = none →
      (c.machine.run (Event.keyOperations c.nextEvents)).runFrame = (.ok report, c'.machine) →
      (if report.redraw then Display.draw c.display c'.machine.screen.frame = (.ok (), c'.display)
        else c'.display = c.display) →
      Speaker.setActive c.speaker report.soundActive = (.ok (), c'.speaker) →
      Succeeding c .continue c'

theorem succeeding_of_frame {c c' : Console δ ι σ} {control : Control}
    (h : c.frame = (.ok control, c')) : Succeeding c control c' := by
  have hf := c.frame_cases
  rw [h] at hf
  generalize hr : (Except.ok control, c') = r at hf
  cases hf with
  | unpolled journal hpoll => cases hr
  | refused ops journal hpoll he hcode hnone => cases hr
  | tooLong journal hpoll houtcome hlong => cases hr
  | undrawn journal hpoll houtcome hrun hdraw => cases hr
  | @trapped events source t machine r speaker journal hpoll houtcome hrun hsound =>
    cases r with
    | error e => cases hr
    | ok u => cases hr
  | @restarted events source machine r display journal hpoll houtcome hfits hmachine hdraw =>
    cases r with
    | error e => cases hr
    | ok u =>
      cases hr
      rw [← nextEvents_of_poll hpoll] at houtcome hmachine
      exact .restarted houtcome hmachine hdraw rfl
  | quit journal hpoll houtcome =>
    cases hr
    rw [← nextEvents_of_poll hpoll] at houtcome ⊢
    exact .quit houtcome rfl rfl rfl
  | @ran events source report machine display r speaker journal hpoll houtcome hrun hdraw hsound =>
    cases r with
    | error e => cases hr
    | ok u =>
      cases hr
      rw [← nextEvents_of_poll hpoll] at houtcome hrun
      exact .ran houtcome hrun hdraw hsound

end Console

end Chip8
