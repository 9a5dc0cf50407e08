import Chip8.Proofs.Core
import Chip8.Proofs.FreshStart

/-!
# What a restart brings back

A console keeps the program of the last load that succeeded, and that program fits.  So a
restart cannot find it too long, and brings the machine back to where it was right after that
load, in all but the generator (`restart_brings_back`).  This holds of a restart that the owner
calls for and of one that a reset among the events of a frame asks for, also within a play, and
of one whose picture cannot be shown.

The invariant is `Retains`.  It speaks of the kept program and the configuration alone, which no
call but a load touches, whatever becomes of the machine otherwise.
-/

namespace Chip8

/-! ## A machine that starts a program -/

namespace Memory

theorem toList_powerOn :
    powerOn.bytes.toList = Font.glyphs ++ List.replicate (capacity - Font.glyphs.length) 0 := by
  rw [powerOn, loadFont, toList_poke _ _ _ (by decide), Vector.toList_replicate, List.take_zero,
    List.nil_append, Nat.zero_add, List.drop_replicate]
  rfl

/-- Memory with a program: the font, zeros up to the program, the program, and zeros to the end. -/
theorem toList_poke_powerOn {program : List UInt8} (h : program.length ≤ maxProgramBytes) :
    (powerOn.poke programStart program).bytes.toList =
      Font.glyphs ++ List.replicate (programStart - Font.glyphs.length) 0 ++ program ++
        List.replicate (maxProgramBytes - program.length) 0 := by
  have hlen : program.length ≤ 0x1000 - 0x200 := h
  have hroom : programStart + program.length ≤ capacity := by
    show 0x200 + program.length ≤ 0x1000
    omega
  have hbelow : (Font.glyphs ++ List.replicate (capacity - Font.glyphs.length) 0).take programStart =
      Font.glyphs ++ List.replicate (programStart - Font.glyphs.length) 0 := by
    rw [List.take_append, List.take_of_length_le (by decide), List.take_replicate]
    rfl
  have habove : (Font.glyphs ++ List.replicate (capacity - Font.glyphs.length) 0).drop
      (programStart + program.length) = List.replicate (maxProgramBytes - program.length) 0 := by
    have hfont : Font.glyphs.length ≤ programStart + program.length := by
      show 80 ≤ 0x200 + program.length
      omega
    have hzeros : capacity - Font.glyphs.length - (programStart + program.length - Font.glyphs.length)
        = maxProgramBytes - program.length := by
      show 0x1000 - 80 - (0x200 + program.length - 80) = 0x1000 - 0x200 - program.length
      omega
    rw [List.drop_append, List.drop_eq_nil_of_le hfont, List.nil_append, List.drop_replicate, hzeros]
  rw [toList_poke _ _ _ hroom, toList_powerOn, hbelow, habove]

end Memory

namespace Machine

/-- The machine is about to start a program: memory is the font, zeros up to the program, the
program and zeros to the end, and all the rest is as at power-on. -/
structure Pristine (program : List UInt8) (m : Machine) : Prop where
  memory : m.memory.bytes.toList =
    Font.glyphs ++ List.replicate (Memory.programStart - Font.glyphs.length) 0 ++ program ++
      List.replicate (Memory.maxProgramBytes - program.length) 0
  registers : m.registers = .powerOn
  timers : m.timers = {}
  screen : m.screen = .blank
  keypad : m.keypad = .released
  activity : m.activity = .running

theorem pristine_booted {program : List UInt8} (h : program.length ≤ Memory.maxProgramBytes)
    (m : Machine) : Pristine program (m.booted program) where
  memory := Memory.toList_poke_powerOn h
  registers := by rw [booted, reset]
  timers := by rw [booted, reset]
  screen := by rw [booted, reset]
  keypad := by rw [booted, reset]
  activity := by rw [booted, reset]

@[simp] theorem config_reset (m : Machine) : m.reset.config = m.config := by rw [reset]

@[simp] theorem config_booted (m : Machine) (program : List UInt8) :
    (m.booted program).config = m.config := by
  rw [booted, config_reset]

/-- Starting over leaves nothing of a machine but its configuration and its generator. -/
theorem sameButGenerator_booted {m m' : Machine} (h : m'.config = m.config)
    (program : List UInt8) : SameButGenerator (m.booted program) (m'.booted program) := by
  rw [SameButGenerator, withGenerator, booted, booted, reset, reset, h]

theorem sameButGenerator_booted_nil (m : Machine) (entropy : ChaCha.Key) :
    SameButGenerator (powerOn m.config entropy) (m.booted []) := by
  rw [SameButGenerator, withGenerator, booted, reset, powerOn, Memory.poke]

/-- Nothing that is done to a machine touches its configuration. -/
theorem stable_config (config : Config) : Stable fun m => m.config = config where
  load program h := by
    obtain ⟨memory, hl⟩ := load_eq _ program
    rw [hl]
    exact h
  step h := by
    rw [config_step]
    exact h
  tick h := h
  keyDown code h := by
    obtain ⟨keypad, v, activity, hk⟩ := keyDown_eq _ code
    rw [hk]
    exact h
  keyUp code h := by
    obtain ⟨keypad, hk⟩ := keyUp_eq _ code
    rw [hk]
    exact h
  reset h := by
    rw [config_reset]
    exact h

theorem config_run (m : Machine) (ops : List Operation) : (m.run ops).config = m.config :=
  (stable_config m.config).run ops rfl

end Machine

/-- The errors of displays of this type are those of devices. -/
def Display.FailsWithIo (δ : Type) [Display δ] : Prop :=
  ∀ (display : δ) (f : Frame) (e : Error),
    (Display.draw display f).1 = .error e → ∃ reason, e = .io reason

/-- Dealing with a batch comes to a reset: whatever stands before it is about keys that exist. -/
def Event.restarts : List Event → Bool
  | .down code :: rest | .up code :: rest => (Keypad.key? code).isSome && restarts rest
  | .reset :: _ => true
  | .quit :: _ | [] => false

namespace Console

variable {δ ι σ : Type}

/-! ## Restarts -/

section Restarts

variable [Display δ]

/-- A restart answers as the display does and starts the machine over, if the kept program is not
too long. -/
theorem restart_of_fits {c : Console δ ι σ} (h : c.program.length ≤ Memory.maxProgramBytes) :
    c.restart.1 = (Display.draw c.display Screen.blank.frame).1 ∧
      c.restart.2.machine = c.machine.booted c.program := by
  rcases c.restart_cases with ⟨hlong, -⟩ | ⟨-, journal, hr⟩
  · exact absurd h (Nat.not_le.2 hlong)
  · rw [hr]
    exact ⟨rfl, rfl⟩

theorem handle_of_restarts (c : Console δ ι σ) {events : List Event}
    (h : Event.restarts events = true) :
    ∃ ops journal, c.handle events =
      ((c.driven ops journal).restart.1.map fun _ => some .continue,
        (c.driven ops journal).restart.2) := by
  induction events generalizing c with
  | nil => cases h
  | cons e rest ih =>
    cases e with
    | down code =>
      obtain ⟨hkey, hrest⟩ := Bool.and_eq_true_iff.1 h
      have hne : Keypad.key? code ≠ none := Option.isSome_iff_ne_none.1 hkey
      obtain ⟨ops, journal, hh⟩ := ih _ hrest
      rw [handle, keyDown_driven, c.machine.answer_keyDown code, if_neg hne]
      exact ⟨.keyDown code :: ops, journal, hh⟩
    | up code =>
      obtain ⟨hkey, hrest⟩ := Bool.and_eq_true_iff.1 h
      have hne : Keypad.key? code ≠ none := Option.isSome_iff_ne_none.1 hkey
      obtain ⟨ops, journal, hh⟩ := ih _ hrest
      rw [handle, keyUp_driven, c.machine.answer_keyUp code, if_neg hne]
      exact ⟨.keyUp code :: ops, journal, hh⟩
    | reset =>
      refine ⟨[], c.journal, ?_⟩
      rw [handle]
      show _ = (c.restart.1.map _, c.restart.2)
      cases c.restart with
      | mk r c' =>
        cases r with
        | error e => rfl
        | ok u => rfl
    | quit => cases h

variable [EventSource ι] [Speaker σ]

/-- A frame that comes to a reset is a restart, of a machine to which something was done. -/
theorem frame_of_restarts {c : Console δ ι σ} (h : Event.restarts c.nextEvents = true) :
    ∃ ops source journal,
      let d := { c with machine := c.machine.run ops, source, journal }
      c.frame = (d.restart.1.map fun _ => .continue, d.restart.2) := by
  cases hpoll : EventSource.poll c.source with
  | mk answer source =>
    cases answer with
    | error e =>
      rw [nextEvents, hpoll] at h
      cases h
    | ok events =>
      rw [nextEvents_of_poll hpoll] at h
      obtain ⟨ops, journal, hh⟩ := handle_of_restarts
        { c with source, journal := c.journal.noteAll (EventSource.pollRecords c.source) } h
      refine ⟨ops, source, journal, ?_⟩
      rw [frame, poll, hpoll]
      dsimp only
      rw [hh, driven]
      cases (restart { c with machine := c.machine.run ops, source, journal }).1 with
      | error e => rfl
      | ok u => rfl

/-- A restart of the console, with its answer and the machine it leads to: one that the owner calls
for, or one that the next frame comes to. -/
inductive Restart (c : Console δ ι σ) : Except Error Unit → Machine → Prop where
  | called : Restart c c.restart.1 c.restart.2.machine
  | asked : Event.restarts c.nextEvents = true →
      Restart c (c.frame.1.map fun _ => ()) c.frame.2.machine

theorem Restart.of_fits {c : Console δ ι σ} {r : Except Error Unit} {m : Machine}
    (hrestart : c.Restart r m) (h : c.program.length ≤ Memory.maxProgramBytes) :
    r = (Display.draw c.display Screen.blank.frame).1 ∧
      ∃ m₀ : Machine, m₀.config = c.machine.config ∧ m = m₀.booted c.program := by
  cases hrestart with
  | called =>
    obtain ⟨hanswer, hmachine⟩ := restart_of_fits h
    exact ⟨hanswer, c.machine, rfl, hmachine⟩
  | asked hasked =>
    obtain ⟨ops, source, journal, hframe⟩ := frame_of_restarts hasked
    obtain ⟨hanswer, hmachine⟩ :=
      restart_of_fits (c := { c with machine := c.machine.run ops, source, journal }) h
    rw [hframe, hanswer, hmachine]
    refine ⟨?_, c.machine.run ops, Machine.config_run _ _, rfl⟩
    cases (Display.draw c.display Screen.blank.frame).1 with
    | error e => rfl
    | ok u => rfl

end Restarts

/-! ## Loads -/

/-- The program of a call that loads one with success, and the machine right after it. -/
def loaded? (c : Console δ ι σ) : Call → Option (List UInt8 × Machine)
  | .load (.ok program) =>
    match c.load (.ok program) with
    | (.ok (), c') => some (program, c'.machine)
    | (.error _, _) => none
  | _ => none

theorem loaded?_of_fits (c : Console δ ι σ) {program : List UInt8}
    (h : program.length ≤ Memory.maxProgramBytes) :
    c.loaded? (.load (.ok program)) = some (program, (c.load (.ok program)).2.machine) ∧
      (c.load (.ok program)).2.machine = c.machine.booted program := by
  rcases c.load_cases (.ok program) with ⟨_, hr, -⟩ | ⟨_, _, hr, hlong, -⟩ | ⟨_, _, hr, -, hl⟩
  · cases hr
  · cases hr
    exact absurd h (Nat.not_le.2 hlong)
  · cases hr
    rw [loaded?, hl]
    exact ⟨rfl, rfl⟩

theorem loaded?_of_long (c : Console δ ι σ) {program : List UInt8}
    (h : Memory.maxProgramBytes < program.length) : c.loaded? (.load (.ok program)) = none := by
  rcases c.load_cases (.ok program) with ⟨_, hr, -⟩ | ⟨_, _, hr, -, hl⟩ | ⟨_, _, hr, hfits, -⟩
  · cases hr
  · cases hr
    rw [loaded?, hl]
  · cases hr
    exact absurd hfits (Nat.not_le.2 h)

/-- The loads among some calls that succeed, in order. -/
def loads [Display δ] [EventSource ι] [Speaker σ] (c : Console δ ι σ) :
    List Call → List (List UInt8 × Machine)
  | [] => []
  | call :: calls => (c.loaded? call).toList ++ (c.after call).loads calls

end Console

/-! ## What is kept -/

namespace Core

variable {ι : Type}

/-- The core keeps the program of a load, and any machine of its configuration that starts over
with that is the machine right after the load, in all but the generator. -/
structure Retains (load : List UInt8 × Machine) (k : Core ι) : Prop where
  program : k.program = load.1
  fits : k.program.length ≤ Memory.maxProgramBytes
  machine : ∀ m : Machine, m.config = k.machine.config →
    load.2.SameButGenerator (m.booted k.program)

variable {load : List UInt8 × Machine} {k k' : Core ι}

theorem retains_loaded {m : Machine} {program : List UInt8}
    (h : program.length ≤ Memory.maxProgramBytes) (source : ι) :
    Retains (program, m.booted program) ⟨m.booted program, program, source⟩ where
  program := rfl
  fits := h
  machine m' hconfig := by
    rw [Machine.config_booted] at hconfig
    exact Machine.sameButGenerator_booted hconfig program

theorem retains_powerOn (config : Config) (entropy : ChaCha.Key) (source : ι) :
    Retains ([], .powerOn config entropy) ⟨.powerOn config entropy, [], source⟩ where
  program := rfl
  fits := Nat.zero_le _
  machine m hconfig := by
    have hm : m.config = config := hconfig
    rw [← hm]
    exact m.sameButGenerator_booted_nil entropy

/-- It does not matter what becomes of the machine. -/
theorem Retains.of_kept (h : Retains load k) (hprogram : k'.program = k.program)
    (hconfig : k'.machine.config = k.machine.config) : Retains load k' where
  program := hprogram.trans h.program
  fits := by
    rw [hprogram]
    exact h.fits
  machine m hm := by
    rw [hprogram]
    exact h.machine m (hm.trans hconfig)

theorem Retains.restart (h : Retains load k) : Retains load k.restart :=
  h.of_kept rfl (Machine.config_run _ _)

theorem Retains.frame [EventSource ι] (h : Retains load k) : Retains load k.frame := by
  rw [Core.frame]
  split
  · exact h.of_kept rfl rfl
  · exact h.of_kept rfl (Machine.config_run _ _)

theorem Retains.frames [EventSource ι] (h : Retains load k) (n : Nat) :
    Retains load (Core.frame^[n] k) := by
  induction n generalizing k with
  | zero => exact h
  | succ n ih => exact ih h.frame

end Core

namespace Console

variable {δ ι σ : Type} [Display δ] [EventSource ι] [Speaker σ] {c : Console δ ι σ}
  {load : List UInt8 × Machine}

/-- A load that succeeds is what is kept from then on, and every other call leaves what was kept. -/
theorem retains_after (h : c.core.Retains load) (call : Call) :
    (c.after call).core.Retains ((c.loaded? call).getD load) := by
  cases call with
  | load read =>
    cases read with
    | error reason => exact h
    | ok program =>
      by_cases hfits : program.length ≤ Memory.maxProgramBytes
      · obtain ⟨hload, hmachine⟩ := c.loaded?_of_fits hfits
        rw [hload, hmachine, after, core_load, Core.load, if_pos hfits,
          Machine.run_startingOver_of_fits hfits]
        exact Core.retains_loaded hfits c.source
      · rw [c.loaded?_of_long (Nat.lt_of_not_le hfits), after, core_load]
        exact h.of_kept (if_neg hfits) (Machine.config_run _ _)
  | restart =>
    rw [after, core_restart]
    exact h.restart
  | frame =>
    rw [after, core_frame]
    exact h.frame
  | play limit =>
    obtain ⟨n, hplay⟩ := c.core_play limit
    rw [after, hplay]
    exact h.frames n

theorem retains_run (h : c.core.Retains load) (calls : List Call) :
    (c.run calls).core.Retains ((c.loads calls).getLastD load) := by
  induction calls generalizing c load with
  | nil => exact h
  | cons call calls ih =>
    have hafter := ih (retains_after h call)
    rw [loads]
    cases hload : c.loaded? call with
    | none =>
      rw [hload] at hafter
      exact hafter
    | some later =>
      rw [hload] at hafter
      rw [Option.toList_some, List.singleton_append, List.getLastD_cons]
      exact hafter

/-- The consoles that calls lead to: the one after them, and those that a play which comes next has
before its frames, as far as it gets. -/
inductive LeadsTo (c : Console δ ι σ) (calls : List Call) : Console δ ι σ → Prop where
  | after : LeadsTo c calls (c.run calls)
  | within (n : Nat) : LeadsTo c calls ((c.run calls).draw.2.framed n)

theorem LeadsTo.retains {c' : Console δ ι σ} {calls : List Call} (h : c.LeadsTo calls c')
    (hretains : c.core.Retains load) : c'.core.Retains ((c.loads calls).getLastD load) := by
  have hrun := retains_run hretains calls
  cases h with
  | after => exact hrun
  | within n =>
    rw [core_framed, core_draw]
    exact hrun.frames n

/-- Whatever a new console has been through, it keeps the program of the last load that succeeded,
none if there was no such load.  A restart then answers what the display does, so never that the
program is too long, and brings back the machine right after that load in all but the
generator: memory is the font and the program with zeros around it, and the rest is as at
power-on. -/
theorem restart_brings_back (config : Config) (entropy : ChaCha.Key) (display : δ) (source : ι)
    (speaker : σ) (calls : List Call) :
    let start : Console δ ι σ := { machine := .powerOn config entropy, display, source, speaker }
    let kept := (start.loads calls).getLastD ([], start.machine)
    ∀ c, start.LeadsTo calls c →
      c.program = kept.1 ∧
      ∀ r m, c.Restart r m →
        r = (Display.draw c.display Screen.blank.frame).1 ∧
        (Display.FailsWithIo δ → ∀ size max, r ≠ .error (.programTooLarge size max)) ∧
        kept.2.SameButGenerator m ∧
        m.Pristine kept.1 := by
  intro start kept c hc
  have hretains := hc.retains (Core.retains_powerOn config entropy source)
  refine ⟨hretains.program, ?_⟩
  intro r m hrestart
  obtain ⟨hanswer, m₀, hconfig, rfl⟩ := hrestart.of_fits hretains.fits
  refine ⟨hanswer, ?_, hretains.machine m₀ hconfig, ?_⟩
  · intro hdisplay size max hr
    obtain ⟨reason, he⟩ := hdisplay _ _ _ (hanswer.symm.trans hr)
    cases he
  · have hprogram : c.program = kept.1 := hretains.program
    rw [← hprogram]
    exact Machine.pristine_booted hretains.fits m₀

/-- A program has run when one that is too long is loaded, which leaves nothing of it in memory.
The restart after that brings it back, although the display fails. -/
theorem restart_brings_back_undrawn :
    let start : Console (Faulty Recorder) Script Mute :=
      { machine := .powerOn {} 0
        display := { device := {}, text := "display", failing := [1] }
        source := ⟨[]⟩
        speaker := {} }
    let program : List UInt8 := [0x60, 0x2A, 0x12, 0x02]
    let calls : List Call :=
      [.load (.ok program), .play (some 1), .load (.ok (List.replicate 3585 0))]
    let c := start.run calls
    c.machine.memory.byteAt 0x200 = 0 ∧
    c.restart.1 = .error (.io (.device "display")) ∧
    c.program = program ∧
    (start.after (.load (.ok program))).machine.SameButGenerator c.restart.2.machine ∧
    c.restart.2.machine.Pristine program := by
  intro start program calls c
  have hlong : Memory.maxProgramBytes < (List.replicate 3585 (0 : UInt8)).length := by
    rw [List.length_replicate]
    decide
  have hloads : start.loads calls = [(program, (start.after (.load (.ok program))).machine)] := by
    rw [loads, loads, loads, loads, (start.loaded?_of_fits (by decide)).1, loaded?_of_long _ hlong]
    rfl
  have hc := restart_brings_back {} 0 start.display start.source start.speaker calls c .after
  rw [hloads] at hc
  obtain ⟨hprogram, hrestart⟩ := hc
  obtain ⟨-, -, hsame, hpristine⟩ := hrestart _ _ .called
  exact ⟨by decide +kernel, by decide +kernel, hprogram, hsame, hpristine⟩

end Console

end Chip8
