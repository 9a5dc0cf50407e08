import Mathlib.Logic.Function.Iterate
import Chip8.Console.Call
import Chip8.Device.Faulty
import Chip8.Device.Mute
import Chip8.Device.Recorder
import Chip8.Device.Script
import Chip8.Proofs.Framing
import Chip8.Proofs.Reachability

/-!
# Emulation without its output

The machine of a console, the program it keeps and its source of events make up its core.  A
core has its own load, restart and frame, in which no display and no speaker occurs, and what
such a call does to a console it does to its core (`core_load`, `core_restart`, `core_frame`).
So whatever becomes of the output, the core goes on as if nobody watched
(`output_has_no_effect`).  A play is different, since it ends at the first failure, also one of
the output: of its core it is known that it has gone through some number of frames
(`core_play`).

What a frame does to the machine is a list of operations, which its events and the kept program
determine (`Event.operations`).  So is what any list of calls does to it (`machine_run`).
-/

namespace Chip8

/-- A console without its display, its speaker and its journal. -/
structure Core (ι : Type) where
  machine : Machine
  program : List UInt8
  source : ι

namespace Machine

/-- What starting a machine over with a program does to it. -/
def startingOver (program : List UInt8) : List Operation := [.reset, .load program]

theorem run_startingOver_of_fits {program : List UInt8}
    (h : program.length ≤ Memory.maxProgramBytes) (m : Machine) :
    m.run (startingOver program) = m.booted program := by
  rcases m.reset.load_cases program with ⟨hlong, -⟩ | ⟨-, hl⟩
  · exact absurd h (Nat.not_le.2 hlong)
  · show (m.reset.load program).2 = m.booted program
    rw [hl, booted]

theorem run_startingOver_of_long {program : List UInt8}
    (h : Memory.maxProgramBytes < program.length) (m : Machine) :
    m.run (startingOver program) = m.reset := by
  rcases m.reset.load_cases program with ⟨-, hl⟩ | ⟨hfits, -⟩
  · show (m.reset.load program).2 = m.reset
    rw [hl]
  · exact absurd hfits (Nat.not_le.2 h)

end Machine

/-- What a frame with these events does to the machine: the key events, up to a code that names
no key, and then a frame of the machine if nothing is asked of the console, or a restart with the
kept program. -/
def Event.operations (program : List UInt8) : List Event → List Operation
  | [] => [.runFrame]
  | .down code :: rest =>
    .keyDown code :: if Keypad.key? code = none then [] else operations program rest
  | .up code :: rest =>
    .keyUp code :: if Keypad.key? code = none then [] else operations program rest
  | .reset :: _ => Machine.startingOver program
  | .quit :: _ => []

namespace Core

variable {ι : Type}

/-- A program that is too long is not kept, but the machine starts over all the same. -/
def load (k : Core ι) : Except IoError (List UInt8) → Core ι
  | .error _ => k
  | .ok program =>
    { k with
      machine := k.machine.run (Machine.startingOver program)
      program := if program.length ≤ Memory.maxProgramBytes then program else k.program }

def restart (k : Core ι) : Core ι :=
  { k with machine := k.machine.run (Machine.startingOver k.program) }

def frame [EventSource ι] (k : Core ι) : Core ι :=
  match EventSource.poll k.source with
  | (.error _, source) => { k with source }
  | (.ok events, source) =>
    { k with machine := k.machine.run (Event.operations k.program events), source }

/-- What a frame does to the machine. -/
def frameOperations [EventSource ι] (k : Core ι) : List Operation :=
  match EventSource.poll k.source with
  | (.error _, _) => []
  | (.ok events, _) => Event.operations k.program events

theorem machine_frame [EventSource ι] (k : Core ι) :
    k.frame.machine = k.machine.run k.frameOperations := by
  rw [frame, frameOperations]
  cases EventSource.poll k.source with
  | mk answer source =>
    cases answer with
    | error e => rfl
    | ok events => rfl

end Core

namespace Console

variable {δ ι σ : Type}

def core (c : Console δ ι σ) : Core ι := ⟨c.machine, c.program, c.source⟩

@[simp] theorem machine_core (c : Console δ ι σ) : c.core.machine = c.machine := rfl

@[simp] theorem program_core (c : Console δ ι σ) : c.core.program = c.program := rfl

@[simp] theorem source_core (c : Console δ ι σ) : c.core.source = c.source := rfl

/-! ## Devices -/

theorem core_draw [Display δ] (c : Console δ ι σ) : c.draw.2.core = c.core := rfl

theorem core_setSound [Speaker σ] (c : Console δ ι σ) (active : Bool) :
    (c.setSound active).2.core = c.core := rfl

/-- What is done only after something has succeeded leaves the core alone if it does so in any
case. -/
theorem core_of_then {α : Type} {x : Except Error Unit × Console δ ι σ}
    {next : Console δ ι σ → Except Error α × Console δ ι σ}
    (hnext : ∀ c, (next c).2.core = c.core) :
    (match x with
      | (.error e, c) => (.error e, c)
      | (.ok (), c) => next c : Except Error α × Console δ ι σ).2.core = x.2.core := by
  cases x with
  | mk r c =>
    cases r with
    | error e => rfl
    | ok u => exact hnext c

theorem core_present [Display δ] [Speaker σ] (c : Console δ ι σ) (report : FrameReport) :
    (c.present report).2.core = c.core := by
  rw [present]
  split
  · exact core_of_then fun c => c.core_setSound _
  · exact c.core_setSound _

theorem core_giveUp [Speaker σ] (c : Console δ ι σ) (t : Trap) :
    (c.giveUp t).2.core = c.core :=
  core_of_then fun _ => rfl

theorem core_finish [Speaker σ] (c : Console δ ι σ) (played : Nat) :
    (c.finish played).2.core = c.core :=
  core_of_then fun _ => rfl

/-! ## Calls -/

theorem core_load (c : Console δ ι σ) (read : Except IoError (List UInt8)) :
    (c.load read).2.core = c.core.load read := by
  rcases c.load_cases read with ⟨reason, rfl, hl⟩ | ⟨program, journal, rfl, hlong, hl⟩ |
    ⟨program, journal, rfl, hfits, hl⟩
  · rw [hl]
    rfl
  · rw [hl, Core.load, Machine.run_startingOver_of_long hlong, if_neg (Nat.not_le.2 hlong), core]
    rfl
  · rw [hl, Core.load, Machine.run_startingOver_of_fits hfits, if_pos hfits, core]
    rfl

theorem core_restart [Display δ] (c : Console δ ι σ) : c.restart.2.core = c.core.restart := by
  rcases c.restart_cases with ⟨hlong, journal, hr⟩ | ⟨hfits, journal, hr⟩
  · rw [hr, Core.restart, program_core, Machine.run_startingOver_of_long hlong]
    rfl
  · rw [hr, core_draw, Core.restart, program_core, Machine.run_startingOver_of_fits hfits]
    rfl

variable [Display δ] [Speaker σ]

theorem core_advance (c : Console δ ι σ) :
    c.advance.2.core = { c.core with machine := c.machine.runFrame.2 } := by
  have hrun : c.runMachine.2.core = { c.core with machine := c.machine.runFrame.2 } := rfl
  rw [advance]
  split
  · next t c' hc =>
    rw [hc] at hrun
    exact (c'.core_giveUp t).trans hrun
  · next report c' hc =>
    rw [hc] at hrun
    exact (core_of_then fun _ => rfl).trans ((c'.core_present report).trans hrun)

/-- How a frame goes on after its events. -/
theorem core_of_handle (c : Console δ ι σ) (events : List Event) :
    (match c.handle events with
      | (.error e, c) => (.error e, c)
      | (.ok (some control), c) => (.ok control, c)
      | (.ok none, c) => c.advance : Except Error Control × Console δ ι σ).2.core =
      { c.core with machine := c.machine.run (Event.operations c.program events) } := by
  induction events generalizing c with
  | nil => exact c.core_advance
  | cons e rest ih =>
    cases e with
    | down code =>
      rw [handle, keyDown_driven, c.machine.answer_keyDown code, Event.operations]
      by_cases hkey : Keypad.key? code = none
      · rw [if_pos hkey, if_pos hkey]
        rfl
      · rw [if_neg hkey, if_neg hkey]
        exact ih _
    | up code =>
      rw [handle, keyUp_driven, c.machine.answer_keyUp code, Event.operations]
      by_cases hkey : Keypad.key? code = none
      · rw [if_pos hkey, if_pos hkey]
        rfl
      · rw [if_neg hkey, if_neg hkey]
        exact ih _
    | reset =>
      have hrestart : c.restart.2.core =
        { c.core with machine := c.machine.run (Machine.startingOver c.program) } := c.core_restart
      rw [handle, Event.operations, ← hrestart]
      cases c.restart with
      | mk r c' =>
        cases r with
        | error e => rfl
        | ok u => rfl
    | quit => rfl

variable [EventSource ι]

theorem core_frame (c : Console δ ι σ) : c.frame.2.core = c.core.frame := by
  rw [frame, poll, Core.frame, source_core]
  cases EventSource.poll c.source with
  | mk answer source =>
    cases answer with
    | error e => rfl
    | ok events => exact core_of_handle _ events

theorem core_framed (c : Console δ ι σ) (n : Nat) :
    (c.framed n).core = Core.frame^[n] c.core := by
  induction n generalizing c with
  | zero => rfl
  | succ n ih => rw [framed_succ, ih, core_frame, Function.iterate_succ_apply]

theorem core_playFrames :
    ∀ (k played : Nat) (c : Console δ ι σ),
      ∃ n ≤ k, (playFrames k played c).2.core = Core.frame^[n] c.core
  | 0, played, c => ⟨0, Nat.le_refl 0, c.core_finish played⟩
  | k + 1, played, c => by
      have hframe := c.core_frame
      rw [playFrames]
      split
      · next e c' hc =>
        rw [hc] at hframe
        exact ⟨1, by omega, hframe⟩
      · next c' hc =>
        rw [hc] at hframe
        obtain ⟨n, hn, hplay⟩ := core_playFrames k (played + 1) c'
        refine ⟨n + 1, by omega, ?_⟩
        rw [hplay, Function.iterate_succ_apply, ← hframe]
      · next c' hc =>
        rw [hc] at hframe
        exact ⟨1, by omega, ((c'.note (.quit (played + 1))).core_finish _).trans hframe⟩

/-- A play takes the core through a number of frames. -/
theorem core_play (c : Console δ ι σ) (limit : Option UInt64) :
    ∃ n, (c.play limit).2.core = Core.frame^[n] c.core := by
  have hdraw := c.core_draw
  rw [play]
  split
  · next e c' hc =>
    rw [hc] at hdraw
    exact ⟨0, hdraw⟩
  · next c' hc =>
    rw [hc] at hdraw
    obtain ⟨n, -, hplay⟩ := core_playFrames ((limit.map UInt64.toNat).getD endlessFrames) 0 c'
    exact ⟨n, by rw [hplay, ← hdraw]⟩

/-! ## What calls do to the machine -/

/-- What up to `k` frames of a play do to the machine. -/
def playOperations : Nat → Console δ ι σ → List Operation
  | 0, _ => []
  | k + 1, c =>
    c.core.frameOperations ++
      match c.frame with
      | (.ok .continue, c) => playOperations k c
      | _ => []

/-- What a call does to the machine. -/
def operationsOf (c : Console δ ι σ) : Call → List Operation
  | .load (.error _) => []
  | .load (.ok program) => Machine.startingOver program
  | .restart => Machine.startingOver c.program
  | .frame => c.core.frameOperations
  | .play limit =>
    match c.draw with
    | (.error _, _) => []
    | (.ok (), c) => playOperations ((limit.map UInt64.toNat).getD endlessFrames) c

/-- What a list of calls does to the machine. -/
def operations (c : Console δ ι σ) : List Call → List Operation
  | [] => []
  | call :: calls => c.operationsOf call ++ (c.after call).operations calls

theorem machine_frame (c : Console δ ι σ) :
    c.frame.2.machine = c.machine.run c.core.frameOperations :=
  (congrArg Core.machine c.core_frame).trans c.core.machine_frame

theorem machine_playFrames :
    ∀ (k played : Nat) (c : Console δ ι σ),
      (playFrames k played c).2.machine = c.machine.run (playOperations k c)
  | 0, played, c => congrArg Core.machine (c.core_finish played)
  | k + 1, played, c => by
      have hframe := c.machine_frame
      rw [playFrames, playOperations, Machine.run_append, ← hframe]
      cases c.frame with
      | mk r c' =>
        cases r with
        | error e => rfl
        | ok control =>
          cases control with
          | «continue» => exact machine_playFrames k (played + 1) c'
          | quit => exact congrArg Core.machine (core_finish _ _)

theorem machine_after (c : Console δ ι σ) (call : Call) :
    (c.after call).machine = c.machine.run (c.operationsOf call) := by
  cases call with
  | load read =>
    have hload := congrArg Core.machine (c.core_load read)
    cases read with
    | error e => exact hload
    | ok program => exact hload
  | restart => exact congrArg Core.machine c.core_restart
  | frame => exact c.machine_frame
  | play limit =>
    have hdraw := congrArg Core.machine c.core_draw
    rw [after, play, operationsOf]
    generalize c.draw = x at hdraw ⊢
    obtain ⟨r, c'⟩ := x
    cases r with
    | error e => exact hdraw
    | ok u => exact (machine_playFrames _ 0 c').trans (congrArg (Machine.run · _) hdraw)

/-- The machine of a console is driven by operations alone, and `operations` lists them. -/
theorem machine_run (c : Console δ ι σ) (calls : List Call) :
    (c.run calls).machine = c.machine.run (c.operations calls) := by
  induction calls generalizing c with
  | nil => rfl
  | cons call calls ih =>
    have hcalls : (c.run (call :: calls)).machine = ((c.after call).run calls).machine := rfl
    rw [hcalls, ih, operations, Machine.run_append, machine_after]

/-! ## Consoles with different output -/

section Output

variable {δ₁ δ₂ σ₁ σ₂ : Type} [Display δ₁] [Display δ₂] [Speaker σ₁] [Speaker σ₂]
  {c : Console δ₁ ι σ₁} {d : Console δ₂ ι σ₂}

theorem core_after_eq (h : c.core = d.core) {call : Call} (hplay : ∀ limit, call ≠ .play limit) :
    (c.after call).core = (d.after call).core := by
  cases call with
  | load read => rw [after, after, core_load, core_load, h]
  | restart => rw [after, after, core_restart, core_restart, h]
  | frame => rw [after, after, core_frame, core_frame, h]
  | play limit => exact absurd rfl (hplay limit)

theorem core_run_eq (h : c.core = d.core) {calls : List Call}
    (hplay : ∀ limit, .play limit ∉ calls) : (c.run calls).core = (d.run calls).core := by
  induction calls generalizing c d with
  | nil => exact h
  | cons call calls ih =>
    have hcall : ∀ limit, call ≠ .play limit := by
      rintro limit rfl
      exact hplay limit (.head _)
    exact ih (core_after_eq h hcall) fun limit hmem => hplay limit (.tail _ hmem)

/-- Two new consoles that differ in their displays and speakers, and in what becomes of the output
there, have the same machine, keep the same program and have the same events to come after any
loads, restarts and frames, whether these succeed or not.  If the configuration has no seed,
both machines must be given the same entropy. -/
theorem output_has_no_effect (config : Config) {entropy₁ entropy₂ : ChaCha.Key}
    (hseed : config.seed = none → entropy₁ = entropy₂) (source : ι)
    (display₁ : δ₁) (speaker₁ : σ₁) (display₂ : δ₂) (speaker₂ : σ₂) {calls : List Call}
    (hplay : ∀ limit, .play limit ∉ calls) :
    let c₁ : Console δ₁ ι σ₁ :=
      { machine := .powerOn config entropy₁, display := display₁, source, speaker := speaker₁ }
    let c₂ : Console δ₂ ι σ₂ :=
      { machine := .powerOn config entropy₂, display := display₂, source, speaker := speaker₂ }
    (c₁.run calls).machine = (c₂.run calls).machine ∧
      (c₁.run calls).program = (c₂.run calls).program ∧
      (c₁.run calls).source = (c₂.run calls).source := by
  intro c₁ c₂
  have hmachine : Machine.powerOn config entropy₁ = .powerOn config entropy₂ := by
    cases hconfig : config.seed with
    | none => rw [hseed hconfig]
    | some seed =>
      rw [Machine.powerOn, Machine.powerOn, hconfig, Option.elim_some, Option.elim_some]
  have hcore : c₁.core = c₂.core := congrArg (Core.mk · [] source) hmachine
  have hrun := core_run_eq hcore hplay
  exact ⟨congrArg Core.machine hrun, congrArg Core.program hrun, congrArg Core.source hrun⟩

end Output

/-- A program sounds and draws, and the second frame is a restart.  On one of two consoles the
display fails twice and the speaker once, so that three frames fail there alone; the fourth
fails on both, for want of events. -/
theorem output_has_no_effect_failing :
    let sprite : List UInt8 := [0x60, 0x0A, 0xF0, 0x18, 0xD0, 0x05, 0x12, 0x06]
    let source : Faulty Script :=
      { device := ⟨[[.down 5], [.reset]]⟩, text := "input", failing := [3] }
    let worn : Console (Faulty Recorder) (Faulty Script) (Faulty Mute) :=
      { machine := .powerOn { cyclesPerFrame := 4 } 0
        display := { device := {}, text := "display", failing := [0, 1] }
        source
        speaker := { device := {}, text := "speaker", failing := [0] } }
    let intact : Console Recorder (Faulty Script) Mute :=
      { machine := .powerOn { cyclesPerFrame := 4 } 0, display := {}, source, speaker := {} }
    let calls (n : Nat) : List Call := .load (.ok sprite) :: List.replicate n .frame
    (List.range 4).map (fun n => (worn.run (calls n)).frame.1) =
      [.error (.io (.device "display")), .error (.io (.device "display")),
        .error (.io (.device "speaker")), .error (.io (.device "input"))] ∧
    (List.range 4).map (fun n => (intact.run (calls n)).frame.1) =
      [.ok .continue, .ok .continue, .ok .continue, .error (.io (.device "input"))] ∧
    (worn.run (calls 4)).machine = (intact.run (calls 4)).machine ∧
    (worn.run (calls 4)).program = (intact.run (calls 4)).program ∧
    (worn.run (calls 4)).source = (intact.run (calls 4)).source := by
  intro sprite source worn intact calls
  have hplay : ∀ limit, .play limit ∉ calls 4 := by
    intro limit hmem
    simp [calls] at hmem
  exact ⟨by decide +kernel, by decide +kernel,
    output_has_no_effect { cyclesPerFrame := 4 } (fun _ => rfl) source _ _ _ _ hplay⟩

end Console

end Chip8
