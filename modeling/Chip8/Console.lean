import Chip8.Device
import Chip8.Machine.Report

/-!
# The console

A console is a machine with a program, a display, a source of events and a speaker.  A
frame of the console hands the events since the last one to the machine, lets the machine
run for a frame, shows the screen if it was drawn on, and tells the speaker whether the
sound timer runs.  `play` shows the screen and then runs frames until the user quits, a
limit is reached or something fails.

Every operation yields the next console even if it fails, since whatever happened before
the failure stays.  An error of a device is passed on as it is.
-/

namespace Chip8

/-- What a frame that succeeds asks for. -/
inductive Control where
  | continue
  | quit
deriving DecidableEq, Inhabited

/-- A machine and what it is connected to. -/
structure Console (δ ι σ : Type) where
  machine : Machine
  /-- The program that a restart loads again. -/
  program : List UInt8 := []
  display : δ
  source : ι
  speaker : σ
  journal : Journal := {}

namespace Console

variable {δ ι σ : Type}

def note (c : Console δ ι σ) (r : Record) : Console δ ι σ :=
  { c with journal := c.journal.note r }

def reset (c : Console δ ι σ) : Console δ ι σ :=
  { c with machine := c.machine.reset, journal := c.machine.report .reset c.journal }

def insert (c : Console δ ι σ) (program : List UInt8) : Except Error Unit × Console δ ι σ :=
  let (r, machine) := c.machine.load program
  (r, { c with machine, journal := c.machine.report (.load program) c.journal })

/-- Replaces the program by what was read, and starts the machine over.  A program that could
not be read changes nothing.  One that is too long is not kept, but the machine was reset. -/
def load (c : Console δ ι σ) (read : Except IoError (List UInt8)) :
    Except Error Unit × Console δ ι σ :=
  match read with
  | .error e => (.error (.io e), c)
  | .ok program =>
    match c.reset.insert program with
    | (.error e, c) => (.error e, c)
    | (.ok (), c) => (.ok (), { c with program })

def draw [Display δ] (c : Console δ ι σ) : Except Error Unit × Console δ ι σ :=
  let (r, display) := Display.draw c.display c.machine.screen.frame
  (r, { c with display })

def setSound [Speaker σ] (c : Console δ ι σ) (active : Bool) :
    Except Error Unit × Console δ ι σ :=
  let (r, speaker) := Speaker.setActive c.speaker active
  (r, { c with speaker })

/-- The events since the last poll. -/
def poll [EventSource ι] (c : Console δ ι σ) : Except Error (List Event) × Console δ ι σ :=
  let journal := c.journal.noteAll (EventSource.pollRecords c.source)
  let (r, source) := EventSource.poll c.source
  (r, { c with source, journal })

def restart [Display δ] (c : Console δ ι σ) : Except Error Unit × Console δ ι σ :=
  match (c.note .restarting).reset.insert c.program with
  | (.error e, c) => (.error e, c)
  | (.ok (), c) => c.draw

def keyDown (c : Console δ ι σ) (code : UInt8) : Except Error Unit × Console δ ι σ :=
  let (r, machine) := c.machine.keyDown code
  (r, { c with machine, journal := c.machine.report (.keyDown code) c.journal })

def keyUp (c : Console δ ι σ) (code : UInt8) : Except Error Unit × Console δ ι σ :=
  let (r, machine) := c.machine.keyUp code
  (r, { c with machine, journal := c.machine.report (.keyUp code) c.journal })

/-- Deals with events in order.  A reset and a quit end the frame, and what comes after them
is dropped; without either the frame goes on. -/
def handle [Display δ] (c : Console δ ι σ) :
    List Event → Except Error (Option Control) × Console δ ι σ
  | [] => (.ok none, c)
  | .down code :: rest =>
    match c.keyDown code with
    | (.error e, c) => (.error e, c)
    | (.ok (), c) => c.handle rest
  | .up code :: rest =>
    match c.keyUp code with
    | (.error e, c) => (.error e, c)
    | (.ok (), c) => c.handle rest
  | .reset :: _ =>
    match c.restart with
    | (.error e, c) => (.error e, c)
    | (.ok (), c) => (.ok (some .continue), c)
  | .quit :: _ => (.ok (some .quit), c)

def runMachine (c : Console δ ι σ) : Except Trap FrameReport × Console δ ι σ :=
  let (r, machine) := c.machine.runFrame
  (r, { c with machine, journal := c.machine.report .runFrame c.journal })

/-- Shows and sounds what a frame of the machine has come to. -/
def present [Display δ] [Speaker σ] (c : Console δ ι σ) (report : FrameReport) :
    Except Error Unit × Console δ ι σ :=
  if report.redraw then
    match c.draw with
    | (.error e, c) => (.error e, c)
    | (.ok (), c) => c.setSound report.soundActive
  else c.setSound report.soundActive

/-- Ends a frame in which the machine was halted: the speaker falls silent, and the trap is
the error unless the speaker fails. -/
def giveUp [Speaker σ] (c : Console δ ι σ) (t : Trap) : Except Error Control × Console δ ι σ :=
  match (c.note (.failed t)).setSound false with
  | (.error e, c) => (.error e, c)
  | (.ok (), c) => (.error (.trap t), c)

def advance [Display δ] [Speaker σ] (c : Console δ ι σ) : Except Error Control × Console δ ι σ :=
  match c.runMachine with
  | (.error t, c) => c.giveUp t
  | (.ok report, c) =>
    match c.present report with
    | (.error e, c) => (.error e, c)
    | (.ok (), c) => (.ok .continue, c)

variable [Display δ] [EventSource ι] [Speaker σ]

/-- One frame: the events, the machine, the screen and the sound. -/
def frame (c : Console δ ι σ) : Except Error Control × Console δ ι σ :=
  match c.poll with
  | (.error e, c) => (.error e, c)
  | (.ok events, c) =>
    match c.handle events with
    | (.error e, c) => (.error e, c)
    | (.ok (some control), c) => (.ok control, c)
    | (.ok none, c) => c.advance

/-- Ends a run of `played` frames in silence. -/
def finish (c : Console δ ι σ) (played : Nat) : Except Error Nat × Console δ ι σ :=
  match c.setSound false with
  | (.error e, c) => (.error e, c)
  | (.ok (), c) => (.ok played, c)

/-- Up to a number of frames after the `played` ones, and then the end of the run. -/
def playFrames : (k played : Nat) → Console δ ι σ → Except Error Nat × Console δ ι σ
  | 0, played, c => c.finish played
  | k + 1, played, c =>
    match c.frame with
    | (.error e, c) => (.error e, c)
    | (.ok .continue, c) => playFrames k (played + 1) c
    | (.ok .quit, c) => (c.note (.quit (played + 1))).finish (played + 1)

/-- The most frames that a run can have.  A frame counter of 64 bits is not exhausted within
the life of any device, so a run without a limit of its own has this one. -/
def endlessFrames : Nat := UInt64.size

/-- Shows the screen and runs frames until the user quits, the limit is reached or something
fails.  The result is the number of frames. -/
def play (c : Console δ ι σ) (limit : Option UInt64) : Except Error Nat × Console δ ι σ :=
  match c.draw with
  | (.error e, c) => (.error e, c)
  | (.ok (), c) => playFrames ((limit.map UInt64.toNat).getD endlessFrames) 0 c

end Console

end Chip8
