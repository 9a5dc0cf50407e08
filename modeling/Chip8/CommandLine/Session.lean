import Chip8.Console
import Chip8.Keyboard
import Chip8.Terminal
import Chip8.Device.Mute
import Chip8.CommandLine.Arguments
import Chip8.CommandLine.Directory

/-!
# Carrying out a command

A session opens the program, loads it into a console on a terminal, and plays it.  It ends
with an exit code, the lines of its log, and what the terminal shows.  The last line of a
session that fails says why.
-/

namespace Chip8

/-- What a session has at its start. -/
structure Surroundings where
  terminal : TerminalSize
  /-- What was typed before the first frame. -/
  typed : String := ""
  /-- The least that a record must matter to be logged; none is without it. -/
  threshold : Option Level := some .error
  /-- The key of a machine without a seed. -/
  entropy : ChaCha.Key := 0

/-- How a session ends. -/
structure Outcome where
  exitCode : Nat
  /-- The log, unless the arguments were no command. -/
  log : Option (List String)
  beeps : Nat
  terminal : Terminal

namespace Arguments

def config (a : Arguments) : Config :=
  { shift := if a.shiftInPlace then .vx else .vy
    cyclesPerFrame := a.cycles.getD ({} : Config).cyclesPerFrame
    seed := a.seed }

end Arguments

namespace Session

def misuse (s : Surroundings) : Outcome := ⟨2, none, 0, { size := s.terminal }⟩

/-- The outcome of a session that fails, by the term of its error. -/
def failed (terminal : Terminal) (j : Journal) (beeps : Nat) (error : String) : Outcome :=
  ⟨1, some (j.lines ++ ["Error: " ++ error]), beeps, terminal.close⟩

/-- The console of a session before the program is loaded. -/
def console (a : Arguments) (s : Surroundings) (j : Journal) : Console Terminal Keyboard Mute :=
  { machine := .powerOn a.config s.entropy
    display := { size := s.terminal }
    source := Keyboard.type {} s.typed
    speaker := {}
    journal := j }

def play (a : Arguments) (s : Surroundings) (j : Journal) (content : Except IoError (List UInt8)) :
    Outcome :=
  match (console a s j).load content with
  | (.error e, c) => failed c.display c.journal c.speaker.beeps e.describe
  | (.ok (), c) =>
    match c.play a.frames with
    | (.error e, c) => failed c.display c.journal c.speaker.beeps e.describe
    | (.ok frames, c) =>
      ⟨0, some (c.journal.note (.stopped frames)).lines, c.speaker.beeps, c.display.close⟩

/-- Carries out a command whose program has been opened. -/
def run (a : Arguments) (opened : Opened) (s : Surroundings) : Outcome :=
  let j := ({ threshold := s.threshold } : Journal).note (.running a.path a.config)
  match opened with
  | .refused e => failed { size := s.terminal } j 0 e.describe
  | .unreadable e => play a s j (.error (.file e))
  | .bytes content => play a s j (.ok content)

end Session

end Chip8
