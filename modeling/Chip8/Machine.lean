import Chip8.Config
import Chip8.Memory
import Chip8.Registers
import Chip8.Timers
import Chip8.Screen
import Chip8.Keypad
import Chip8.Random.Generator

/-!
# The machine

Memory, registers, timers, screen, keypad and a source of random numbers, together with
what the machine is doing: running, waiting for a key, or halted by a trap.  Nothing here
is timed or blocks.  Whoever owns a machine loads a program, passes key events on and asks
for steps and ticks; this module holds the operations that execute nothing.
-/

namespace Chip8

/-- What a machine is doing. -/
inductive Activity where
  | running
  /-- It waits for a key, whose code goes to this register. -/
  | awaitingKey (target : Register)
  /-- A trap stopped it, and only a reset starts it again. -/
  | halted (trap : Trap)
deriving DecidableEq, Inhabited

/-- A complete machine. -/
structure Machine where
  memory : Memory
  registers : Registers
  timers : Timers
  screen : Screen
  keypad : Keypad
  activity : Activity
  config : Config
  generator : Generator
deriving DecidableEq

namespace Machine

/-- A machine at power-on.  The key of its random numbers is made of the seed of the configuration,
and is `entropy` if that has none. -/
def powerOn (config : Config) (entropy : ChaCha.Key) : Machine where
  memory := .powerOn
  registers := .powerOn
  timers := {}
  screen := .blank
  keypad := .released
  activity := .running
  config
  generator := { key := config.seed.elim entropy Generator.keyOfSeed }

/-- Back to power-on.  The configuration stays, and the random numbers go on where they are. -/
def reset (m : Machine) : Machine :=
  { m with
    memory := .powerOn
    registers := .powerOn
    timers := {}
    screen := .blank
    keypad := .released
    activity := .running }

/-- Loads a program into memory as it is.  Nothing else changes, and nothing at all if the
program is too long. -/
def load (m : Machine) (program : List UInt8) : Except Error Unit × Machine :=
  match m.memory.loadProgram program with
  | .error e => (.error e, m)
  | .ok memory => (.ok (), { m with memory })

def soundActive (m : Machine) : Bool := m.timers.soundActive

def isAwaitingKey (m : Machine) : Bool :=
  match m.activity with
  | .awaitingKey _ => true
  | _ => false

/-- One tick of both timers, whatever the machine is doing. -/
def tick (m : Machine) : Machine := { m with timers := m.timers.tick }

/-- A key goes down.  If the machine waits for one, the code of the key is written to the
register that waits, and the machine runs again from the next step. -/
def keyDown (m : Machine) (code : UInt8) : Except Error Unit × Machine :=
  match Keypad.key? code with
  | none => (.error (.invalidKey code), m)
  | some key =>
    let m := { m with keypad := m.keypad.press key }
    match m.activity with
    | .awaitingKey target =>
      (.ok (), { m with registers := m.registers.set target code, activity := .running })
    | _ => (.ok (), m)

def keyUp (m : Machine) (code : UInt8) : Except Error Unit × Machine :=
  match Keypad.key? code with
  | none => (.error (.invalidKey code), m)
  | some key => (.ok (), { m with keypad := m.keypad.release key })

end Machine

end Chip8
