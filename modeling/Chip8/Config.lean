/-!
# Machine configuration

Three things are left to the owner of a machine: which register the shift
instructions read, how many instructions a frame holds, and the seed of the random
numbers.  The timers are not among them, since they always run at 60 Hz.
-/

namespace Chip8

/-- The register whose value `8XY6` and `8XYE` shift into `VX`. -/
inductive ShiftSource where
  /-- `VY` is shifted, as on the first machines. -/
  | vy
  /-- `VX` is shifted in place and `VY` is ignored. -/
  | vx
deriving DecidableEq, Inhabited

def ShiftSource.name : ShiftSource → String
  | .vy => "FromVy"
  | .vx => "InPlace"

/-- How often both timers count down in a second, whatever the instruction speed. -/
def timerHz : Nat := 60

/-- What the owner of a machine chooses. -/
structure Config where
  shift : ShiftSource := .vy
  /-- Instructions executed between two timer ticks. -/
  cyclesPerFrame : UInt32 := 10
  /-- Seed of the random numbers; without one their key is the entropy of the host. -/
  seed : Option UInt64 := none
deriving DecidableEq, Inhabited

/-- The configuration on one line, as the log shows it. -/
def Config.describe (c : Config) : String :=
  let seed := match c.seed with
    | some s => "Some(" ++ toString s.toNat ++ ")"
    | none => "None"
  "Config \x7b shift: " ++ c.shift.name ++ ", cycles_per_frame: " ++ toString c.cyclesPerFrame.toNat
    ++ ", seed: " ++ seed ++ " \x7d"

end Chip8
