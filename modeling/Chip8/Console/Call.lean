import Chip8.Console

/-!
# Driving a console

The calls that the owner of a console has, as data.  A call that fails is over, but the console
it leaves takes the next one.
-/

namespace Chip8

/-- What the owner of a console can do with it. -/
inductive Call where
  /-- Loads what was read, or fails as the reading did. -/
  | load (read : Except IoError (List UInt8))
  | restart
  | frame
  | play (limit : Option UInt64)

namespace Console

variable {δ ι σ : Type} [Display δ] [EventSource ι] [Speaker σ]

/-- The console after a call, whatever it answers. -/
def after (c : Console δ ι σ) : Call → Console δ ι σ
  | .load read => (c.load read).2
  | .restart => c.restart.2
  | .frame => c.frame.2
  | .play limit => (c.play limit).2

/-- The console after a list of calls. -/
def run (c : Console δ ι σ) (calls : List Call) : Console δ ι σ := calls.foldl after c

end Console

end Chip8
