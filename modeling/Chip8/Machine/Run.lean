import Chip8.Machine.Step

/-!
# Driving a machine

The operations that the owner of a machine has, as data.  `perform` carries one out and
answers, `run` carries out a list of them, and a machine is `Reachable` if it comes from
power-on that way.  `history` follows a machine through single steps.
-/

namespace Chip8

/-- What the owner of a machine can do with it. -/
inductive Operation where
  | load (program : List UInt8)
  | step
  | runFrame
  | tick
  | keyDown (code : UInt8)
  | keyUp (code : UInt8)
  | reset
deriving DecidableEq, Inhabited

/-- What an operation that succeeds has to say. -/
inductive Reply where
  | done
  | stepped (step : Step)
  | framed (report : FrameReport)
deriving DecidableEq, Inhabited

namespace Machine

def perform (m : Machine) : Operation → Except Error Reply × Machine
  | .load program => let (r, m) := m.load program; (r.map fun _ => .done, m)
  | .step => let (r, m) := m.step; ((r.mapError .trap).map .stepped, m)
  | .runFrame => let (r, m) := m.runFrame; ((r.mapError .trap).map .framed, m)
  | .tick => (.ok .done, m.tick)
  | .keyDown code => let (r, m) := m.keyDown code; (r.map fun _ => .done, m)
  | .keyUp code => let (r, m) := m.keyUp code; (r.map fun _ => .done, m)
  | .reset => (.ok .done, m.reset)

/-- The machine after a list of operations, whatever they answer. -/
def run (m : Machine) (ops : List Operation) : Machine := ops.foldl (fun m op => (m.perform op).2) m

/-- A machine that some list of operations leads to from power-on. -/
def Reachable (m : Machine) : Prop :=
  ∃ config entropy ops, m = (powerOn config entropy).run ops

/-- The answers of up to `n` steps and the machine after each, ending with the first answer
that `stops`. -/
def history (stops : Except Trap Step → Bool) : (n : Nat) → Machine →
    List (Except Trap Step × Machine)
  | 0, _ => []
  | n + 1, m =>
    let (r, m') := m.step
    (r, m') :: if stops r then [] else history stops n m'

end Machine

end Chip8
