import Chip8.Memory

/-!
# Changing memory

The calls that change memory, as data.  A call that is refused leaves memory as it was, and the
next call finds it so.
-/

namespace Chip8.Memory

/-- What the owner of a memory can do to change it. -/
inductive Change where
  | write (data : List UInt8) (addr : UInt16)
  | writeByte (addr : UInt16) (value : UInt8)
  /-- Borrows the `len` bytes from `addr` up and does `f` to them. -/
  | revise (addr : UInt16) (len : Nat) (f : Vector UInt8 len → Vector UInt8 len)
  | loadFont
  | loadProgram (program : List UInt8)

/-- Memory with a change made, or why the change is refused. -/
def change? (m : Memory) : Change → Except (Fault ⊕ Error) Memory
  | .write data addr => (m.write data addr).mapError .inl
  | .writeByte addr value => (m.writeByte addr value).mapError .inl
  | .revise addr len f =>
    ((m.lend addr len).map fun loan => loan.giveBack (f loan.content)).mapError .inl
  | .loadFont => .ok m.loadFont
  | .loadProgram program => (m.loadProgram program).mapError .inr

/-- Memory after a call, whether it is refused or not. -/
def after (m : Memory) (c : Change) : Memory :=
  match m.change? c with
  | .ok m' => m'
  | .error _ => m

/-- Memory after a list of calls. -/
def changed (m : Memory) (changes : List Change) : Memory := changes.foldl after m

end Chip8.Memory
