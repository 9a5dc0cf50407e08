import Chip8.Fault
import Chip8.Table

/-!
# Registers

`V0` to `VF`, the index register, the program counter and the call stack.  `VF` is an
ordinary register that arithmetic and drawing also write their flag to.  The stack holds
return addresses, the latest call first, and has room for sixteen.
-/

namespace Chip8

abbrev Register := Fin 16

/-- The register that carries, borrows, lost bits and collisions are written to. -/
def Register.flag : Register := ⟨15, by decide⟩

/-- `V0`. -/
def Register.first : Register := ⟨0, by decide⟩

/-- What the processor keeps outside memory. -/
structure Registers where
  v : Table 16 UInt8
  /-- The address that sprites, digits and register blocks are found at. -/
  index : UInt16
  pc : UInt16
  /-- Return addresses, the latest call first. -/
  stack : List UInt16
deriving DecidableEq

namespace Registers

/-- The most calls that can be open at a time. -/
def stackDepth : Nat := 16

/-- Registers at power-on: everything zero and the program about to start. -/
def powerOn : Registers where
  v := .constant 16 0
  index := 0
  pc := 0x200
  stack := []

def get (r : Registers) (x : Register) : UInt8 := r.v.get x

def set (r : Registers) (x : Register) (value : UInt8) : Registers :=
  { r with v := r.v.put x value }

/-- Writes a condition to the flag register, as one or zero. -/
def setFlag (r : Registers) (raised : Bool) : Registers := r.set .flag raised.toUInt8

/-- The values of `V0` up to and including `VX`. -/
def upTo (r : Registers) (x : Register) : List UInt8 := r.v.toList.take (x.val + 1)

/-- Replaces `V0`, `V1`, … by as many values as are given. -/
def setFirst (r : Registers) (values : List UInt8) : Registers :=
  { r with v := .ofFn fun k => values.getD k.val (r.get k) }

/-- Opens a call that is to return to `addr`. -/
def push (r : Registers) (addr : UInt16) : Except Fault Registers :=
  if r.stack.length = stackDepth then .error .stackOverflow
  else .ok { r with stack := addr :: r.stack }

/-- Closes the latest call and says where it returns to. -/
def pop (r : Registers) : Except Fault (UInt16 × Registers) :=
  match r.stack with
  | [] => .error .stackUnderflow
  | addr :: rest => .ok (addr, { r with stack := rest })

/-! ## What setting general registers leaves alone -/

@[simp] theorem index_set (r : Registers) (x : Register) (value : UInt8) :
    (r.set x value).index = r.index := rfl

@[simp] theorem pc_set (r : Registers) (x : Register) (value : UInt8) :
    (r.set x value).pc = r.pc := rfl

@[simp] theorem stack_set (r : Registers) (x : Register) (value : UInt8) :
    (r.set x value).stack = r.stack := rfl

@[simp] theorem index_setFirst (r : Registers) (values : List UInt8) :
    (r.setFirst values).index = r.index := by rw [setFirst]

@[simp] theorem pc_setFirst (r : Registers) (values : List UInt8) :
    (r.setFirst values).pc = r.pc := by rw [setFirst]

@[simp] theorem stack_setFirst (r : Registers) (values : List UInt8) :
    (r.setFirst values).stack = r.stack := by rw [setFirst]

/-! ## Calls that cannot be opened or closed -/

theorem push_eq_error_iff {r : Registers} {addr : UInt16} {fault : Fault} :
    r.push addr = .error fault ↔ r.stack.length = 16 ∧ fault = .stackOverflow := by
  rw [push, stackDepth]
  split
  · next hfull => simp [hfull, eq_comm]
  · next hroom => simp [hroom]

theorem pop_eq_error_iff {r : Registers} {fault : Fault} :
    r.pop = .error fault ↔ r.stack = [] ∧ fault = .stackUnderflow := by
  rw [pop]
  cases r.stack with
  | nil => simp [eq_comm]
  | cons target rest => simp

/-! ## Reading off the general registers -/

@[simp] theorem length_upTo (r : Registers) (x : Register) : (r.upTo x).length = x + 1 := by
  have hx := x.isLt
  rw [upTo, List.length_take, Vector.length_toList]
  omega

theorem get_set (r : Registers) (x y : Register) (value : UInt8) :
    (r.set x value).get y = if y = x then value else r.get y :=
  Table.get_put r.v y x value

@[simp] theorem get_set_self (r : Registers) (x : Register) (value : UInt8) :
    (r.set x value).get x = value := by simp [get_set]

theorem get_setFirst (r : Registers) (values : List UInt8) (y : Register) :
    (r.setFirst values).get y = values.getD y.val (r.get y) :=
  Table.get_ofFn _ y

end Registers

end Chip8
