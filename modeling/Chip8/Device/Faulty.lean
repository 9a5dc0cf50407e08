import Chip8.Device

/-!
# Devices that fail

`Faulty δ` is a device of type `δ` some of whose calls fail.  The calls are counted from
zero, the failing ones too.  A call that fails does not reach the device.
-/

namespace Chip8

/-- A device and the calls of it that fail. -/
structure Faulty (δ : Type) where
  device : δ
  text : String
  /-- The numbers of the calls that fail. -/
  failing : List Nat
  calls : Nat := 0

namespace Faulty

variable {δ α : Type}

/-- One call, which either fails or is passed on. -/
def call (d : Faulty δ) (act : δ → Except Error α × δ) : Except Error α × Faulty δ :=
  if d.calls ∈ d.failing then (.error (.io (.device d.text)), { d with calls := d.calls + 1 })
  else
    let (r, device) := act d.device
    (r, { d with device, calls := d.calls + 1 })

end Faulty

instance {δ : Type} [Display δ] : Display (Faulty δ) where
  draw d f := d.call fun x => Display.draw x f

instance {ι : Type} [EventSource ι] : EventSource (Faulty ι) where
  poll d := d.call EventSource.poll
  pollRecords d := if d.calls ∈ d.failing then [] else EventSource.pollRecords d.device

instance {σ : Type} [Speaker σ] : Speaker (Faulty σ) where
  setActive d active := d.call fun x => Speaker.setActive x active

end Chip8
