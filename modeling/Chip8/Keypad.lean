import Chip8.Table

/-!
# The hex keypad

Sixteen keys, each held or not.  Key codes come as bytes; `Keypad.key?` tells which of
them name a key.  A code above fifteen is never held.
-/

namespace Chip8

abbrev Key := Fin 16

/-- Which keys are held down. -/
structure Keypad where
  held : Table 16 Bool
deriving DecidableEq

namespace Keypad

def key? (code : UInt8) : Option Key :=
  if h : code.toNat < 16 then some ⟨code.toNat, h⟩ else none

def released : Keypad := ⟨.constant 16 false⟩

def press (k : Keypad) (key : Key) : Keypad := ⟨k.held.put key true⟩

def release (k : Keypad) (key : Key) : Keypad := ⟨k.held.put key false⟩

def isPressed (k : Keypad) (code : UInt8) : Bool := (key? code).any fun key => k.held.get key

/-- The held keys in ascending order. -/
def heldKeys (k : Keypad) : List Key := (List.finRange 16).filter fun key => k.held.get key

/-! ## Reading off the held keys -/

/-- A code names a key exactly if it is the number of the key. -/
theorem key?_eq_some_iff {code : UInt8} {key : Key} : key? code = some key ↔ code.toNat = key.val := by
  unfold key?
  split
  · exact ⟨fun h => congrArg Fin.val (Option.some.inj h), fun h => congrArg some (Fin.ext h)⟩
  · next hge =>
    constructor
    · intro h
      cases h
    · intro h
      have := key.isLt
      omega

theorem key?_eq_none_iff {code : UInt8} : key? code = none ↔ 16 ≤ code.toNat := by
  unfold key?
  split
  · next hlt =>
    constructor
    · intro h
      cases h
    · intro hge
      exact absurd hlt (Nat.not_lt.2 hge)
  · next hge => exact ⟨fun _ => Nat.le_of_not_lt hge, fun _ => rfl⟩

@[simp] theorem held_released (j : Key) : released.held.get j = false := Table.get_constant false j

theorem held_press (k : Keypad) (key j : Key) :
    (k.press key).held.get j = if j = key then true else k.held.get j :=
  Table.get_put k.held j key true

theorem held_release (k : Keypad) (key j : Key) :
    (k.release key).held.get j = if j = key then false else k.held.get j :=
  Table.get_put k.held j key false

/-- A code is pressed exactly if it names a key and the key is held. -/
theorem isPressed_iff {k : Keypad} {code : UInt8} :
    k.isPressed code = true ↔ ∃ key : Key, code.toNat = key.val ∧ k.held.get key = true := by
  simp only [isPressed, Option.any_eq_true, key?_eq_some_iff]

/-- The list of the held keys leaves none out and adds none. -/
theorem mem_heldKeys {k : Keypad} {key : Key} : key ∈ k.heldKeys ↔ k.held.get key = true := by
  simp [heldKeys]

end Keypad

end Chip8
