/-!
# Timers

Two countdowns, one that programs read and one that sounds while it runs.  A tick takes
one from each, and both rest at zero.
-/

namespace Chip8

/-- The delay and sound countdowns. -/
structure Timers where
  delay : UInt8 := 0
  /-- Sounds while it is not zero. -/
  sound : UInt8 := 0
deriving DecidableEq, Inhabited

namespace Timers

/-- One less, down to zero. -/
def countDown (t : UInt8) : UInt8 := if t = 0 then 0 else t - 1

def tick (t : Timers) : Timers := ⟨countDown t.delay, countDown t.sound⟩

def soundActive (t : Timers) : Bool := t.sound ≠ 0

/-- Counting down is subtraction that stops at zero. -/
theorem toNat_countDown (t : UInt8) : (countDown t).toNat = t.toNat - 1 := by
  unfold countDown
  split
  · next h => subst h; rfl
  · next h =>
    have : 1 ≤ t.toNat := by
      rcases Nat.eq_zero_or_pos t.toNat with h0 | h0
      · exact absurd (UInt8.toNat_inj.mp h0) h
      · exact h0
    rw [UInt8.toNat_sub_of_le _ _ (by rw [UInt8.le_iff_toNat_le]; exact this)]
    rfl

end Timers

end Chip8
