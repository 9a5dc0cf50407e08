import Chip8.Error
import Chip8.Keypad
import Chip8.Keyboard.Event

/-!
# Held keys

A terminal tells when a key is pressed, and again while it repeats, but not when it comes
up.  So a key counts as held until eight polls in a row did not tell of it.  The hold table
has a counter for each key, which a press sets to eight and a poll without one takes one
from; a key goes down when its counter leaves zero and comes up when it reaches zero.
-/

namespace Chip8

/-- For each key, how many more polls it is held without being pressed again. -/
structure Hold where
  counters : Table 16 Nat
deriving DecidableEq

namespace Hold

/-- How many polls a key stays down after its last press. -/
def frames : Nat := 8

def empty : Hold := ⟨.constant 16 0⟩

def count (h : Hold) (k : Key) : Nat := h.counters.get k

def refresh (h : Hold) (k : Key) : Hold := ⟨h.counters.put k frames⟩

/-- Takes the presses of a poll.  Yields the events to pass on, the table and the keys that
were pressed: only the first press of a key that is not held is passed on, and all events of
other kinds are.  A press that names no key is an error. -/
def press (h : Hold) : List Event → Except Error (List Event × Hold × List Key)
  | [] => .ok ([], h, [])
  | .down code :: rest =>
    match Keypad.key? code with
    | none => .error (.invalidKey code)
    | some k => do
      let (events, h', pressed) ← (h.refresh k).press rest
      return (if h.count k = 0 then .down code :: events else events, h', k :: pressed)
  | e :: rest => do
    let (events, h', pressed) ← h.press rest
    return (e :: events, h', pressed)

/-- Takes one from the counter of every key that was not pressed. -/
def age (h : Hold) (pressed : List Key) : Hold :=
  ⟨.ofFn fun k => if k ∈ pressed then h.count k else h.count k - 1⟩

/-- The keys whose counter runs out in this poll, in ascending order. -/
def expiring (h : Hold) (pressed : List Key) : List Key :=
  (List.finRange 16).filter fun k => k ∉ pressed ∧ h.count k = 1

def upEvent (k : Key) : Event := .up (UInt8.ofNat k)

/-- One poll: the presses it told of become events, and after them come up the keys whose
counter runs out. -/
def poll (h : Hold) (presses : List Event) : Except Error (List Event × Hold) := do
  let (events, h, pressed) ← h.press presses
  return (events ++ (h.expiring pressed).map upEvent, h.age pressed)

/-! ## Reading off the counters -/

@[simp] theorem count_empty (j : Key) : empty.count j = 0 := Table.get_constant 0 j

theorem count_refresh (h : Hold) (k j : Key) :
    (h.refresh k).count j = if j = k then frames else h.count j :=
  Table.get_put h.counters j k frames

theorem count_age_of_mem (h : Hold) {pressed : List Key} {j : Key} (hj : j ∈ pressed) :
    (h.age pressed).count j = h.count j :=
  (Table.get_ofFn _ j).trans (if_pos hj)

theorem count_age_of_not_mem (h : Hold) {pressed : List Key} {j : Key} (hj : j ∉ pressed) :
    (h.age pressed).count j = h.count j - 1 :=
  (Table.get_ofFn _ j).trans (if_neg hj)

/-- The keys that expire are the unpressed ones with one poll left. -/
theorem mem_expiring {h : Hold} {pressed : List Key} {k : Key} :
    k ∈ h.expiring pressed ↔ k ∉ pressed ∧ h.count k = 1 := by
  simp [expiring]

end Hold

end Chip8
