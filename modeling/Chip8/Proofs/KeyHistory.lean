import Mathlib.Data.List.FinRange
import Mathlib.Data.List.Induction
import Chip8.Proofs.Bare.Agreement
import Chip8.Proofs.HeldKeys

/-!
# What the keypad remembers

The keypad knows nothing of a history of operations but, for each key, the last one that was
about it: a press, a release or a reset.  A key is held exactly if that was its press
(`isPressed_run`).  No program, tick or load comes in between, and neither does an event for a
code that names no key, since such an event is refused.  So a program that asks for a key is
told what happened to that key last, for all 256 codes it can ask for (`keys_as_pressed`).

The same is said of the bare machine, whose keypad is one word with a bit for each key.
-/

namespace Chip8

/-! ## The last operation about a key -/

namespace Operation

/-- The operation presses or releases the key of a code, or releases all keys. -/
def concerns (code : UInt8) : Operation → Bool
  | keyDown c | keyUp c => c = code
  | reset => true
  | _ => false

theorem concerns_keyDown (c code : UInt8) : (keyDown c).concerns code = decide (c = code) := rfl

theorem concerns_keyUp (c code : UInt8) : (keyUp c).concerns code = decide (c = code) := rfl

theorem concerns_reset (code : UInt8) : reset.concerns code = true := rfl

/-- The last of some operations that concerns the key of a code. -/
def lastAbout? (code : UInt8) (ops : List Operation) : Option Operation :=
  ops.reverse.find? (concerns code)

/-- The code names a key, and the last that was done to the key was to press it. -/
def LeavesDown (ops : List Operation) (code : UInt8) : Prop :=
  code.toNat < 16 ∧ lastAbout? code ops = some (.keyDown code)

instance (ops : List Operation) (code : UInt8) : Decidable (LeavesDown ops code) :=
  inferInstanceAs (Decidable (_ ∧ _))

theorem not_leavesDown_nil (code : UInt8) : ¬ LeavesDown [] code := fun h => nomatch h.2

/-- One more operation decides about the key if it concerns it. -/
theorem leavesDown_concat (ops : List Operation) (op : Operation) (code : UInt8) :
    LeavesDown (ops ++ [op]) code ↔
      if op.concerns code then code.toNat < 16 ∧ op = .keyDown code else LeavesDown ops code := by
  rw [LeavesDown, lastAbout?, List.reverse_append, List.reverse_singleton, List.singleton_append,
    List.find?_cons]
  cases op.concerns code with
  | true => simp
  | false => exact Iff.rfl

end Operation

/-! ## Codes and the keypad -/

namespace Keypad

variable {keypad : Keypad} {c code : UInt8}

theorem isPressed_of_key?_eq_none (h : key? code = none) : keypad.isPressed code = false := by
  rw [isPressed, h]
  rfl

theorem isPressed_of_key? {key : Key} (h : key? code = some key) :
    keypad.isPressed code = keypad.held.get key := by
  rw [isPressed, h]
  rfl

theorem isPressed_released (code : UInt8) : released.isPressed code = false := by
  cases h : key? code with
  | none => exact isPressed_of_key?_eq_none h
  | some key => rw [isPressed_of_key? h, held_released]

/-- Different codes name different keys. -/
theorem key_ne_of_ne {key key' : Key} (h : key? c = some key) (h' : key? code = some key')
    (hne : c ≠ code) : key' ≠ key := by
  rintro rfl
  rw [key?_eq_some_iff] at h h'
  exact hne (UInt8.toNat_inj.1 (h.trans h'.symm))

/-- What is done to the key of a code is seen at this code and no other. -/
theorem isPressed_of_held {keypad' : Keypad} {key : Key} {down : Bool} (hc : key? c = some key)
    (hheld : ∀ j, keypad'.held.get j = if j = key then down else keypad.held.get j)
    (code : UInt8) :
    keypad'.isPressed code = if c = code then down else keypad.isPressed code := by
  split
  · next heq =>
    rw [← heq, isPressed_of_key? hc, hheld, if_pos rfl]
  · next hne =>
    cases hcode : key? code with
    | none => rw [isPressed_of_key?_eq_none hcode, isPressed_of_key?_eq_none hcode]
    | some key' =>
      rw [isPressed_of_key? hcode, isPressed_of_key? hcode, hheld,
        if_neg (key_ne_of_ne hc hcode hne)]

theorem isPressed_heed_down (keypad : Keypad) (c code : UInt8) :
    (keypad.heed (.down c)).isPressed code =
      if c = code then decide (code.toNat < 16) else keypad.isPressed code := by
  cases hc : key? c with
  | none =>
    have hge := key?_eq_none_iff.1 hc
    rw [heed, hc]
    show keypad.isPressed code = _
    split
    · next heq =>
      rw [← heq, isPressed_of_key?_eq_none hc, decide_eq_false (Nat.not_lt.2 hge)]
    · rfl
  | some key =>
    have hlt : c.toNat < 16 := (key?_eq_some_iff.1 hc).trans_lt key.isLt
    rw [heed_down hc, isPressed_of_held hc (keypad.held_press key)]
    split
    · next heq => rw [← heq, decide_eq_true hlt]
    · rfl

theorem isPressed_heed_up (keypad : Keypad) (c code : UInt8) :
    (keypad.heed (.up c)).isPressed code = if c = code then false else keypad.isPressed code := by
  rw [heed]
  cases hc : key? c with
  | none =>
    show keypad.isPressed code = _
    split
    · next heq => rw [← heq, isPressed_of_key?_eq_none hc]
    · rfl
  | some key => exact isPressed_of_held hc (keypad.held_release key) code

theorem heldKeys_ascending (keypad : Keypad) : keypad.heldKeys.Pairwise (· < ·) :=
  (List.pairwise_lt_finRange 16).filter _

end Keypad

namespace Machine

open Operation (LeavesDown)

variable {m : Machine}

/-! ## Runs -/

/-- An operation that concerns the key of a code settles whether it is pressed, and any other leaves
it as it was. -/
theorem isPressed_perform (m : Machine) (op : Operation) (code : UInt8) :
    (m.perform op).2.keypad.isPressed code =
      if op.concerns code then decide (code.toNat < 16 ∧ op = .keyDown code)
      else m.keypad.isPressed code := by
  cases op with
  | load program =>
    obtain ⟨memory, hl⟩ := m.load_eq program
    have hkeypad : (m.perform (.load program)).2.keypad = m.keypad := by
      show (m.load program).2.keypad = _
      rw [hl]
    rw [hkeypad]
    rfl
  | step =>
    have hkeypad : (m.perform .step).2.keypad = m.keypad := m.keypad_step
    rw [hkeypad]
    rfl
  | runFrame =>
    have hkeypad : (m.perform .runFrame).2.keypad = m.keypad := m.keypad_runFrame
    rw [hkeypad]
    rfl
  | tick => rfl
  | keyDown c =>
    have hkeypad : (m.perform (.keyDown c)).2.keypad = m.keypad.heed (.down c) := m.keypad_keyDown c
    rw [hkeypad, Keypad.isPressed_heed_down, Operation.concerns_keyDown]
    simp only [decide_eq_true_eq, Operation.keyDown.injEq]
    split
    · next heq => simp [heq]
    · rfl
  | keyUp c =>
    have hkeypad : (m.perform (.keyUp c)).2.keypad = m.keypad.heed (.up c) := m.keypad_keyUp c
    rw [hkeypad, Keypad.isPressed_heed_up, Operation.concerns_keyUp]
    simp
  | reset =>
    have hkeypad : (m.perform .reset).2.keypad = .released := by
      show m.reset.keypad = _
      rw [reset]
    rw [hkeypad, Keypad.isPressed_released, Operation.concerns_reset]
    simp

/-- A code is pressed exactly if operations from power-on have left its key down. -/
theorem isPressed_run (config : Config) (entropy : ChaCha.Key) (ops : List Operation)
    (code : UInt8) :
    ((powerOn config entropy).run ops).keypad.isPressed code = decide (LeavesDown ops code) := by
  induction ops using List.reverseRecOn with
  | nil =>
    rw [decide_eq_false (Operation.not_leavesDown_nil code)]
    exact Keypad.isPressed_released code
  | append_singleton ops op ih =>
    have hlast := Operation.leavesDown_concat ops op code
    rw [run_append]
    show (((powerOn config entropy).run ops).perform op).2.keypad.isPressed code = _
    rw [isPressed_perform, ih]
    split
    · next hop =>
      rw [if_pos hop] at hlast
      exact (decide_eq_decide.2 hlast).symm
    · next hop =>
      rw [if_neg hop] at hlast
      exact (decide_eq_decide.2 hlast).symm

/-! ## Asking for a key -/

/-- A skip is carried out without fail, and skips if its condition holds. -/
theorem Runs.step_of_skip {c : Condition} (h : m.Runs (.skip c)) :
    m.step = (.ok .executed, m.goTo (m.registers.pc + if m.holds c then 4 else 2)) := by
  obtain ⟨opcode, hs⟩ := h.step_of_execute rfl
  rw [hs]
  cases m.holds c with
  | _ => rfl

/-- An event for a code that names no key is refused. -/
theorem perform_of_invalidKey {code : UInt8} (h : 16 ≤ code.toNat) :
    m.perform (.keyDown code) = (.error (.invalidKey code), m) ∧
      m.perform (.keyUp code) = (.error (.invalidKey code), m) := by
  have hnone := Keypad.key?_eq_none_iff.2 h
  have hdown : m.keyDown code = (.error (.invalidKey code), m) := by
    rw [keyDown, hnone]
  have hup : m.keyUp code = (.error (.invalidKey code), m) := by
    rw [keyUp, hnone]
  rw [perform, perform, hdown, hup]
  exact ⟨rfl, rfl⟩

/-- Whatever was done since power-on, the keypad reports a code exactly if the code names a key and
the last of its presses, its releases and the resets was a press.  The held keys are listed in
ascending order, an event for a code that names no key changes nothing, and the instructions
that ask for the key of a code skip by the same rule for each of the 256 codes.  The bits of
the bare machine's keypad say the same.  Since the parts of a frame are operations too, all
this holds at every moment of a frame as well. -/
theorem keys_as_pressed (config : Config) (entropy : ChaCha.Key) (ops : List Operation) :
    let m := (powerOn config entropy).run ops
    (∀ code, m.keypad.isPressed code = true ↔ LeavesDown ops code) ∧
    (m.keypad.heldKeys.Pairwise (· < ·) ∧
      ∀ key : Key, key ∈ m.keypad.heldKeys ↔ LeavesDown ops (UInt8.ofNat key)) ∧
    (∀ code : UInt8, 16 ≤ code.toNat →
      m.perform (.keyDown code) = (.error (.invalidKey code), m) ∧
      m.perform (.keyUp code) = (.error (.invalidKey code), m)) ∧
    (∀ x, m.Runs (.skip (.keyHeld x)) → m.step = (.ok .executed,
      m.goTo (m.registers.pc + if LeavesDown ops (m.registers.get x) then 4 else 2))) ∧
    (∀ x, m.Runs (.skip (.keyFree x)) → m.step = (.ok .executed,
      m.goTo (m.registers.pc + if LeavesDown ops (m.registers.get x) then 2 else 4))) ∧
    ∃ b, (Bare.Machine.powerOn config entropy >>= fun b => b.run ops) = .ok b ∧
      (∀ code, Bare.isPressed b.held code = .ok (decide (LeavesDown ops code))) ∧
      ∀ key : Key, b.held.toBitVec.getLsbD key = decide (LeavesDown ops (UInt8.ofNat key)) := by
  intro m
  have hpressed (code : UInt8) : m.keypad.isPressed code = decide (LeavesDown ops code) :=
    isPressed_run config entropy ops code
  have hheld (key : Key) :
      m.keypad.held.get key = decide (LeavesDown ops (UInt8.ofNat key)) := by
    rw [← hpressed, Keypad.isPressed_ofNat]
  refine ⟨?_, ⟨m.keypad.heldKeys_ascending, ?_⟩, fun _ => perform_of_invalidKey, ?_, ?_, ?_⟩
  · intro code
    rw [hpressed, decide_eq_true_iff]
  · intro key
    rw [Keypad.mem_heldKeys, hheld, decide_eq_true_iff]
  · intro x hruns
    have hholds : m.holds (.keyHeld x) = decide (LeavesDown ops (m.registers.get x)) := hpressed _
    rw [hruns.step_of_skip, hholds]
    simp only [decide_eq_true_eq]
  · intro x hruns
    have hholds : m.holds (.keyFree x) = !decide (LeavesDown ops (m.registers.get x)) :=
      congrArg (!·) (hpressed _)
    rw [hruns.step_of_skip, hholds]
    simp only [Bool.not_eq_true', decide_eq_false_iff_not, ite_not]
  · refine ⟨m.bare, (run_powerOn_never_panics config entropy ops).1, ?_, ?_⟩
    · intro code
      rw [← hpressed]
      exact m.keypad.isPressed_bare code
    · intro key
      rw [← hheld]
      exact m.keypad.getLsbD_bits key

/-- Key 5 goes down, and an event for the code 0x15, which has the same low digit, is refused.  So
a program that asks for the key of this code does not find it held. -/
theorem keys_as_pressed_alias :
    let ops : List Operation :=
      [.load [0x60, 0x15, 0xE0, 0x9E], .keyDown 5, .keyDown 0x15, .keyUp 0x25, .step]
    let m := (powerOn {} 0).run ops
    m.Runs (.skip (.keyHeld 0)) ∧ m.registers.get 0 = 0x15 ∧
      m.keypad.isPressed 5 = true ∧ m.keypad.isPressed 0x15 = false ∧
      m.perform (.keyUp 0x15) = (.error (.invalidKey 0x15), m) ∧
      m.step = (.ok .executed, m.goTo (m.registers.pc + 2)) := by
  intro ops m
  obtain ⟨hpressed, -, hinvalid, hskip, -, -⟩ := keys_as_pressed {} 0 ops
  obtain ⟨hruns, hx⟩ : m.Runs (.skip (.keyHeld 0)) ∧ m.registers.get 0 = 0x15 := by
    decide +kernel
  have halias : ¬ LeavesDown ops 0x15 := by decide
  refine ⟨hruns, hx, (hpressed 5).2 (by decide), ?_, (hinvalid 0x15 (by decide)).2, ?_⟩
  · exact Bool.eq_false_iff.2 fun h => halias ((hpressed 0x15).1 h)
  · have hm : (powerOn {} 0).run ops = m := rfl
    have hstep := hskip 0 hruns
    rw [hm, hx, if_neg halias] at hstep
    exact hstep

end Machine

end Chip8
