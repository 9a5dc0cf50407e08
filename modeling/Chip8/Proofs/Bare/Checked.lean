/-!
# Checked operations

Lists, words and sizes whose operations look before they act.  An index past the end, a
range that leaves its list, a copy between ranges of different lengths, a sum or product
that does not fit its word and a shift by the width of its word are all refused, and the
refusal is a `Panic`.  A computation in `Checked` ends with its first panic.

Each operation has one equation, for the arguments it accepts.
-/

namespace Chip8

/-- What a failed check has found. -/
inductive Panic where
  | indexOutOfBounds (i length : Nat)
  | rangeOutOfBounds (start stop length : Nat)
  | lengthMismatch (target source : Nat)
  | overflow
  | shiftTooLarge (amount : Nat)
deriving DecidableEq, Inhabited

/-- A computation that a failed check ends. -/
abbrev Checked (α : Type) := Except Panic α

theorem ok_bind {ε α β : Type} (a : α) (f : α → Except ε β) :
    (Except.ok a >>= f) = f a := rfl

theorem pure_eq_ok {ε α : Type} (a : α) : (pure a : Except ε α) = .ok a := rfl

namespace Checked

variable {α : Type}

/-! ## Lists -/

/-- The entry at an index. -/
def get (xs : List α) (i : Nat) : Checked α :=
  match xs[i]? with
  | some a => .ok a
  | none => .error (.indexOutOfBounds i xs.length)

/-- Replaces the entry at an index. -/
def put (xs : List α) (i : Nat) (a : α) : Checked (List α) :=
  if i < xs.length then .ok (xs.set i a) else .error (.indexOutOfBounds i xs.length)

/-- The entries from `start` up to but not including `stop`. -/
def range (xs : List α) (start stop : Nat) : Checked (List α) :=
  if start ≤ stop ∧ stop ≤ xs.length then .ok ((xs.drop start).take (stop - start))
  else .error (.rangeOutOfBounds start stop xs.length)

/-- Replaces the entries from `start` up to but not including `stop` by as many others. -/
def copy (xs : List α) (start stop : Nat) (source : List α) : Checked (List α) :=
  if start ≤ stop ∧ stop ≤ xs.length then
    if stop - start = source.length then .ok (xs.take start ++ source ++ xs.drop stop)
    else .error (.lengthMismatch (stop - start) source.length)
  else .error (.rangeOutOfBounds start stop xs.length)

theorem get_eq_ok {xs : List α} {i : Nat} (h : i < xs.length) : get xs i = .ok xs[i] := by
  rw [get, List.getElem?_eq_getElem h]

theorem put_eq_ok {xs : List α} {i : Nat} (h : i < xs.length) (a : α) :
    put xs i a = .ok (xs.set i a) := by
  rw [put, if_pos h]

theorem range_eq_ok {xs : List α} {start len : Nat} (h : start + len ≤ xs.length) :
    range xs start (start + len) = .ok ((xs.drop start).take len) := by
  rw [range, if_pos ⟨by omega, h⟩, Nat.add_sub_cancel_left]

theorem copy_eq_ok {xs source : List α} {start : Nat} (h : start + source.length ≤ xs.length) :
    copy xs start (start + source.length) source =
      .ok (xs.take start ++ source ++ xs.drop (start + source.length)) := by
  rw [copy, if_pos ⟨by omega, h⟩, if_pos (by omega)]

/-! ## Numbers -/

/-- The sum of two words of sixteen bits. -/
def addWord (a b : UInt16) : Checked UInt16 :=
  if a.toNat + b.toNat < UInt16.size then .ok (a + b) else .error .overflow

/-- The product of two words of sixteen bits. -/
def mulWord (a b : UInt16) : Checked UInt16 :=
  if a.toNat * b.toNat < UInt16.size then .ok (a * b) else .error .overflow

/-- The sum of two words of thirty-two bits. -/
def addCount (a b : UInt32) : Checked UInt32 :=
  if a.toNat + b.toNat < UInt32.size then .ok (a + b) else .error .overflow

/-- The sum of two sizes, which are numbers of sixty-four bits. -/
def addSize (a b : Nat) : Checked Nat :=
  if a + b < UInt64.size then .ok (a + b) else .error .overflow

/-- The difference of two bytes. -/
def subByte (a b : UInt8) : Checked UInt8 := if b ≤ a then .ok (a - b) else .error .overflow

/-- The word of sixteen bits in which only bit `i` is set. -/
def bit (i : UInt8) : Checked UInt16 :=
  if i.toNat < 16 then .ok (1 <<< i.toUInt16) else .error (.shiftTooLarge i.toNat)

theorem addWord_eq_ok {a b : UInt16} (h : a.toNat + b.toNat < 65536) :
    addWord a b = .ok (a + b) :=
  if_pos h

theorem mulWord_eq_ok {a b : UInt16} (h : a.toNat * b.toNat < 65536) :
    mulWord a b = .ok (a * b) :=
  if_pos h

theorem addCount_eq_ok {a b : UInt32} (h : a.toNat + b.toNat < 4294967296) :
    addCount a b = .ok (a + b) :=
  if_pos h

theorem addSize_eq_ok {a b : Nat} (h : a + b < 18446744073709551616) :
    addSize a b = .ok (a + b) :=
  if_pos h

theorem subByte_eq_ok {a b : UInt8} (h : b.toNat ≤ a.toNat) : subByte a b = .ok (a - b) :=
  if_pos h

theorem bit_eq_ok {i : UInt8} (h : i.toNat < 16) : bit i = .ok (1 <<< i.toUInt16) :=
  if_pos h

end Checked

end Chip8
