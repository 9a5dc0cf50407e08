import Chip8.Error
import Chip8.Memory.Font

/-!
# Memory

4096 bytes: the font from `0x000`, a reserved part, and the program from `0x200` up.
`Memory.byteAt` is the view through which the operations are described.  An access names
a sixteen-bit address and a length.  It is carried out if every address of the range is
below `0x1000`, and is refused as a whole otherwise: addresses do not wrap, and a write
that does not fit leaves memory as it was.  The fault names the first address of the
range that does not exist.
-/

namespace Chip8

/-- The bytes that programs and sprites live in. -/
structure Memory where
  bytes : Vector UInt8 4096
deriving DecidableEq

namespace Memory

def capacity : Nat := 4096

def programStart : Nat := 0x200

/-- The longest program that fits between `programStart` and the end. -/
def maxProgramBytes : Nat := capacity - programStart

/-- The byte at an address, and zero past the end. -/
def byteAt (m : Memory) (a : Nat) : UInt8 := m.bytes.getD a 0

/-- The `len` bytes from `start` up. -/
def peek (m : Memory) (start len : Nat) : List UInt8 :=
  (List.range len).map fun j => m.byteAt (start + j)

/-- Memory with `data` from `start` up.  What would land past the end is dropped. -/
def poke (m : Memory) : (start : Nat) → (data : List UInt8) → Memory
  | _, [] => m
  | start, b :: rest => poke ⟨m.bytes.setIfInBounds start b⟩ (start + 1) rest

/-- Whether all `len` addresses from `addr` up exist. -/
def Fits (addr : UInt16) (len : Nat) : Prop := addr.toNat + len ≤ capacity

instance (addr : UInt16) (len : Nat) : Decidable (Fits addr len) :=
  inferInstanceAs (Decidable (_ ≤ _))

/-- The fault of a range from `addr` up that does not fit. -/
def rangeFault (addr : UInt16) : Fault := .addressOutOfRange (max addr.toNat capacity)

/-- The `len` bytes from `addr` up. -/
def slice (m : Memory) (addr : UInt16) (len : Nat) : Except Fault (List UInt8) :=
  if Fits addr len then .ok (m.peek addr.toNat len) else .error (rangeFault addr)

/-- Replaces the bytes from `addr` up by `data`. -/
def write (m : Memory) (data : List UInt8) (addr : UInt16) : Except Fault Memory :=
  if Fits addr data.length then .ok (m.poke addr.toNat data) else .error (rangeFault addr)

/-- Bytes of memory that are lent to be changed in place. -/
structure Loan (len : Nat) where
  /-- What the bytes are. -/
  content : Vector UInt8 len
  /-- Memory with other bytes in their place. -/
  giveBack : Vector UInt8 len → Memory

/-- Lends the `len` bytes from `addr` up. -/
def lend (m : Memory) (addr : UInt16) (len : Nat) : Except Fault (Loan len) :=
  if Fits addr len then
    .ok ⟨.ofFn fun j => m.byteAt (addr.toNat + j), fun new => m.poke addr.toNat new.toList⟩
  else .error (rangeFault addr)

/-- Changes each of the `len` bytes from `addr` up by `f`. -/
def modify (m : Memory) (addr : UInt16) (len : Nat) (f : UInt8 → UInt8) : Except Fault Memory := do
  let loan ← m.lend addr len
  return loan.giveBack (loan.content.map f)

def readByte (m : Memory) (addr : UInt16) : Except Fault UInt8 :=
  if Fits addr 1 then .ok (m.byteAt addr.toNat) else .error (rangeFault addr)

def writeByte (m : Memory) (addr : UInt16) (value : UInt8) : Except Fault Memory :=
  m.write [value] addr

/-- Two bytes as one word, the more significant byte first. -/
def readWord (m : Memory) (addr : UInt16) : Except Fault UInt16 :=
  if Fits addr 2 then
    .ok (UInt16.ofNat (256 * (m.byteAt addr.toNat).toNat + (m.byteAt (addr.toNat + 1)).toNat))
  else .error (rangeFault addr)

def loadFont (m : Memory) : Memory := m.poke 0 Font.glyphs

/-- Memory at power-on: the font, and zeros above it. -/
def powerOn : Memory := loadFont ⟨Vector.replicate 4096 0⟩

/-- Puts a program in its place, if it is not too long. -/
def loadProgram (m : Memory) (program : List UInt8) : Except Error Memory :=
  if program.length ≤ maxProgramBytes then .ok (m.poke programStart program)
  else .error (.programTooLarge program.length maxProgramBytes)

/-! ## Reading off the bytes -/

theorem slice_eq_ok_iff {m : Memory} {addr : UInt16} {len : Nat} {content : List UInt8} :
    m.slice addr len = .ok content ↔ Fits addr len ∧ content = m.peek addr.toNat len := by
  rw [slice]
  split
  · next hfits => simp [hfits, eq_comm]
  · next hfits => simp [hfits]

theorem write_eq_ok_iff {m m' : Memory} {data : List UInt8} {addr : UInt16} :
    m.write data addr = .ok m' ↔ Fits addr data.length ∧ m' = m.poke addr.toNat data := by
  rw [write]
  split
  · next hfits => simp [hfits, eq_comm]
  · next hfits => simp [hfits]

/-- A word is read exactly if both of its bytes exist, and has them as its digits. -/
theorem readWord_eq_ok_iff {m : Memory} {addr w : UInt16} :
    m.readWord addr = .ok w ↔ addr.toNat ≤ 0xFFE ∧
      w.toNat = 256 * (m.byteAt addr.toNat).toNat + (m.byteAt (addr.toNat + 1)).toNat := by
  have hhigh := (m.byteAt addr.toNat).toNat_lt
  have hlow := (m.byteAt (addr.toNat + 1)).toNat_lt
  rw [readWord]
  split
  · next hfits =>
    have hle : addr.toNat + 2 ≤ 4096 := hfits
    rw [Except.ok.injEq, ← UInt16.toNat_inj, UInt16.toNat_ofNat']
    omega
  · next hfits =>
    have hgt : ¬ addr.toNat + 2 ≤ 4096 := hfits
    constructor
    · intro h
      cases h
    · omega

/-- Access to a range fails exactly if the range reaches past the end, and the fault names the first
address there. -/
theorem range_eq_error_iff {α : Type} {a : α} {addr : UInt16} {len : Nat} {fault : Fault} :
    (if Fits addr len then Except.ok a else .error (rangeFault addr)) = .error fault ↔
      0x1000 < addr.toNat + len ∧ fault = .addressOutOfRange (max addr.toNat 0x1000) := by
  split
  · next hfits =>
    refine ⟨nofun, fun h => ?_⟩
    exact absurd hfits (Nat.not_le.2 h.1)
  · next hfits =>
    constructor
    · rintro ⟨⟩
      exact ⟨Nat.not_le.1 hfits, rfl⟩
    · rintro ⟨-, rfl⟩
      rfl

theorem slice_eq_error_iff {m : Memory} {addr : UInt16} {len : Nat} {fault : Fault} :
    m.slice addr len = .error fault ↔
      0x1000 < addr.toNat + len ∧ fault = .addressOutOfRange (max addr.toNat 0x1000) :=
  range_eq_error_iff

theorem write_eq_error_iff {m : Memory} {data : List UInt8} {addr : UInt16} {fault : Fault} :
    m.write data addr = .error fault ↔
      0x1000 < addr.toNat + data.length ∧ fault = .addressOutOfRange (max addr.toNat 0x1000) :=
  range_eq_error_iff

theorem readWord_eq_error_iff {m : Memory} {addr : UInt16} {fault : Fault} :
    m.readWord addr = .error fault ↔
      0x1000 < addr.toNat + 2 ∧ fault = .addressOutOfRange (max addr.toNat 0x1000) :=
  range_eq_error_iff

@[simp] theorem length_peek (m : Memory) (start len : Nat) : (m.peek start len).length = len := by
  simp [peek]

/-- After a write, a byte of memory is the byte written there or the old one. -/
theorem byteAt_poke (m : Memory) (start a : Nat) (data : List UInt8) (ha : a < capacity) :
    (m.poke start data).byteAt a =
      if start ≤ a ∧ a < start + data.length then data.getD (a - start) 0 else m.byteAt a := by
  induction data generalizing m start with
  | nil => rw [poke, if_neg (by simp only [List.length_nil]; omega)]
  | cons b rest ih =>
    rw [poke, ih]
    simp only [List.length_cons]
    have hlen : a < 4096 := ha
    by_cases hs : start = a
    · subst hs
      rw [if_neg (by omega), if_pos (by omega)]
      simp [byteAt, Vector.getD, hlen]
    · by_cases hin : start + 1 ≤ a ∧ a < start + 1 + rest.length
      · rw [if_pos hin, if_pos (by omega)]
        obtain ⟨k, rfl⟩ : ∃ k, a = start + 1 + k := ⟨a - (start + 1), by omega⟩
        rw [show start + 1 + k - (start + 1) = k by omega,
          show start + 1 + k - start = k + 1 by omega, List.getD_cons_succ]
      · rw [if_neg hin, if_neg (by omega)]
        simp [byteAt, Vector.getD, hlen, hs]

/-- The same with the bytes written as a list that ends. -/
theorem byteAt_poke_eq_getD (m : Memory) (start a : Nat) (data : List UInt8) (ha : a < capacity) :
    (m.poke start data).byteAt a =
      (if start ≤ a then data[a - start]? else none).getD (m.byteAt a) := by
  rw [byteAt_poke _ _ _ _ ha]
  by_cases hle : start ≤ a
  · rw [if_pos hle]
    by_cases hlt : a < start + data.length
    · rw [if_pos ⟨hle, hlt⟩, List.getD_eq_getElem?_getD, List.getElem?_eq_getElem (by omega),
        Option.getD_some, Option.getD_some]
    · have hout : ¬ (start ≤ a ∧ a < start + data.length) := fun h => hlt h.2
      rw [if_neg hout, List.getElem?_eq_none (by omega), Option.getD_none]
  · have hout : ¬ (start ≤ a ∧ a < start + data.length) := fun h => hle h.1
    rw [if_neg hout, if_neg hle, Option.getD_none]

/-! ## Memory as a list -/

theorem byteAt_eq_getElem (m : Memory) {a : Nat} (h : a < m.bytes.toList.length) :
    m.byteAt a = m.bytes.toList[a] := by
  have ha : a < 4096 := by simpa using h
  simp [byteAt, Vector.getD, ha]

theorem peek_eq_take_drop (m : Memory) {start len : Nat} (h : start + len ≤ capacity) :
    m.peek start len = (m.bytes.toList.drop start).take len := by
  have hcap : start + len ≤ 4096 := h
  refine List.ext_getElem (by simp; omega) fun i hi hi' => ?_
  rw [List.getElem_take, List.getElem_drop, ← byteAt_eq_getElem]
  simp [peek]

theorem toList_poke (m : Memory) (start : Nat) (data : List UInt8)
    (h : start + data.length ≤ capacity) :
    (m.poke start data).bytes.toList =
      m.bytes.toList.take start ++ data ++ m.bytes.toList.drop (start + data.length) := by
  induction data generalizing m start with
  | nil => simp [poke]
  | cons b rest ih =>
    rw [List.length_cons] at h
    have hlen : start < m.bytes.toList.length := by
      have hcap : start + (rest.length + 1) ≤ 4096 := h
      rw [Vector.length_toList]
      omega
    have hset : (m.bytes.setIfInBounds start b).toList = m.bytes.toList.set start b := by
      simp
    have htake : (m.bytes.toList.set start b).take (start + 1) =
        m.bytes.toList.take start ++ [b] := by
      rw [List.take_add_one, List.take_set_of_le (Nat.le_refl _), List.getElem?_set_self hlen]
      rfl
    have hdrop : (m.bytes.toList.set start b).drop (start + 1 + rest.length) =
        m.bytes.toList.drop (start + (b :: rest).length) := by
      rw [List.drop_set_of_lt (by omega), List.length_cons, Nat.add_right_comm, Nat.add_assoc]
    rw [poke, ih _ _ (by omega), hset, htake, hdrop]
    simp

end Memory

end Chip8
