import Mathlib.Order.Bounds.Basic
import Chip8.Memory.Change

/-!
# Bytes over bytes

All accesses to a range of addresses are guarded in the same way: they are granted exactly if every
address of the range exists, and otherwise the fault names the first that does not (`Guarded`).  A
range, a word and a loan consist of the bytes that are read one by one.

A change of memory puts a row of bytes in one place or is refused.  So a byte of memory is the one
that the last change to reach it put there, and the one at power-on if there was none
(`byteAt_changed`).
-/

namespace Chip8.Memory

variable {m m' : Memory} {addr : UInt16} {len : Nat}

/-! ## Guarded ranges -/

/-- The first of the `len` addresses from `addr` up that does not exist. -/
def IsFirstMissing (addr : UInt16) (len b : Nat) : Prop :=
  IsLeast {b | addr.toNat ≤ b ∧ b < addr.toNat + len ∧ 0x1000 ≤ b} b

/-- An access to the `len` bytes from `addr` up is granted if they all exist, and only then. -/
structure Guarded {α : Type} (addr : UInt16) (len : Nat) (r : Except Fault α) : Prop where
  granted_iff : (∃ a, r = .ok a) ↔ ∀ b, addr.toNat ≤ b → b < addr.toNat + len → b < 0x1000
  refused_iff : ∀ fault, r = .error fault ↔
    ∃ b, IsFirstMissing addr len b ∧ fault = .addressOutOfRange b

/-- In a range that is not empty the first address that does not exist is the end of memory, or the
start of the range if that lies behind. -/
theorem isFirstMissing_iff (hlen : 1 ≤ len) {b : Nat} :
    IsFirstMissing addr len b ↔ 0x1000 < addr.toNat + len ∧ b = max addr.toNat 0x1000 := by
  constructor
  · rintro ⟨⟨hle, hlt, hmissing⟩, hleast⟩
    have hend : 0x1000 < addr.toNat + len := by omega
    have hfirst : b ≤ max addr.toNat 0x1000 := hleast ⟨by omega, by omega, by omega⟩
    exact ⟨hend, by omega⟩
  · rintro ⟨hend, rfl⟩
    refine ⟨⟨by omega, by omega, by omega⟩, ?_⟩
    rintro c ⟨hle, -, hmissing⟩
    omega

theorem guarded_range {α : Type} {a : α} (hlen : 1 ≤ len) :
    Guarded addr len (if Fits addr len then Except.ok a else .error (rangeFault addr)) where
  granted_iff := by
    constructor
    · rintro ⟨a', h⟩ b - hlt
      by_contra hmissing
      have hend : 0x1000 < addr.toNat + len := by omega
      rw [range_eq_error_iff.2 ⟨hend, rfl⟩] at h
      cases h
    · intro h
      have hlast := h (addr.toNat + len - 1) (by omega) (by omega)
      have hfits : Fits addr len := by
        show addr.toNat + len ≤ 0x1000
        omega
      exact ⟨a, if_pos hfits⟩
  refused_iff fault := by
    rw [range_eq_error_iff]
    constructor
    · rintro ⟨hend, rfl⟩
      exact ⟨_, (isFirstMissing_iff hlen).2 ⟨hend, rfl⟩, rfl⟩
    · rintro ⟨b, hb, rfl⟩
      obtain ⟨hend, rfl⟩ := (isFirstMissing_iff hlen).1 hb
      exact ⟨hend, rfl⟩

/-! ## Byte by byte -/

theorem readByte_eq_ok_iff {b : UInt8} :
    m.readByte addr = .ok b ↔ addr.toNat < 0x1000 ∧ b = m.byteAt addr.toNat := by
  rw [readByte]
  split
  · next hfits =>
    have hlt : addr.toNat + 1 ≤ 0x1000 := hfits
    rw [Except.ok.injEq, eq_comm, and_iff_right (by omega)]
  · next hfits =>
    have hge : ¬ addr.toNat + 1 ≤ 0x1000 := hfits
    constructor
    · intro h
      cases h
    · omega

/-- An address inside a range that exists is counted on from its start without overflow. -/
theorem readByte_add {j : Nat} (h : addr.toNat + j < 0x1000) :
    m.readByte (addr + .ofNat j) = .ok (m.byteAt (addr.toNat + j)) := by
  have haddr : (addr + .ofNat j).toNat = addr.toNat + j := by
    rw [UInt16.toNat_add, UInt16.toNat_ofNat']
    omega
  rw [readByte_eq_ok_iff, haddr]
  exact ⟨h, rfl⟩

theorem readByte_of_slice {content : List UInt8} (h : m.slice addr len = .ok content) {j : Nat}
    (hj : j < content.length) : m.readByte (addr + .ofNat j) = .ok content[j] := by
  obtain ⟨hfits, rfl⟩ := slice_eq_ok_iff.1 h
  have hend : addr.toNat + len ≤ 0x1000 := hfits
  rw [length_peek] at hj
  rw [readByte_add (by omega)]
  simp [peek]

theorem lend_eq_ok_iff {loan : Loan len} :
    m.lend addr len = .ok loan ↔ Fits addr len ∧
      loan = ⟨.ofFn fun j => m.byteAt (addr.toNat + j), fun new => m.poke addr.toNat new.toList⟩ := by
  rw [lend]
  split
  · next hfits => simp [hfits, eq_comm]
  · next hfits => simp [hfits]

theorem readByte_of_lend {loan : Loan len} (h : m.lend addr len = .ok loan) {j : Nat}
    (hj : j < len) : m.readByte (addr + .ofNat j) = .ok loan.content[j] := by
  obtain ⟨hfits, rfl⟩ := lend_eq_ok_iff.1 h
  have hend : addr.toNat + len ≤ 0x1000 := hfits
  rw [readByte_add (by omega)]
  simp

theorem readWord_eq_ok_iff_readByte {w : UInt16} :
    m.readWord addr = .ok w ↔ ∃ high low, m.readByte addr = .ok high ∧
      m.readByte (addr + 1) = .ok low ∧ w.toNat = 256 * high.toNat + low.toNat := by
  rw [readWord_eq_ok_iff]
  constructor
  · rintro ⟨hle, hw⟩
    exact ⟨_, _, readByte_eq_ok_iff.2 ⟨by omega, rfl⟩, readByte_add (j := 1) (by omega), hw⟩
  · rintro ⟨high, low, hhigh, hlow, hw⟩
    obtain ⟨hlt, rfl⟩ := readByte_eq_ok_iff.1 hhigh
    have hnext : (addr + 1).toNat = addr.toNat + 1 := by
      rw [UInt16.toNat_add]
      show (addr.toNat + 1) % 65536 = addr.toNat + 1
      omega
    rw [readByte_eq_ok_iff, hnext] at hlow
    obtain ⟨hlt', rfl⟩ := hlow
    exact ⟨by omega, hw⟩

/-! ## The bytes that a change gives -/

/-- Where a change puts its first byte. -/
def Change.start : Change → Nat
  | write _ addr | writeByte addr _ | revise addr .. => addr.toNat
  | loadFont => 0
  | loadProgram _ => programStart

/-- The bytes that a change puts there if it is not refused. -/
def Change.bytes (m : Memory) : Change → List UInt8
  | write data _ => data
  | writeByte _ value => [value]
  | revise addr _ f => (f (.ofFn fun j => m.byteAt (addr.toNat + j))).toList
  | loadFont => Font.glyphs
  | loadProgram program => program

/-- The byte that a change gives to an address, if it is not refused and reaches that far. -/
def given? (m : Memory) (c : Change) (a : Nat) : Option UInt8 :=
  if (m.change? c).isOk ∧ c.start ≤ a then (c.bytes m)[a - c.start]? else none

/-- The byte that an address was given last. -/
def lastGiven? (a : Nat) : Memory → List Change → Option UInt8
  | _, [] => none
  | m, c :: changes => (lastGiven? a (m.after c) changes).or (m.given? c a)

theorem mapError_eq_ok_iff {ε ε' α : Type} {f : ε → ε'} {r : Except ε α} {a : α} :
    r.mapError f = .ok a ↔ r = .ok a := by
  cases r with
  | ok b => simp [Except.mapError]
  | error e => simp [Except.mapError]

/-- A change that is not refused puts its bytes into their place. -/
theorem eq_poke_of_change {c : Change} (h : m.change? c = .ok m') :
    m' = m.poke c.start (c.bytes m) := by
  cases c with
  | write data addr => exact (write_eq_ok_iff.1 (mapError_eq_ok_iff.1 h)).2
  | writeByte addr value => exact (write_eq_ok_iff.1 (mapError_eq_ok_iff.1 h)).2
  | revise addr len f =>
    cases hl : m.lend addr len with
    | error fault =>
      rw [change?, hl] at h
      cases h
    | ok loan =>
      rw [change?, hl] at h
      cases h
      obtain ⟨-, rfl⟩ := lend_eq_ok_iff.1 hl
      rfl
  | loadFont => exact (Except.ok.inj h).symm
  | loadProgram program =>
    have hload := mapError_eq_ok_iff.1 h
    rw [loadProgram] at hload
    split at hload
    · cases hload
      rfl
    · cases hload

theorem after_of_refused {c : Change} {e : Fault ⊕ Error} (h : m.change? c = .error e) :
    m.after c = m := by
  rw [after, h]

/-- After a call a byte of memory is the one that the call gives it, or the one before. -/
theorem byteAt_after (m : Memory) (c : Change) {a : Nat} (ha : a < capacity) :
    (m.after c).byteAt a = (m.given? c a).getD (m.byteAt a) := by
  cases hc : m.change? c with
  | error e =>
    have hnone : m.given? c a = none := by
      rw [given?, hc]
      exact if_neg fun h => Bool.false_ne_true h.1
    rw [after_of_refused hc, hnone, Option.getD_none]
  | ok m' =>
    have hgiven : m.given? c a = if c.start ≤ a then (c.bytes m)[a - c.start]? else none := by
      rw [given?, hc]
      simp [Except.isOk, Except.toBool]
    rw [after, hc, hgiven]
    show m'.byteAt a = _
    rw [eq_poke_of_change hc, byteAt_poke_eq_getD _ _ _ _ ha]

/-- A byte of memory is the one that it was given last, and the one from the start if it was given
none. -/
theorem byteAt_changed (m : Memory) (changes : List Change) {a : Nat} (ha : a < capacity) :
    (m.changed changes).byteAt a = (lastGiven? a m changes).getD (m.byteAt a) := by
  induction changes generalizing m with
  | nil => rfl
  | cons c changes ih =>
    rw [changed, List.foldl_cons, ← changed, ih, byteAt_after m c ha, lastGiven?]
    cases lastGiven? a (m.after c) changes with
    | none => rfl
    | some b => rfl

/-- At power-on memory holds the font and zeros above it. -/
theorem byteAt_powerOn_of_lt {a : Nat} (ha : a < capacity) :
    powerOn.byteAt a = Font.glyphs.getD a 0 := by
  have hlt : a < 4096 := ha
  rw [powerOn, loadFont, byteAt_poke _ _ _ _ ha, Nat.sub_zero, Nat.zero_add]
  split
  · rfl
  · next hout =>
    rw [List.getD_eq_getElem?_getD, List.getElem?_eq_none (by omega), Option.getD_none]
    simp [byteAt, Vector.getD, hlt]

/-! ## Memory by its bytes -/

/-- What is read from memory and lent out of it are its bytes, and every access to a range that is
not empty is guarded.  After any calls each byte is the one that the last of them to give it one
has given it, and the one before them if none has; a call that is refused changes nothing. -/
theorem bytes_as_last_given (m : Memory) :
    (∀ (addr : UInt16) (len : Nat), 1 ≤ len →
      (Guarded addr len (m.slice addr len) ∧ ∀ content, m.slice addr len = .ok content →
        content.length = len ∧ ∀ j (_ : j < content.length),
          m.readByte (addr + .ofNat j) = .ok content[j]) ∧
      (Guarded addr len (m.lend addr len) ∧ ∀ loan, m.lend addr len = .ok loan →
        ∀ j (_ : j < len), m.readByte (addr + .ofNat j) = .ok loan.content[j]) ∧
      ∀ data, data.length = len → Guarded addr len (m.write data addr)) ∧
    (∀ addr w, m.readWord addr = .ok w ↔ ∃ high low, m.readByte addr = .ok high ∧
      m.readByte (addr + 1) = .ok low ∧ w.toNat = 256 * high.toNat + low.toNat) ∧
    (∀ a < 0x1000, powerOn.byteAt a = Font.glyphs.getD a 0) ∧
    (∀ c e, m.change? c = .error e → m.after c = m) ∧
    ∀ changes, ∀ a < 0x1000,
      (m.changed changes).byteAt a = (lastGiven? a m changes).getD (m.byteAt a) := by
  refine ⟨fun addr len hlen => ⟨⟨guarded_range hlen, fun content h => ⟨?_, ?_⟩⟩,
    ⟨guarded_range hlen, fun loan h j hj => readByte_of_lend h hj⟩, ?_⟩, ?_, ?_, ?_, ?_⟩
  · rw [(slice_eq_ok_iff.1 h).2, length_peek]
  · exact fun j hj => readByte_of_slice h hj
  · rintro data rfl
    exact guarded_range hlen
  · exact fun addr w => readWord_eq_ok_iff_readByte
  · exact fun a ha => byteAt_powerOn_of_lt ha
  · exact fun c e h => after_of_refused h
  · exact fun changes a ha => m.byteAt_changed changes ha

/-- A program is loaded, a write over the end of memory is refused, and a slice that overlaps a
write is changed in place. -/
theorem bytes_as_last_given_overlapping :
    let changes : List Change := [.loadProgram [7, 8, 9], .write [1, 2, 3] 0xFFE, .write [5] 0x201,
      .revise 0x200 2 fun bytes => bytes.map (· + 1)]
    powerOn.slice 0xFFE 3 = .error (.addressOutOfRange 0x1000) ∧
      (powerOn.changed changes).byteAt 0x200 = 8 ∧ (powerOn.changed changes).byteAt 0x201 = 6 ∧
      (powerOn.changed changes).byteAt 0x202 = 9 ∧ (powerOn.changed changes).byteAt 0xFFE = 0 := by
  intro changes
  obtain ⟨haccess, -, -, -, hlast⟩ := bytes_as_last_given powerOn
  have hfirst : IsFirstMissing 0xFFE 3 0x1000 :=
    (isFirstMissing_iff (by decide)).2 ⟨by decide, rfl⟩
  have hbyte (a : Nat) (b : UInt8) (ha : a < 0x1000)
      (h : (lastGiven? a powerOn changes).getD (powerOn.byteAt a) = b) :
      (powerOn.changed changes).byteAt a = b := (hlast changes a ha).trans h
  refine ⟨((haccess 0xFFE 3 (by decide)).1.1.refused_iff _).2 ⟨_, hfirst, rfl⟩, ?_, ?_, ?_, ?_⟩
  · exact hbyte 0x200 8 (by decide) (by decide +kernel)
  · exact hbyte 0x201 6 (by decide) (by decide +kernel)
  · exact hbyte 0x202 9 (by decide) (by decide +kernel)
  · exact hbyte 0xFFE 0 (by decide) (by decide +kernel)

end Chip8.Memory
