import Chip8.Instruction.Opcode

/-!
# Spelling and reading instructions

A word is made up of its digits, and every instruction is spelled by a family and operands that
fill the digits below it.  So a word that is read as an instruction is how the instruction is
spelled (`encode_of_decode`), and an instruction is read off its own spelling
(`decode_encode`).
-/

namespace Chip8

namespace Opcode

variable (op : UInt16)

/-! ## A word and its digits -/

theorem toNat_eq_nnn : op.toNat = 0x1000 * family op + nnn op := (Nat.div_add_mod _ _).symm

theorem toNat_nn : (nn op).toNat = op.toNat % 256 := by
  rw [nn, UInt8.toNat_ofNat']
  exact Nat.mod_mod _ 256

theorem toNat_eq_nn : op.toNat = 0x1000 * family op + 0x100 * x op + (nn op).toNat := by
  rw [toNat_nn, family, x]
  dsimp only
  omega

theorem toNat_eq_n : op.toNat = 0x1000 * family op + 0x100 * x op + 0x10 * y op + n op := by
  rw [family, x, y, n]
  dsimp only
  omega

theorem family_lt : family op < 16 := by
  have hop := op.toNat_lt
  rw [family]
  omega

end Opcode

namespace Arithmetic

theorem digit_of_ofDigit? {k : Nat} {o : Arithmetic} (h : ofDigit? k = some o) : o.digit = k := by
  revert h
  fun_cases ofDigit? k
  case case10 => exact nofun
  all_goals
    rintro ⟨⟩
    rfl

theorem ofDigit?_digit (o : Arithmetic) : ofDigit? o.digit = some o := by
  cases o with
  | _ => rfl

theorem digit_lt (o : Arithmetic) : o.digit < 16 := by
  cases o with
  | _ => decide

end Arithmetic

namespace Instruction

open Opcode

variable {op : UInt16} {i : Instruction}

theorem code_of_decodeMisc? (hfamily : family op = 0xF)
    (h : decodeMisc? op (nn op).toNat = some i) : i.code = op.toNat := by
  have hop := toNat_eq_nn op
  rw [hfamily] at hop
  generalize (nn op).toNat = k at h hop
  revert h
  -- One case for each way through the table of `decodeMisc?`.
  fun_cases decodeMisc? op k <;> rintro ⟨⟩ <;> simp only [code] <;> omega

theorem code_of_decode (h : decode op = some i) : i.code = op.toNat := by
  have hnnn := toNat_eq_nnn op
  have hnn := toNat_eq_nn op
  have hn := toNat_eq_n op
  revert h
  -- One case for each way through the table of `decode`.
  fun_cases decode op
  case case1 _ hclear =>
    rintro ⟨⟩
    rw [hclear]
    rfl
  case case2 _ _ hret =>
    rintro ⟨⟩
    rw [hret]
    rfl
  case case12 =>
    intro h
    obtain ⟨o, ho, rfl⟩ := Option.map_eq_some_iff.1 h
    have hdigit := Arithmetic.digit_of_ofDigit? ho
    simp only [code]
    omega
  case case19 _ hkey =>
    rintro ⟨⟩
    have hkey' : (nn op).toNat = 0x9E := congrArg UInt8.toNat hkey
    simp only [code]
    omega
  case case20 _ _ hkey =>
    rintro ⟨⟩
    have hkey' : (nn op).toNat = 0xA1 := congrArg UInt8.toNat hkey
    simp only [code]
    omega
  case case22 =>
    have hlt := family_lt op
    exact code_of_decodeMisc? (by grind)
  all_goals rintro ⟨⟩ <;> simp only [code] <;> omega

/-- A word that is read as an instruction is how the instruction is spelled. -/
theorem encode_of_decode (h : decode op = some i) : i.encode = op := by
  rw [encode, code_of_decode h]
  exact UInt16.ofNat_toNat

/-! ## Reading a spelling -/

theorem code_lt (i : Instruction) : i.code < 0x10000 := by
  fun_cases code i
  case case5 _ b | case6 _ b | case8 _ b | case9 _ b | case14 _ b =>
    have hb := b.toNat_lt
    omega
  case case10 o _ _ =>
    have ho := o.digit_lt
    omega
  all_goals omega

theorem toNat_encode (i : Instruction) : i.encode.toNat = i.code := by
  rw [encode, UInt16.toNat_ofNat', Nat.mod_eq_of_lt i.code_lt]

/-! What a word that is given by its digits has for digits. -/

section Digits

variable {f k : Nat} {v w : Register}

theorem digits_of_nnn {a : Address} (h : op.toNat = 0x1000 * f + a) :
    family op = f ∧ nnn op = a := by
  rw [Fin.ext_iff, family, nnn]
  dsimp only
  omega

theorem digits_of_low (h : op.toNat = 0x1000 * f + k + 0x100 * v) (hk : k < 256) :
    family op = f ∧ x op = v ∧ (nn op).toNat = k := by
  rw [Fin.ext_iff, toNat_nn, family, x]
  dsimp only
  omega

theorem digits_of_nn {b : UInt8} (h : op.toNat = 0x1000 * f + 0x100 * v + b.toNat) :
    family op = f ∧ x op = v ∧ nn op = b := by
  rw [← UInt8.toNat_inj]
  exact digits_of_low (by omega) b.toNat_lt

theorem digits_of_n (h : op.toNat = 0x1000 * f + 0x100 * v + 0x10 * w + k) (hk : k < 16) :
    family op = f ∧ x op = v ∧ y op = w ∧ (n op).val = k := by
  rw [Fin.ext_iff, Fin.ext_iff, family, x, y, n]
  dsimp only
  omega

/-- Words of the last family are read by their last two digits. -/
theorem decode_of_misc (hop : op.toNat = 0x1000 * 0xF + k + 0x100 * v) (hk : k < 256) :
    decode op = decodeMisc? op k ∧ x op = v := by
  obtain ⟨hf, hx, hnn⟩ := digits_of_low hop hk
  refine ⟨?_, hx⟩
  simp only [decode, hf, hnn]

end Digits

/-- An instruction is read off its own spelling. -/
theorem decode_encode (i : Instruction) : decode i.encode = some i := by
  have hop := i.toNat_encode
  cases i with
  | clear => rfl
  | ret => rfl
  | jump a =>
    obtain ⟨hf, ha⟩ := digits_of_nnn (f := 0x1) hop
    simp only [decode, hf, ha]
  | call a =>
    obtain ⟨hf, ha⟩ := digits_of_nnn (f := 0x2) hop
    simp only [decode, hf, ha]
  | skip c =>
    cases c with
    | byteIs v b =>
      obtain ⟨hf, hx, hb⟩ := digits_of_nn (f := 0x3) hop
      simp only [decode, hf, hx, hb]
    | byteIsNot v b =>
      obtain ⟨hf, hx, hb⟩ := digits_of_nn (f := 0x4) hop
      simp only [decode, hf, hx, hb]
    | same v w =>
      obtain ⟨hf, hx, hy, hn⟩ := digits_of_n (f := 0x5) (k := 0) hop (by decide)
      simp only [decode, hf, hx, hy, hn, if_true]
    | differ v w =>
      obtain ⟨hf, hx, hy, hn⟩ := digits_of_n (f := 0x9) (k := 0) hop (by decide)
      simp only [decode, hf, hx, hy, hn, if_true]
    | keyHeld v =>
      obtain ⟨hf, hx, hk⟩ := digits_of_low (f := 0xE) (k := 0x9E) hop (by decide)
      have hnn : nn _ = 0x9E := UInt8.toNat_inj.1 hk
      simp only [decode, hf, hx, hnn, if_true]
    | keyFree v =>
      obtain ⟨hf, hx, hk⟩ := digits_of_low (f := 0xE) (k := 0xA1) hop (by decide)
      have hnn : nn _ = 0xA1 := UInt8.toNat_inj.1 hk
      simp only [decode, hf, hx, hnn, if_true]
      rfl
  | load v b =>
    obtain ⟨hf, hx, hb⟩ := digits_of_nn (f := 0x6) hop
    simp only [decode, hf, hx, hb]
  | addByte v b =>
    obtain ⟨hf, hx, hb⟩ := digits_of_nn (f := 0x7) hop
    simp only [decode, hf, hx, hb]
  | arithmetic o v w =>
    obtain ⟨hf, hx, hy, hn⟩ := digits_of_n (f := 0x8) hop o.digit_lt
    simp only [decode, hf, hx, hy, hn, Arithmetic.ofDigit?_digit, Option.map_some]
  | loadIndex a =>
    obtain ⟨hf, ha⟩ := digits_of_nnn (f := 0xA) hop
    simp only [decode, hf, ha]
  | jumpOffset a =>
    obtain ⟨hf, ha⟩ := digits_of_nnn (f := 0xB) hop
    simp only [decode, hf, ha]
  | random v b =>
    obtain ⟨hf, hx, hb⟩ := digits_of_nn (f := 0xC) hop
    simp only [decode, hf, hx, hb]
  | draw v w k =>
    obtain ⟨hf, hx, hy, hn⟩ := digits_of_n (f := 0xD) hop k.isLt
    simp only [decode, hf, hx, hy, Fin.ext hn]
  | readDelay v =>
    obtain ⟨hd, hx⟩ := decode_of_misc (k := 0x07) hop (by decide)
    rw [hd, decodeMisc?, hx]
  | waitKey v =>
    obtain ⟨hd, hx⟩ := decode_of_misc (k := 0x0A) hop (by decide)
    rw [hd, decodeMisc?, hx]
  | setDelay v =>
    obtain ⟨hd, hx⟩ := decode_of_misc (k := 0x15) hop (by decide)
    rw [hd, decodeMisc?, hx]
  | setSound v =>
    obtain ⟨hd, hx⟩ := decode_of_misc (k := 0x18) hop (by decide)
    rw [hd, decodeMisc?, hx]
  | addIndex v =>
    obtain ⟨hd, hx⟩ := decode_of_misc (k := 0x1E) hop (by decide)
    rw [hd, decodeMisc?, hx]
  | glyph v =>
    obtain ⟨hd, hx⟩ := decode_of_misc (k := 0x29) hop (by decide)
    rw [hd, decodeMisc?, hx]
  | storeDecimal v =>
    obtain ⟨hd, hx⟩ := decode_of_misc (k := 0x33) hop (by decide)
    rw [hd, decodeMisc?, hx]
  | storeRegisters v =>
    obtain ⟨hd, hx⟩ := decode_of_misc (k := 0x55) hop (by decide)
    rw [hd, decodeMisc?, hx]
  | loadRegisters v =>
    obtain ⟨hd, hx⟩ := decode_of_misc (k := 0x65) hop (by decide)
    rw [hd, decodeMisc?, hx]

end Instruction

end Chip8
