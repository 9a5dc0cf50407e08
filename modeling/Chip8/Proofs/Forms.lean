import Mathlib.Data.List.Nodup
import Chip8.Instruction.Form
import Chip8.Proofs.Encoding

/-!
# Words against the instruction table

A word is decoded exactly if it matches a form of the table, and the instruction is the one with the
name of the form and the operands that stand in the word.  Each instruction is spelled by its form
(`exists_form`), each form with operands that fit is an instruction (`exists_instruction`), and a
word matches a form exactly if the form with what the word has for operands spells it
(`Form.matches_iff`).  So the table, `encode` and `decode` agree (`decode_by_table`).
-/

namespace Chip8

namespace Form

/-! ## Operands that fit -/

theorem exists_byte {P : Nat → Prop} : (∃ k < 256, P k) ↔ ∃ b : UInt8, P b.toNat := by
  constructor
  · rintro ⟨k, hk, h⟩
    exact ⟨UInt8.ofNat k, by rwa [UInt8.toNat_ofNat', Nat.mod_eq_of_lt hk]⟩
  · rintro ⟨b, h⟩
    exact ⟨b.toNat, b.toNat_lt, h⟩

section Shapes

variable {name : String} {word : Nat} {os : List Nat}

theorem fits_plain : Fits ⟨name, word, .plain⟩ os ↔ os = [] := List.forall₂_nil_right_iff

theorem fits_x : Fits ⟨name, word, .x⟩ os ↔ ∃ v : Register, os = [v.val] := by
  simp [Fits, Shape.slots, List.forall₂_cons_right_iff, Fin.exists_iff]

theorem fits_xy : Fits ⟨name, word, .xy⟩ os ↔ ∃ v w : Register, os = [v.val, w.val] := by
  simp [Fits, Shape.slots, List.forall₂_cons_right_iff, Fin.exists_iff]

theorem fits_xnn :
    Fits ⟨name, word, .xnn⟩ os ↔ ∃ (v : Register) (b : UInt8), os = [v.val, b.toNat] := by
  simp [Fits, Shape.slots, List.forall₂_cons_right_iff, Fin.exists_iff, exists_byte]

theorem fits_xyn :
    Fits ⟨name, word, .xyn⟩ os ↔
      ∃ (v w : Register) (n : Fin 16), os = [v.val, w.val, n.val] := by
  simp [Fits, Shape.slots, List.forall₂_cons_right_iff, Fin.exists_iff, and_assoc]

theorem fits_nnn : Fits ⟨name, word, .nnn⟩ os ↔ ∃ a : Address, os = [a.val] := by
  simp [Fits, Shape.slots, List.forall₂_cons_right_iff, Fin.exists_iff]

end Shapes

/-! ## The forms of the table -/

variable {f g : Form} {os : List Nat} {op : UInt16}

theorem eq_of_name (hf : f ∈ table) (hg : g ∈ table) (h : f.name = g.name) : f = g := by
  have hnames : (table.map Form.name).Nodup := by decide
  exact List.inj_on_of_nodup_map hnames hf hg h

theorem word_lt (hf : f ∈ table) : f.word < 0x10000 := by
  have hlt : ∀ f ∈ table, f.word < 0x10000 := by decide
  exact hlt f hf

/-- A form has zeros in the places for operands. -/
theorem zero_of_mem_slots (hf : f ∈ table) :
    ∀ s ∈ f.shape.slots, f.word / s.weight % s.values = 0 := by
  have hzero : ∀ f ∈ table, ∀ s ∈ f.shape.slots, f.word / s.weight % s.values = 0 := by decide
  exact hzero f hf

theorem fits_read (f : Form) (op : UInt16) : f.Fits (f.read op) := by
  rw [Fits, read, List.forall₂_map_left_iff, List.forall₂_same]
  intro s hs
  have hpos : ∀ shape : Shape, ∀ s ∈ shape.slots, 0 < s.values := by
    intro shape
    cases shape <;> decide
  exact Nat.mod_lt _ (hpos _ s hs)

/-- A word is spelled by a form and operands that fit exactly if it has the digits of the form and
the operands in their places. -/
theorem spell_eq_iff (hf : f ∈ table) (hos : f.Fits os) :
    f.spell os = op.toNat ↔ f.Matches op ∧ f.read op = os := by
  have hzero := zero_of_mem_slots hf
  have hword := word_lt hf
  have hop := op.toNat_lt
  obtain ⟨name, word, shape⟩ := f
  cases shape with
  | plain =>
    obtain rfl := fits_plain.1 hos
    simp [spell, read, Shape.slots, Matches, Shape.fixed] at hword ⊢
    omega
  | x =>
    obtain ⟨v, rfl⟩ := fits_x.1 hos
    simp [spell, read, Shape.slots, Matches, Shape.fixed] at hzero hword ⊢
    omega
  | xy =>
    obtain ⟨v, w, rfl⟩ := fits_xy.1 hos
    simp [spell, read, Shape.slots, Matches, Shape.fixed] at hzero hword ⊢
    omega
  | xnn =>
    obtain ⟨v, b, rfl⟩ := fits_xnn.1 hos
    have hb := b.toNat_lt
    simp [spell, read, Shape.slots, Matches, Shape.fixed] at hzero hword ⊢
    omega
  | xyn =>
    obtain ⟨v, w, n, rfl⟩ := fits_xyn.1 hos
    simp [spell, read, Shape.slots, Matches, Shape.fixed] at hzero hword ⊢
    omega
  | nnn =>
    obtain ⟨a, rfl⟩ := fits_nnn.1 hos
    simp [spell, read, Shape.slots, Matches, Shape.fixed] at hzero hword ⊢
    omega

/-! ## Instructions and their forms -/

/-- A form is that of an instruction: it has its name, and with its operands it spells it. -/
structure IsOf (f : Form) (i : Instruction) : Prop where
  name : f.name = i.mnemonic
  fits : f.Fits i.operands
  spell : f.spell i.operands = i.encode.toNat

namespace IsOf

variable {name : String} {word : Nat} {i : Instruction}

theorem plain (hname : name = i.mnemonic) (hos : i.operands = []) (hcode : i.code = word) :
    IsOf ⟨name, word, .plain⟩ i where
  name := hname
  fits := fits_plain.2 hos
  spell := by simp [Form.spell, Shape.slots, hos, i.toNat_encode, hcode]

theorem x {v : Register} (hname : name = i.mnemonic) (hos : i.operands = [v.val])
    (hcode : i.code = word + 0x100 * v) : IsOf ⟨name, word, .x⟩ i where
  name := hname
  fits := fits_x.2 ⟨v, hos⟩
  spell := by simp [Form.spell, Shape.slots, hos, i.toNat_encode, hcode]

theorem xy {v w : Register} (hname : name = i.mnemonic) (hos : i.operands = [v.val, w.val])
    (hcode : i.code = word + 0x100 * v + 0x10 * w) : IsOf ⟨name, word, .xy⟩ i where
  name := hname
  fits := fits_xy.2 ⟨v, w, hos⟩
  spell := by simp [Form.spell, Shape.slots, hos, i.toNat_encode, hcode, Nat.add_assoc]

theorem xnn {v : Register} {b : UInt8} (hname : name = i.mnemonic)
    (hos : i.operands = [v.val, b.toNat]) (hcode : i.code = word + 0x100 * v + b.toNat) :
    IsOf ⟨name, word, .xnn⟩ i where
  name := hname
  fits := fits_xnn.2 ⟨v, b, hos⟩
  spell := by simp [Form.spell, Shape.slots, hos, i.toNat_encode, hcode, Nat.add_assoc]

theorem xyn {v w : Register} {n : Fin 16} (hname : name = i.mnemonic)
    (hos : i.operands = [v.val, w.val, n.val])
    (hcode : i.code = word + 0x100 * v + 0x10 * w + n) : IsOf ⟨name, word, .xyn⟩ i where
  name := hname
  fits := fits_xyn.2 ⟨v, w, n, hos⟩
  spell := by simp [Form.spell, Shape.slots, hos, i.toNat_encode, hcode, Nat.add_assoc]

theorem nnn {a : Address} (hname : name = i.mnemonic) (hos : i.operands = [a.val])
    (hcode : i.code = word + a) : IsOf ⟨name, word, .nnn⟩ i where
  name := hname
  fits := fits_nnn.2 ⟨a, hos⟩
  spell := by simp [Form.spell, Shape.slots, hos, i.toNat_encode, hcode]

end IsOf

theorem mem_table_arithmetic (o : Arithmetic) : ⟨o.mnemonic, 0x8000 + o.digit, .xy⟩ ∈ table := by
  cases o <;> decide

end Form

namespace Instruction

open Form

theorem exists_form (i : Instruction) : ∃ f ∈ table, f.IsOf i := by
  cases i with
  | clear => exact ⟨⟨"ClearScreen", 0x00E0, .plain⟩, by decide, .plain rfl rfl rfl⟩
  | ret => exact ⟨⟨"Return", 0x00EE, .plain⟩, by decide, .plain rfl rfl rfl⟩
  | jump a => exact ⟨⟨"Jump", 0x1000, .nnn⟩, by decide, .nnn rfl rfl rfl⟩
  | call a => exact ⟨⟨"Call", 0x2000, .nnn⟩, by decide, .nnn rfl rfl rfl⟩
  | skip c =>
    cases c with
    | byteIs v b => exact ⟨⟨"SkipIfEqImm", 0x3000, .xnn⟩, by decide, .xnn rfl rfl rfl⟩
    | byteIsNot v b => exact ⟨⟨"SkipIfNeImm", 0x4000, .xnn⟩, by decide, .xnn rfl rfl rfl⟩
    | same v w => exact ⟨⟨"SkipIfEq", 0x5000, .xy⟩, by decide, .xy rfl rfl rfl⟩
    | differ v w => exact ⟨⟨"SkipIfNe", 0x9000, .xy⟩, by decide, .xy rfl rfl rfl⟩
    | keyHeld v => exact ⟨⟨"SkipIfKey", 0xE09E, .x⟩, by decide, .x rfl rfl rfl⟩
    | keyFree v => exact ⟨⟨"SkipIfNotKey", 0xE0A1, .x⟩, by decide, .x rfl rfl rfl⟩
  | load v b => exact ⟨⟨"LoadImm", 0x6000, .xnn⟩, by decide, .xnn rfl rfl rfl⟩
  | addByte v b => exact ⟨⟨"AddImm", 0x7000, .xnn⟩, by decide, .xnn rfl rfl rfl⟩
  | arithmetic o v w =>
    refine ⟨⟨o.mnemonic, 0x8000 + o.digit, .xy⟩, mem_table_arithmetic o, .xy rfl rfl ?_⟩
    simp only [code]
    omega
  | loadIndex a => exact ⟨⟨"LoadIndex", 0xA000, .nnn⟩, by decide, .nnn rfl rfl rfl⟩
  | jumpOffset a => exact ⟨⟨"JumpOffset", 0xB000, .nnn⟩, by decide, .nnn rfl rfl rfl⟩
  | random v b => exact ⟨⟨"Random", 0xC000, .xnn⟩, by decide, .xnn rfl rfl rfl⟩
  | draw v w n => exact ⟨⟨"Draw", 0xD000, .xyn⟩, by decide, .xyn rfl rfl rfl⟩
  | readDelay v => exact ⟨⟨"ReadDelay", 0xF007, .x⟩, by decide, .x rfl rfl rfl⟩
  | waitKey v => exact ⟨⟨"WaitKey", 0xF00A, .x⟩, by decide, .x rfl rfl rfl⟩
  | setDelay v => exact ⟨⟨"SetDelay", 0xF015, .x⟩, by decide, .x rfl rfl rfl⟩
  | setSound v => exact ⟨⟨"SetSound", 0xF018, .x⟩, by decide, .x rfl rfl rfl⟩
  | addIndex v => exact ⟨⟨"AddIndex", 0xF01E, .x⟩, by decide, .x rfl rfl rfl⟩
  | glyph v => exact ⟨⟨"Glyph", 0xF029, .x⟩, by decide, .x rfl rfl rfl⟩
  | storeDecimal v => exact ⟨⟨"StoreBcd", 0xF033, .x⟩, by decide, .x rfl rfl rfl⟩
  | storeRegisters v => exact ⟨⟨"StoreRegs", 0xF055, .x⟩, by decide, .x rfl rfl rfl⟩
  | loadRegisters v => exact ⟨⟨"LoadRegs", 0xF065, .x⟩, by decide, .x rfl rfl rfl⟩

theorem exists_instruction {f : Form} (hf : f ∈ table) {os : List Nat} (hos : f.Fits os) :
    ∃ i : Instruction, i.mnemonic = f.name ∧ i.operands = os := by
  -- One case for each form, in the order of the table.
  simp only [table, List.mem_cons, List.not_mem_nil, or_false] at hf
  rcases hf with rfl | rfl | rfl | rfl | rfl | rfl | rfl | rfl | rfl | rfl | rfl | rfl | rfl | rfl |
    rfl | rfl | rfl | rfl | rfl | rfl | rfl | rfl | rfl | rfl | rfl | rfl | rfl | rfl | rfl | rfl |
    rfl | rfl | rfl | rfl
  · exact ⟨.clear, rfl, (fits_plain.1 hos).symm⟩
  · exact ⟨.ret, rfl, (fits_plain.1 hos).symm⟩
  · exact (fits_nnn.1 hos).elim fun a h => ⟨.jump a, rfl, h.symm⟩
  · exact (fits_nnn.1 hos).elim fun a h => ⟨.call a, rfl, h.symm⟩
  · exact (fits_xnn.1 hos).elim fun v ⟨b, h⟩ => ⟨.skip (.byteIs v b), rfl, h.symm⟩
  · exact (fits_xnn.1 hos).elim fun v ⟨b, h⟩ => ⟨.skip (.byteIsNot v b), rfl, h.symm⟩
  · exact (fits_xy.1 hos).elim fun v ⟨w, h⟩ => ⟨.skip (.same v w), rfl, h.symm⟩
  · exact (fits_xnn.1 hos).elim fun v ⟨b, h⟩ => ⟨.load v b, rfl, h.symm⟩
  · exact (fits_xnn.1 hos).elim fun v ⟨b, h⟩ => ⟨.addByte v b, rfl, h.symm⟩
  · exact (fits_xy.1 hos).elim fun v ⟨w, h⟩ => ⟨.arithmetic .copy v w, rfl, h.symm⟩
  · exact (fits_xy.1 hos).elim fun v ⟨w, h⟩ => ⟨.arithmetic .or v w, rfl, h.symm⟩
  · exact (fits_xy.1 hos).elim fun v ⟨w, h⟩ => ⟨.arithmetic .and v w, rfl, h.symm⟩
  · exact (fits_xy.1 hos).elim fun v ⟨w, h⟩ => ⟨.arithmetic .xor v w, rfl, h.symm⟩
  · exact (fits_xy.1 hos).elim fun v ⟨w, h⟩ => ⟨.arithmetic .add v w, rfl, h.symm⟩
  · exact (fits_xy.1 hos).elim fun v ⟨w, h⟩ => ⟨.arithmetic .sub v w, rfl, h.symm⟩
  · exact (fits_xy.1 hos).elim fun v ⟨w, h⟩ => ⟨.arithmetic .shiftRight v w, rfl, h.symm⟩
  · exact (fits_xy.1 hos).elim fun v ⟨w, h⟩ => ⟨.arithmetic .subFrom v w, rfl, h.symm⟩
  · exact (fits_xy.1 hos).elim fun v ⟨w, h⟩ => ⟨.arithmetic .shiftLeft v w, rfl, h.symm⟩
  · exact (fits_xy.1 hos).elim fun v ⟨w, h⟩ => ⟨.skip (.differ v w), rfl, h.symm⟩
  · exact (fits_nnn.1 hos).elim fun a h => ⟨.loadIndex a, rfl, h.symm⟩
  · exact (fits_nnn.1 hos).elim fun a h => ⟨.jumpOffset a, rfl, h.symm⟩
  · exact (fits_xnn.1 hos).elim fun v ⟨b, h⟩ => ⟨.random v b, rfl, h.symm⟩
  · exact (fits_xyn.1 hos).elim fun v ⟨w, n, h⟩ => ⟨.draw v w n, rfl, h.symm⟩
  · exact (fits_x.1 hos).elim fun v h => ⟨.skip (.keyHeld v), rfl, h.symm⟩
  · exact (fits_x.1 hos).elim fun v h => ⟨.skip (.keyFree v), rfl, h.symm⟩
  · exact (fits_x.1 hos).elim fun v h => ⟨.readDelay v, rfl, h.symm⟩
  · exact (fits_x.1 hos).elim fun v h => ⟨.waitKey v, rfl, h.symm⟩
  · exact (fits_x.1 hos).elim fun v h => ⟨.setDelay v, rfl, h.symm⟩
  · exact (fits_x.1 hos).elim fun v h => ⟨.setSound v, rfl, h.symm⟩
  · exact (fits_x.1 hos).elim fun v h => ⟨.addIndex v, rfl, h.symm⟩
  · exact (fits_x.1 hos).elim fun v h => ⟨.glyph v, rfl, h.symm⟩
  · exact (fits_x.1 hos).elim fun v h => ⟨.storeDecimal v, rfl, h.symm⟩
  · exact (fits_x.1 hos).elim fun v h => ⟨.storeRegisters v, rfl, h.symm⟩
  · exact (fits_x.1 hos).elim fun v h => ⟨.loadRegisters v, rfl, h.symm⟩

/-- The instruction with the name of a form is spelled by that form. -/
theorem toNat_encode_of_form {f : Form} (hf : f ∈ table) {i : Instruction}
    (hname : i.mnemonic = f.name) : i.encode.toNat = f.spell i.operands := by
  obtain ⟨g, hg, hi⟩ := i.exists_form
  obtain rfl := eq_of_name hf hg (hname.symm.trans hi.name.symm)
  exact hi.spell.symm

/-- An instruction is known by its name and its operands. -/
theorem eq_of_listing {i j : Instruction} (hname : i.mnemonic = j.mnemonic)
    (hos : i.operands = j.operands) : i = j := by
  obtain ⟨f, hf, hj⟩ := j.exists_form
  have hcode : i.encode = j.encode := by
    rw [← UInt16.toNat_inj, toNat_encode_of_form hf (hname.trans hj.name.symm), hos, hj.spell]
  have hsome : some i = some j := by rw [← decode_encode i, hcode, decode_encode]
  exact Option.some.inj hsome

theorem exists_decode_of_matches {f : Form} (hf : f ∈ table) {op : UInt16} (h : f.Matches op) :
    ∃ i, decode op = some i := by
  obtain ⟨i, hname, hos⟩ := exists_instruction hf (f.fits_read op)
  have hspell := (spell_eq_iff hf (f.fits_read op)).2 ⟨h, rfl⟩
  have hcode : i.encode = op := by
    rw [← UInt16.toNat_inj, toNat_encode_of_form hf hname, hos, hspell]
  exact ⟨i, by rw [← hcode, decode_encode]⟩

theorem decode_eq_none_iff {op : UInt16} : decode op = none ↔ ∀ i : Instruction, i.encode ≠ op := by
  rw [Option.eq_none_iff_forall_ne_some]
  refine forall_congr' fun i => not_congr ⟨encode_of_decode, ?_⟩
  rintro rfl
  exact decode_encode i

/-- Decoding and spelling are inverse to each other, and what is decoded is what the table lists.
Every instruction is read off its own spelling.  A form of the table with any operands that fit it,
registers below 16, bytes below 256, heights below 16 and addresses below 4096, is one instruction,
which is read off the word that the form and the operands spell.  A word that is decoded matches the
form with the name of the instruction and has the operands in their places, they fit, and the
instruction is spelled by that word.  So no two words stand for the same instruction, and the words
that stand for none are those that no instruction is spelled by, which are those that match no
form. -/
theorem decode_by_table :
    (∀ i : Instruction, decode i.encode = some i) ∧
    (∀ f ∈ table, ∀ os, f.Fits os → ∃ i : Instruction,
      (∀ j : Instruction, j.mnemonic = f.name ∧ j.operands = os ↔ j = i) ∧
      i.encode.toNat = f.spell os ∧ decode i.encode = some i) ∧
    (∀ op i, decode op = some i → i.encode = op ∧ ∃ f ∈ table, f.name = i.mnemonic ∧
      f.Matches op ∧ f.read op = i.operands ∧ f.Fits i.operands ∧
      f.spell i.operands = op.toNat) ∧
    (∀ op op' i, decode op = some i → decode op' = some i → op = op') ∧
    ∀ op, (decode op = none ↔ ∀ i : Instruction, i.encode ≠ op) ∧
      (decode op = none ↔ ∀ f ∈ table, ¬ f.Matches op) := by
  refine ⟨decode_encode, ?_, ?_, ?_, fun op => ⟨decode_eq_none_iff, ?_, ?_⟩⟩
  · intro f hf os hos
    obtain ⟨i, hname, rfl⟩ := exists_instruction hf hos
    refine ⟨i, fun j => ⟨?_, ?_⟩, toNat_encode_of_form hf hname, decode_encode i⟩
    · rintro ⟨hj, hos'⟩
      exact eq_of_listing (hj.trans hname.symm) hos'
    · rintro rfl
      exact ⟨hname, rfl⟩
  · rintro op i h
    obtain rfl := encode_of_decode h
    obtain ⟨f, hf, hi⟩ := i.exists_form
    obtain ⟨hmatches, hread⟩ := (spell_eq_iff hf hi.fits).1 hi.spell
    exact ⟨rfl, f, hf, hi.name, hmatches, hread, hi.fits, hi.spell⟩
  · intro op op' i h h'
    rw [← encode_of_decode h, encode_of_decode h']
  · intro hnone f hf hmatches
    obtain ⟨i, hi⟩ := exists_decode_of_matches hf hmatches
    rw [hnone] at hi
    cases hi
  · intro hnever
    rw [decode_eq_none_iff]
    rintro i rfl
    obtain ⟨f, hf, hi⟩ := i.exists_form
    exact hnever f hf ((spell_eq_iff hf hi.fits).1 hi.spell).1

/-- Nine lines drawn at column `VF` and row `V0` are spelled `DF09`.  The word is read as them and
nothing else is, and with another first digit it stands for nothing. -/
theorem decode_by_table_draw :
    (∃ i : Instruction, i.mnemonic = "Draw" ∧ i.operands = [15, 0, 9] ∧ i.encode = 0xDF09 ∧
      decode 0xDF09 = some i ∧ ∀ op, decode op = some i → op = 0xDF09) ∧
    decode 0xFF09 = none := by
  obtain ⟨-, hforms, -, hinjective, hnone⟩ := decode_by_table
  have hfits : Fits ⟨"Draw", 0xD000, .xyn⟩ [15, 0, 9] := by simp [Fits, Shape.slots]
  obtain ⟨i, hlisting, hspell, hdecode⟩ := hforms ⟨"Draw", 0xD000, .xyn⟩ (by decide) _ hfits
  have hcode : i.encode = 0xDF09 := UInt16.toNat_inj.1 hspell
  obtain ⟨hname, hos⟩ := (hlisting i).2 rfl
  rw [hcode] at hdecode
  refine ⟨⟨i, hname, hos, hcode, hdecode, fun op h => hinjective _ _ i h hdecode⟩, ?_⟩
  exact (hnone 0xFF09).2.2 (by decide)

end Instruction

end Chip8
