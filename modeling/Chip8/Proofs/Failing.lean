import Chip8.Proofs.Encoding
import Chip8.Proofs.Indexing
import Chip8.Proofs.Traps

/-!
# When a step fails

A step of a running machine fails if there is no word at the program counter, if the word there
is no instruction, or if the instruction is refused.  An instruction is refused if it jumps to
an odd address, if it opens one call too many or closes one too many, or if it uses memory past
the end (`Refuses`).  Nothing else goes wrong, and each of these does, with a fault that is
determined by the case (`step_fails_iff`).

Two things that could go wrong do not, since they take a machine that no operations lead to: the
program counter is never at the last byte, and no call returns to an odd address.
-/

namespace Chip8

namespace Instruction

/-- The instruction goes on at this address, wherever it stands. -/
inductive JumpsTo (r : Registers) : Instruction → Nat → Prop where
  | jump (a : Address) : JumpsTo r (.jump a) a
  | call (a : Address) : JumpsTo r (.call a) a
  | jumpOffset (a : Address) : JumpsTo r (.jumpOffset a) (a + (r.get .first).toNat)

end Instruction

namespace Machine

/-! ## What is refused -/

/-- The machine cannot carry out an instruction, for this reason. -/
inductive Refuses (m : Machine) : Instruction → Fault → Prop where
  | misaligned {i : Instruction} {target : UInt16} :
      i.JumpsTo m.registers target.toNat → target.toNat % 2 = 1 →
      Refuses m i (.misalignedJump target)
  | overflow {a : Address} :
      a.val % 2 = 0 → m.registers.stack.length = 16 → Refuses m (.call a) .stackOverflow
  | underflow : m.registers.stack = [] → Refuses m .ret .stackUnderflow
  | pastEnd {i : Instruction} {len : Nat} :
      i.Accesses len → 0x1000 < m.registers.index.toNat + len →
      Refuses m i (.addressOutOfRange (max m.registers.index.toNat 0x1000))

/-- The next step of the machine fails with this trap. -/
inductive Fails (m : Machine) : Trap → Prop where
  | unfetched :
      0x1000 ≤ m.registers.pc.toNat →
      Fails m ⟨.addressOutOfRange m.registers.pc.toNat, m.registers.pc, none⟩
  | undecoded {opcode : UInt16} :
      m.opcodeAt m.registers.pc = some opcode.toNat → Instruction.decode opcode = none →
      Fails m ⟨.unknownOpcode, m.registers.pc, some opcode⟩
  | refused {i : Instruction} {fault : Fault} :
      m.opcodeAt m.registers.pc = some i.code → m.Refuses i fault →
      Fails m ⟨fault, m.registers.pc, some i.encode⟩

variable {m m' : Machine} {i : Instruction} {fault : Fault}

/-! ## Carrying out and following -/

theorem execute_call_eq_error_iff {a : Address} :
    m.execute (.call a) = .error fault ↔
      (a.val % 2 = 1 ∧ fault = .misalignedJump (word a)) ∨
      (a.val % 2 = 0 ∧ m.registers.stack.length = 16 ∧ fault = .stackOverflow) := by
  simp only [execute]
  split
  · next hodd =>
    have hodd' : a.val % 2 = 1 := by omega
    simp [hodd', eq_comm]
  · next heven =>
    have heven' : a.val % 2 = 0 := by omega
    rw [bind_pure_eq_error_iff, Registers.push_eq_error_iff]
    simp [heven']

theorem jumpsTo_call (r : Registers) (a : Address) :
    (Instruction.call a).JumpsTo r (word a).toNat := by
  rw [toNat_word]
  exact .call a

/-- An instruction that fails is refused. -/
theorem refuses_of_execute (h : m.execute i = .error fault) : m.Refuses i fault := by
  have haccess {len : Nat} (hi : i.Accesses len) : m.Refuses i fault := by
    obtain ⟨hend, rfl⟩ := (execute_eq_error_iff_of_accesses hi).1 h
    exact .pastEnd hi hend
  cases i with
  | ret =>
    obtain ⟨hempty, rfl⟩ := execute_ret_eq_error_iff.1 h
    exact .underflow hempty
  | call a =>
    rcases execute_call_eq_error_iff.1 h with ⟨hodd, rfl⟩ | ⟨heven, hfull, rfl⟩
    · rw [← toNat_word] at hodd
      exact .misaligned (jumpsTo_call _ a) hodd
    · exact .overflow heven hfull
  | draw x y n => exact haccess (.draw x y n)
  | storeDecimal x => exact haccess (.storeDecimal x)
  | storeRegisters x => exact haccess (.storeRegisters x)
  | loadRegisters x => exact haccess (.loadRegisters x)
  | _ => cases h

/-- An instruction whose jump cannot be followed is refused. -/
theorem refuses_of_transfer (hm : m.InPlace) {target : UInt16}
    (ht : Transfer m i (.jump target) m') (hodd : target.toNat % 2 = 1) :
    m.Refuses i (.misalignedJump target) := by
  refine .misaligned ?_ hodd
  cases ht with
  | jump a =>
    rw [toNat_word]
    exact .jump a
  | jumpOffset a =>
    rw [toNat_offset]
    exact .jumpOffset a
  | call a heven hroom => exact jumpsTo_call _ a
  | ret hs =>
    have heven := (hm.aligned.pop hs).1.even
    omega
  | straight hlocal _ _ _ => exact hlocal.elim

/-- What is refused fails, or is a jump that cannot be followed. -/
theorem Refuses.cases_execute (h : m.Refuses i fault) :
    m.execute i = .error fault ∨ ∃ target m', m.execute i = .ok (.jump target, m') ∧
      target.toNat % 2 = 1 ∧ fault = .misalignedJump target := by
  cases h with
  | @misaligned _ target hjump hodd =>
    generalize ht : target.toNat = t at hjump
    cases hjump with
    | jump a =>
      obtain rfl : target = word a := UInt16.toNat_inj.1 (ht.trans (toNat_word a).symm)
      exact .inr ⟨_, m, rfl, hodd, rfl⟩
    | call a =>
      obtain rfl : target = word a := UInt16.toNat_inj.1 (ht.trans (toNat_word a).symm)
      exact .inl (execute_call_eq_error_iff.2 (.inl ⟨ht ▸ hodd, rfl⟩))
    | jumpOffset a =>
      obtain rfl : target = word a + (m.registers.get .first).toUInt16 :=
        UInt16.toNat_inj.1 (ht.trans (toNat_offset a _).symm)
      exact .inr ⟨_, m, rfl, hodd, rfl⟩
  | overflow heven hfull => exact .inl (execute_call_eq_error_iff.2 (.inr ⟨heven, hfull, rfl⟩))
  | underflow hempty => exact .inl (execute_ret_eq_error_iff.2 ⟨hempty, rfl⟩)
  | pastEnd hi hend => exact .inl ((execute_eq_error_iff_of_accesses hi).2 ⟨hend, rfl⟩)

theorem Refuses.cycle {opcode : UInt16} (h : m.Refuses i fault)
    (hf : m.memory.readWord m.registers.pc = .ok opcode)
    (hd : Instruction.decode opcode = some i) :
    m.cycle.1 = .error ⟨fault, m.registers.pc, some opcode⟩ := by
  rw [Machine.cycle, hf]
  simp only [hd]
  rcases h.cases_execute with he | ⟨target, m', he, hodd, rfl⟩
  · rw [he]
    rfl
  · rw [he]
    dsimp only
    rw [follow, if_pos (by omega)]
    rfl

/-! ## Steps -/

theorem readWord_of_opcodeAt {pc opcode : UInt16} (h : m.opcodeAt pc = some opcode.toNat) :
    m.memory.readWord pc = .ok opcode := by
  rw [opcodeAt] at h
  split at h
  · next hle => exact Memory.readWord_eq_ok_iff.2 ⟨hle, (Option.some.inj h).symm⟩
  · cases h

theorem fails_of_refuses {opcode : UInt16}
    (hf : m.memory.readWord m.registers.pc = .ok opcode)
    (hd : Instruction.decode opcode = some i) (h : m.Refuses i fault) :
    m.Fails ⟨fault, m.registers.pc, some opcode⟩ := by
  have hat := opcodeAt_of_readWord hf
  rw [← Instruction.code_of_decode hd] at hat
  rw [← Instruction.encode_of_decode hd]
  exact .refused hat h

theorem InPlace.fails_of_cycle (hm : m.InPlace) {t : Trap} (h : m.cycle = (.error t, m')) :
    m.Fails t := by
  have hc := m.cycle_cases
  rw [h] at hc
  generalize hr : (Except.error t, m') = r at hc
  cases hc with
  | unfetched hf =>
    obtain ⟨hend, rfl⟩ := Memory.readWord_eq_error_iff.1 hf
    -- Since it is even, the program counter is past the last byte and not at it.
    have hpast : 0x1000 ≤ m.registers.pc.toNat := by
      have heven := hm.aligned.pc_even
      omega
    rw [Nat.max_eq_left hpast] at hr
    cases hr
    exact .unfetched hpast
  | undecoded hf hd =>
    cases hr
    exact .undecoded (opcodeAt_of_readWord hf) hd
  | refused hf hd he =>
    cases hr
    exact fails_of_refuses hf hd (refuses_of_execute he)
  | executed hf hd he =>
    obtain ⟨target, rfl, hodd, rfl, -⟩ := follow_error hr.symm
    exact fails_of_refuses hf hd (refuses_of_transfer hm (execute_transfer he) (by omega))

theorem Fails.cycle {t : Trap} (h : m.Fails t) : m.cycle.1 = .error t := by
  cases h with
  | unfetched hpast =>
    have hf : m.memory.readWord m.registers.pc = .error _ :=
      Memory.readWord_eq_error_iff.2 ⟨by omega, rfl⟩
    rw [Nat.max_eq_left hpast] at hf
    rw [Machine.cycle, hf]
    rfl
  | undecoded hat hd =>
    rw [Machine.cycle, readWord_of_opcodeAt hat]
    simp only [hd]
    rfl
  | @refused i fault hat h =>
    rw [← i.toNat_encode] at hat
    exact h.cycle (readWord_of_opcodeAt hat) i.decode_encode

/-- The step of a reachable running machine fails exactly in the cases of `Fails`, each with its own
trap, and succeeds in all others.  The bare machine answers the same. -/
theorem step_fails_iff (hm : m.Reachable) (hrun : m.activity = .running) :
    (∀ t, m.step.1 = .error t ↔ m.Fails t) ∧
    ((∃ s, m.step.1 = .ok s) ↔ ∀ t, ¬ m.Fails t) ∧
    ∃ b, m.bare.step = .ok (m.step.1, b) := by
  have hfails (t : Trap) : m.step.1 = .error t ↔ m.Fails t := by
    rw [step_of_running hrun]
    exact ⟨fun h => hm.inPlace.fails_of_cycle (Prod.ext h rfl), Fails.cycle⟩
  refine ⟨hfails, ?_, _, m.step_bare⟩
  constructor
  · rintro ⟨s, hs⟩ t ht
    rw [(hfails t).2 ht] at hs
    cases hs
  · intro hno
    cases hs : m.step.1 with
    | ok s => exact ⟨s, rfl⟩
    | error t => exact absurd ((hfails t).1 hs) (hno t)

/-- A program calls itself until sixteen calls are open, and one that calls an odd address takes its
place.  The fault is the odd address and not the call that is one too many. -/
theorem step_fails_iff_full :
    let ops : List Operation := .load [0x22, 0x00] :: List.replicate 16 .step
    let m := (powerOn {} 0).run (ops ++ [.load [0x23, 0x01]])
    m.Reachable ∧ m.activity = .running ∧ m.registers.stack.length = 16 ∧
      m.opcodeAt m.registers.pc = some 0x2301 ∧
      m.step.1 = .error ⟨.misalignedJump 0x301, 0x200, some 0x2301⟩ ∧
      m.step.1 ≠ .error ⟨.stackOverflow, 0x200, some 0x2301⟩ := by
  intro ops m
  have hm : m.Reachable := ⟨_, _, _, rfl⟩
  obtain ⟨hrun, hdepth, hpc, hat⟩ :
      m.activity = .running ∧ m.registers.stack.length = 16 ∧ m.registers.pc = 0x200 ∧
        m.opcodeAt m.registers.pc = some 0x2301 := by
    decide +kernel
  obtain ⟨hfails, -, -⟩ := step_fails_iff hm hrun
  have hrefuses : m.Refuses (.call 0x301) (.misalignedJump 0x301) :=
    .misaligned (.call 0x301) rfl
  have htrap := (hfails _).2 (.refused (i := .call 0x301) hat hrefuses)
  rw [hpc] at htrap
  refine ⟨hm, hrun, hdepth, hat, htrap, ?_⟩
  rw [htrap]
  decide

end Machine

end Chip8
