import Chip8.Proofs.Control
import Chip8.Proofs.Tracing

/-!
# Where the index points

The index register has sixteen bits, and adding to it wraps.  Beside a run there goes the index
that the program has in mind (`intendedIndex`): it is moved by the same instructions and put to
zero by a reset, but has no bound.  The register is what is left of it in sixteen bits
(`traces_index`), since every way of moving it is an assignment or an addition.

An access looks at the register alone.  So an index that has left memory faults when it is
used, as long as it has not come round to memory again, which takes it past `0xFFFF`
(`access_traps_iff`).  A row of additions does bring it round, and is followed by induction
(`IsAt.additions`).
-/

namespace Chip8

namespace Instruction

/-- Where an instruction moves an index that is at `j`, if the index has no bound. -/
def moveIndex (r : Registers) (j : Nat) : Instruction → Nat
  | loadIndex a => a
  | addIndex x => j + (r.get x).toNat
  | glyph x => (Font.address (r.get x)).toNat
  | storeRegisters x | loadRegisters x => j + (x + 1)
  | _ => j

/-- How many bytes of memory an instruction reads or writes from the index up. -/
def reach : Instruction → Nat
  | draw _ _ n => n
  | storeDecimal _ => 3
  | storeRegisters x | loadRegisters x => x + 1
  | _ => 0

/-- The instruction reads or writes that many bytes from the index up.  A sprite without lines counts,
since its place is looked up all the same. -/
inductive Accesses : Instruction → Nat → Prop where
  | draw (x y : Register) (n : Fin 16) : Accesses (.draw x y n) n
  | storeDecimal (x : Register) : Accesses (.storeDecimal x) 3
  | storeRegisters (x : Register) : Accesses (.storeRegisters x) (x + 1)
  | loadRegisters (x : Register) : Accesses (.loadRegisters x) (x + 1)

theorem accesses_reach {i : Instruction} (h : 0 < i.reach) : i.Accesses i.reach := by
  cases i with
  | draw x y n => exact .draw x y n
  | storeDecimal x => exact .storeDecimal x
  | storeRegisters x => exact .storeRegisters x
  | loadRegisters x => exact .loadRegisters x
  | _ => exact absurd h (Nat.lt_irrefl 0)

/-- It makes no difference in sixteen bits whether all of the index is moved or what is left of it
in sixteen bits. -/
theorem moveIndex_mod (r : Registers) (j : Nat) (i : Instruction) :
    i.moveIndex r (j % 0x10000) % 0x10000 = i.moveIndex r j % 0x10000 := by
  cases i with
  | addIndex x => exact Nat.mod_add_mod j _ _
  | storeRegisters x => exact Nat.mod_add_mod j _ _
  | loadRegisters x => exact Nat.mod_add_mod j _ _
  | loadIndex a => rfl
  | glyph x => rfl
  | _ => exact Nat.mod_mod j _

end Instruction

namespace Machine

variable {m m' : Machine} {i : Instruction}

/-! ## The index that is intended -/

/-- Where operations without frames among them move an index that is at `j`: a reset puts it to
zero, and a step moves it as its instruction says, if it carries one out. -/
def intendedIndex (m : Machine) (j : Nat) (ops : List Operation) : Nat :=
  track (noting 0 fun m i j => i.moveIndex m.registers j) m j ops

/-- The register after an instruction is where the instruction moves it, in sixteen bits. -/
theorem index_of_execute {flow : Flow} (h : m.execute i = .ok (flow, m')) :
    m'.registers.index.toNat = i.moveIndex m.registers m.registers.index.toNat % 0x10000 := by
  have hsame (hi : .index ∉ i.footprint m.registers.index)
      (hmove : i.moveIndex m.registers m.registers.index.toNat = m.registers.index.toNat) :
      m'.registers.index.toNat = i.moveIndex m.registers m.registers.index.toNat % 0x10000 := by
    have hkept : m'.registers.index = m.registers.index := execute_keeps h hi
    rw [hkept, hmove]
    exact (Nat.mod_eq_of_lt m.registers.index.toNat_lt).symm
  cases i with
  | loadIndex a => cases h; exact UInt16.toNat_ofNat'
  | addIndex x =>
    cases h
    show (m.registers.index + (m.registers.get x).toUInt16).toNat = _
    rw [UInt16.toNat_add, UInt8.toNat_toUInt16]
    rfl
  | glyph x => cases h; exact (Nat.mod_eq_of_lt (Font.address (m.registers.get x)).toNat_lt).symm
  | storeRegisters x =>
    obtain ⟨memory, -, h⟩ := bind_eq_ok_iff.1 h
    cases h
    show (m.registers.index + UInt16.ofNat (x + 1)).toNat = _
    rw [UInt16.toNat_add, UInt16.toNat_ofNat', Nat.add_mod_mod]
    rfl
  | loadRegisters x =>
    obtain ⟨values, -, h⟩ := bind_eq_ok_iff.1 h
    cases h
    show ((m.registers.setFirst values).index + UInt16.ofNat (x + 1)).toNat = _
    rw [Registers.index_setFirst, UInt16.toNat_add, UInt16.toNat_ofNat', Nat.add_mod_mod]
    rfl
  | arithmetic o x y =>
    refine hsame ?_ rfl
    rw [Instruction.footprint]
    split <;> simp
  | storeDecimal x => exact hsame (by simp [Instruction.footprint, Part.block]) rfl
  | _ => exact hsame (by simp [Instruction.footprint]) rfl

/-- The register is the index that is intended, in sixteen bits. -/
theorem traces_index : Traces .index 0 (fun m i j => i.moveIndex m.registers j)
    (fun m j => m.registers.index.toNat = j % 0x10000) where
  internal := trivial
  congr {m m' _} hkeeps h := by
    have hindex : m'.registers.index = m.registers.index := hkeeps
    rw [hindex]
    exact h
  reset _ := rfl
  execute he h := by
    have hindex := index_of_execute he
    rw [h, Instruction.moveIndex_mod] at hindex
    exact hindex

theorem intendedIndex_cons (h : m.carriedOut? = some i) (j : Nat) (ops : List Operation) :
    m.intendedIndex j (.step :: ops) =
      m.step.2.intendedIndex (i.moveIndex m.registers j) ops := by
  rw [intendedIndex, track, noting_step h]
  rfl

/-! ## Using the index -/

/-- An instruction that is refused halts the machine and that is all. -/
theorem Runs.step_of_refused (hruns : m.Runs i) {fault : Fault} (h : m.execute i = .error fault) :
    ∃ opcode, m.step = m.halt ⟨fault, m.registers.pc, some opcode⟩ := by
  obtain ⟨opcode, hf, hd⟩ := nextInstruction?_eq_some_iff.1 hruns.2
  refine ⟨opcode, ?_⟩
  rw [step_of_running hruns.1, cycle, hf]
  simp only [hd, h]

/-- An instruction that uses the index fails exactly if it reaches past the end of memory. -/
theorem execute_eq_error_iff_of_accesses {len : Nat} {fault : Fault} (h : i.Accesses len) :
    m.execute i = .error fault ↔ 0x1000 < m.registers.index.toNat + len ∧
      fault = .addressOutOfRange (max m.registers.index.toNat 0x1000) := by
  cases h with
  | draw x y n => exact bind_pure_eq_error_iff.trans Memory.slice_eq_error_iff
  | storeDecimal x => exact bind_pure_eq_error_iff.trans Memory.write_eq_error_iff
  | storeRegisters x =>
    rw [← Registers.length_upTo m.registers x]
    exact bind_pure_eq_error_iff.trans Memory.write_eq_error_iff
  | loadRegisters x => exact bind_pure_eq_error_iff.trans Memory.slice_eq_error_iff

theorem execute_of_not_fits (hi : 0 < i.reach) (h : ¬ Memory.Fits m.registers.index i.reach) :
    m.execute i = .error (Memory.rangeFault m.registers.index) :=
  (execute_eq_error_iff_of_accesses (Instruction.accesses_reach hi)).2 ⟨Nat.not_le.1 h, rfl⟩

/-- An instruction that uses the index is carried out if all of its bytes exist. -/
theorem execute_of_fits (hi : 0 < i.reach) (h : Memory.Fits m.registers.index i.reach) :
    ∃ flow m', flow.IsLocal ∧ m.execute i = .ok (flow, m') := by
  cases i with
  | draw x y n =>
    have hs : m.memory.slice m.registers.index n = .ok _ := if_pos h
    simp only [execute, hs]
    exact ⟨.redraw, _, trivial, rfl⟩
  | storeDecimal x =>
    have hw : m.memory.write (decimalDigits (m.registers.get x)) m.registers.index = .ok _ :=
      if_pos h
    simp only [execute, hw]
    exact ⟨.next, _, trivial, rfl⟩
  | storeRegisters x =>
    have hw : m.memory.write (m.registers.upTo x) m.registers.index = .ok _ :=
      if_pos (by rw [Registers.length_upTo]; exact h)
    simp only [execute, hw]
    exact ⟨.next, _, trivial, rfl⟩
  | loadRegisters x =>
    have hs : m.memory.slice m.registers.index (x + 1) = .ok _ := if_pos h
    simp only [execute, hs]
    exact ⟨.next, _, trivial, rfl⟩
  | _ => exact absurd hi (Nat.lt_irrefl 0)

/-- A step that uses the index traps if it reaches past the end of memory, and the trap names
the first address there. -/
theorem Runs.step_of_not_fits (hruns : m.Runs i) (hi : 0 < i.reach)
    (h : 0x1000 < m.registers.index.toNat + i.reach) :
    ∃ opcode, m.step = m.halt
      ⟨.addressOutOfRange (max m.registers.index.toNat 0x1000), m.registers.pc, some opcode⟩ :=
  hruns.step_of_refused (execute_of_not_fits hi (Nat.not_le.2 h))

theorem Runs.step_of_fits (hruns : m.Runs i) (hi : 0 < i.reach)
    (h : m.registers.index.toNat + i.reach ≤ 0x1000) : ∃ s m', m.step = (.ok s, m') := by
  obtain ⟨flow, m', hlocal, he⟩ := execute_of_fits hi h
  obtain ⟨opcode, hs⟩ := hruns.step_of_execute he
  rw [hs]
  cases hf : m'.follow m.registers.pc opcode flow with
  | mk r m'' =>
    cases r with
    | ok s => exact ⟨s, m'', rfl⟩
    | error t =>
      obtain ⟨target, rfl, -⟩ := follow_error hf
      exact hlocal.elim

end Machine

/-! ## A row of additions -/

namespace Memory

/-- Words as a program, the more significant byte of each first. -/
def bytesOf (words : List UInt16) : List UInt8 :=
  words.flatMap fun w : UInt16 => [(w >>> 8).toUInt8, w.toUInt8]

theorem length_bytesOf (words : List UInt16) : (bytesOf words).length = 2 * words.length := by
  rw [bytesOf, List.length_flatMap]
  simp [List.map_const', Nat.mul_comm]

theorem getD_bytesOf {words : List UInt16} {k : Nat} {w : UInt16} (h : words[k]? = some w) :
    (bytesOf words).getD (2 * k) 0 = (w >>> 8).toUInt8 ∧
      (bytesOf words).getD (2 * k + 1) 0 = w.toUInt8 := by
  induction words generalizing k with
  | nil => cases h
  | cons w' words ih =>
    cases k with
    | zero =>
      cases h
      exact ⟨rfl, rfl⟩
    | succ k => exact ih h

theorem readWord_poke_bytesOf (m : Memory) {words : List UInt16} {k : Nat} {w addr : UInt16}
    (hshort : 2 * words.length ≤ maxProgramBytes) (hw : words[k]? = some w)
    (haddr : addr.toNat = programStart + 2 * k) :
    (m.poke programStart (bytesOf words)).readWord addr = .ok w := by
  obtain ⟨hhigh, hlow⟩ := getD_bytesOf hw
  have hk : k < words.length := (List.getElem?_eq_some_iff.1 hw).1
  have hroom : 2 * words.length ≤ 0x1000 - 0x200 := hshort
  have hstart : addr.toNat = 0x200 + 2 * k := haddr
  have hbyte (j : Nat) (hj : j < 2 * words.length) :
      (m.poke programStart (bytesOf words)).byteAt (programStart + j) = (bytesOf words).getD j 0 := by
    have hinside : programStart + j < capacity := by
      show 0x200 + j < 0x1000
      omega
    rw [byteAt_poke _ _ _ _ hinside, length_bytesOf, if_pos (by omega), Nat.add_sub_cancel_left]
  rw [readWord_eq_ok_iff]
  refine ⟨by omega, ?_⟩
  rw [haddr, Nat.add_assoc, hbyte _ (by omega), hbyte _ (by omega), hhigh, hlow, UInt16.toNat_toUInt8,
    UInt16.toNat_toUInt8, UInt16.toNat_shiftRight]
  have hlt := w.toNat_lt
  show w.toNat = 256 * (w.toNat >>> 8 % 2 ^ 8) + w.toNat % 2 ^ 8
  rw [Nat.shiftRight_eq_div_pow]
  omega

end Memory

namespace Machine

variable {m m' : Machine} {i : Instruction}

/-- The machine runs a program of words, and the word at place `k` is next. -/
structure IsAt (m : Machine) (words : List UInt16) (k : Nat) : Prop where
  running : m.activity = .running
  memory : ∃ before : Memory, m.memory = before.poke Memory.programStart (Memory.bytesOf words)
  short : 2 * words.length ≤ Memory.maxProgramBytes
  pc : m.registers.pc.toNat = Memory.programStart + 2 * k

theorem isAt_load {words : List UInt16} (hrun : m.activity = .running)
    (hpc : m.registers.pc.toNat = Memory.programStart)
    (hshort : 2 * words.length ≤ Memory.maxProgramBytes) :
    IsAt (m.perform (.load (Memory.bytesOf words))).2 words 0 := by
  rcases m.load_cases (Memory.bytesOf words) with ⟨hlong, -⟩ | ⟨-, hl⟩
  · rw [Memory.length_bytesOf] at hlong
    exact absurd hshort (Nat.not_le.2 hlong)
  · rw [perform, hl]
    exact ⟨hrun, ⟨_, rfl⟩, hshort, hpc⟩

namespace IsAt

variable {words : List UInt16} {k : Nat} {w : UInt16}

theorem runs (h : m.IsAt words k) (hw : words[k]? = some w) (hi : Instruction.decode w = some i) :
    m.Runs i := by
  obtain ⟨before, hmemory⟩ := h.memory
  refine ⟨h.running, nextInstruction?_eq_some_iff.2 ⟨w, ?_, hi⟩⟩
  rw [hmemory]
  exact Memory.readWord_poke_bytesOf before h.short hw h.pc

/-- An instruction that changes registers and goes on is carried out, and the word behind it is
next. -/
theorem next (h : m.IsAt words k) (hw : words[k]? = some w) (hi : Instruction.decode w = some i)
    {registers : Registers} (he : m.execute i = .ok (.next, { m with registers })) :
    ∃ m', m.step.2 = m' ∧ m'.IsAt words (k + 1) ∧ m'.registers.v = registers.v ∧
      m.carriedOut? = some i := by
  have hruns := h.runs hw hi
  obtain ⟨opcode, hs⟩ := hruns.step_of_execute he
  have hcarried : m.carriedOut? = some i := by
    rw [carriedOut?, hs]
    exact hruns.2
  refine ⟨Machine.goTo { m with registers } (m.registers.pc + 2), by rw [hs]; rfl,
    ⟨h.running, h.memory, h.short, ?_⟩, rfl, hcarried⟩
  show (m.registers.pc + 2).toNat = _
  rw [toNat_behind hruns.pc_le, h.pc, Nat.mul_succ, Nat.add_assoc]

/-- A row of additions of `VX` to the index adds `VX` as many times. -/
theorem additions {x : Register} {n : Nat} (h : m.IsAt words k)
    (hrow : ∀ k' < n, words[k + k']? = some w) (hi : Instruction.decode w = some (.addIndex x))
    (j : Nat) :
    (m.stepped n).IsAt words (k + n) ∧
      m.intendedIndex j (List.replicate n .step) = j + n * (m.registers.get x).toNat := by
  induction n generalizing m k j with
  | zero => exact ⟨h, by simp [intendedIndex, track]⟩
  | succ n ih =>
    obtain ⟨m', hs, h', hv, hcarried⟩ := h.next (hrow 0 (Nat.succ_pos n)) hi rfl
    have hx : m'.registers.get x = m.registers.get x := by rw [Registers.get, hv]; rfl
    have hrow' : ∀ k' < n, words[k + 1 + k']? = some w := by
      intro k' hk'
      rw [Nat.add_assoc, Nat.add_comm 1]
      exact hrow (k' + 1) (by omega)
    obtain ⟨hend, hJ⟩ := ih h' hrow' (j + (m.registers.get x).toNat)
    have hn : m.stepped (n + 1) = m'.stepped n := by rw [stepped_succ, hs]
    have hplace : k + (n + 1) = k + 1 + n := by omega
    refine ⟨by rwa [hn, hplace], ?_⟩
    calc m.intendedIndex j (List.replicate (n + 1) .step)
        = m'.intendedIndex (j + (m.registers.get x).toNat) (List.replicate n .step) := by
          rw [List.replicate_succ, intendedIndex_cons hcarried, hs]
          rfl
      _ = j + (m.registers.get x).toNat + n * (m.registers.get x).toNat := by rw [hJ, hx]
      _ = j + (n + 1) * (m.registers.get x).toNat := by
          rw [Nat.succ_mul, Nat.add_assoc, Nat.add_comm (n * _)]

end IsAt

/-- A program that sets the index to `a` and goes on by `b` for `n` times has the index at
`a + n b` in mind when it comes to the instruction after that. -/
theorem run_additions {words rest : List UInt16} {first second third last : UInt16}
    {a : Address} {x : Register} {b : UInt8} {n k : Nat} (hrun : m.activity = .running)
    (hpc : m.registers.pc.toNat = Memory.programStart)
    (hwords : words = first :: second :: (List.replicate n third ++ last :: rest))
    (hshort : 2 * words.length ≤ Memory.maxProgramBytes)
    (hfirst : Instruction.decode first = some (.loadIndex a))
    (hsecond : Instruction.decode second = some (.load x b))
    (hthird : Instruction.decode third = some (.addIndex x))
    (hlast : Instruction.decode last = some i) (hk : k = n + 2) (j : Nat) :
    let ops := .load (Memory.bytesOf words) :: List.replicate k .step
    m.intendedIndex j ops = a + n * b.toNat ∧ (m.run ops).Runs i := by
  subst hk
  have h₁ := isAt_load hrun hpc hshort
  generalize hm₁ : (m.perform (.load (Memory.bytesOf words))).2 = m₁ at h₁
  -- The first two instructions set up the index and what is added to it.
  obtain ⟨m₂, hs₁, h₂, -, hcarried₁⟩ := h₁.next (by rw [hwords]; rfl) hfirst rfl
  obtain ⟨m₃, hs₂, h₃, hv, hcarried₂⟩ := h₂.next (by rw [hwords]; rfl) hsecond rfl
  have hx : m₃.registers.get x = b := by
    rw [Registers.get, hv]
    exact Table.get_put_self _ x b
  have hrow : ∀ k < n, words[0 + 1 + 1 + k]? = some third := by
    intro k hk
    rw [hwords, Nat.add_comm]
    simp [List.getElem?_append, hk]
  have hend : words[0 + 1 + 1 + n]? = some last := by
    rw [hwords, Nat.add_comm]
    simp
  obtain ⟨hat, hJ⟩ := h₃.additions hrow hthird a
  rw [hx] at hJ
  refine ⟨?_, ?_⟩
  · show m.intendedIndex j (.load (Memory.bytesOf words) :: List.replicate (n + 2) .step) = _
    have hloaded : m.intendedIndex j (.load (Memory.bytesOf words) :: List.replicate (n + 2) .step) =
        m₁.intendedIndex j (List.replicate (n + 2) .step) := by
      rw [← hm₁]
      rfl
    rw [hloaded, List.replicate_succ, intendedIndex_cons hcarried₁, hs₁, List.replicate_succ,
      intendedIndex_cons hcarried₂, hs₂]
    exact hJ
  · show ((m.perform (.load (Memory.bytesOf words))).2.stepped (n + 2)).Runs i
    rw [hm₁, stepped_succ, stepped_succ, hs₁, hs₂]
    exact hat.runs hend hlast

/-! ## Past the end of memory -/

/-- Let a program have moved the index to `J` by some moment of a run, over the unbounded numbers;
the last moment is the end of the run.  The register is `J` in sixteen bits.  An instruction that
then uses the index traps by the address exactly if the register, and not `J`, is so high that not
all of its bytes exist, and otherwise it is carried out.  So an index past `0xFFF` faults when it is
used unless it is past `0xFFFF` as well. -/
theorem access_traps_iff (config : Config) (entropy : ChaCha.Key) (ops : List Operation) :
    let m₀ := powerOn config entropy
    m₀.moment ops (m₀.unrolled ops).length = m₀.run ops ∧
    ∀ k,
      let m := m₀.moment ops k
      let J := m₀.intendedIndex 0 ((m₀.unrolled ops).take k)
      m.registers.index.toNat = J % 0x10000 ∧
      ∀ i, m.Runs i → 0 < i.reach →
        ((∃ opcode, m.step = m.halt
            ⟨.addressOutOfRange (max (J % 0x10000) 0x1000), m.registers.pc, some opcode⟩) ↔
          0x1000 < J % 0x10000 + i.reach) ∧
        ((∃ s m', m.step = (.ok s, m')) ↔ J % 0x10000 + i.reach ≤ 0x1000) ∧
        (0xFFF < J → J ≤ 0xFFFF → ∃ opcode, m.step = m.halt
          ⟨.addressOutOfRange J, m.registers.pc, some opcode⟩) := by
  intro m₀
  refine ⟨m₀.moment_length ops, ?_⟩
  intro k m J
  have hindex : m.registers.index.toNat = J % 0x10000 := traces_index.moment rfl ops k
  refine ⟨hindex, fun i hruns hi => ?_⟩
  have htraps := hruns.step_of_not_fits hi
  have hruns := hruns.step_of_fits hi
  rw [hindex] at htraps hruns
  refine ⟨⟨?_, htraps⟩, ⟨?_, hruns⟩, ?_⟩
  · rintro ⟨opcode, ht⟩
    by_contra hfits
    obtain ⟨s, m', hs⟩ := hruns (by omega)
    cases ht.symm.trans hs
  · rintro ⟨s, m', hs⟩
    by_contra hlong
    obtain ⟨opcode, ht⟩ := htraps (by omega)
    cases ht.symm.trans hs
  · intro hpast hbelow
    have hsame : J % 0x10000 = J := Nat.mod_eq_of_lt (by omega)
    rw [hsame, Nat.max_eq_left (by omega)] at htraps
    exact htraps (by omega)

/-- An index moved on by one from the last address faults when it is used. -/
theorem access_traps_past_end :
    let ops := [.load [0xAF, 0xFF, 0x60, 0x01, 0xF0, 0x1E, 0xF0, 0x33], .step, .step, .step]
    ((powerOn {} 0).moment ops 4).Runs (.storeDecimal 0) ∧
      (powerOn {} 0).intendedIndex 0 (((powerOn {} 0).unrolled ops).take 4) = 0x1000 ∧
      ∃ opcode, ((powerOn {} 0).moment ops 4).step = ((powerOn {} 0).moment ops 4).halt
        ⟨.addressOutOfRange 0x1000, 0x206, some opcode⟩ := by
  intro ops
  obtain ⟨hruns, hJ, hpc⟩ : ((powerOn {} 0).moment ops 4).Runs (.storeDecimal 0) ∧
      (powerOn {} 0).intendedIndex 0 (((powerOn {} 0).unrolled ops).take 4) = 0x1000 ∧
      ((powerOn {} 0).moment ops 4).registers.pc = 0x206 := by
    decide +kernel
  obtain ⟨-, hmoments⟩ := access_traps_iff {} 0 ops
  obtain ⟨-, -, hfaults⟩ := (hmoments 4).2 _ hruns (by decide)
  obtain ⟨opcode, htrap⟩ := hfaults (by rw [hJ]; decide) (by rw [hJ]; decide)
  rw [hJ, hpc] at htrap
  exact ⟨hruns, hJ, opcode, htrap⟩

/-- An index at the end of memory is moved on by 255 for 241 times and has come round: it is
meant to be at `0x1000E`, and the digits go to `0x00E`. -/
theorem access_wraps_around :
    let words := 0xAFFF :: 0x60FF :: (List.replicate 241 0xF01E ++ [0xF033])
    let m₀ := powerOn {} 0
    let ops := .load (Memory.bytesOf words) :: List.replicate 243 .step
    let m := m₀.run ops
    m.Runs (.storeDecimal 0) ∧ m₀.intendedIndex 0 ops = 0x1000E ∧ m.registers.index = 0xE ∧
      ∃ s m', m.step = (.ok s, m') := by
  intro words m₀ ops
  have hshort : 2 * words.length ≤ Memory.maxProgramBytes := by
    rw [List.length_cons, List.length_cons, List.length_append, List.length_replicate]
    decide
  have hfirst : Instruction.decode 0xAFFF = some (.loadIndex 0xFFF) := rfl
  have hsecond : Instruction.decode 0x60FF = some (.load 0 0xFF) := rfl
  have hthird : Instruction.decode 0xF01E = some (.addIndex 0) := rfl
  have hlast : Instruction.decode 0xF033 = some (.storeDecimal 0) := rfl
  obtain ⟨hJ, hruns⟩ :=
    run_additions (m := m₀) (k := 243) rfl rfl rfl hshort hfirst hsecond hthird hlast rfl 0
  have hmeant : m₀.intendedIndex 0 ops = 0x1000E := hJ
  have hops : ∀ op ∈ ops, op ≠ .runFrame := by
    intro op hop
    rcases List.mem_cons.1 hop with rfl | hop
    · simp
    · rw [List.eq_of_mem_replicate hop]
      simp
  have hindex := traces_index.run (m := m₀) (a := 0) hops rfl
  rw [← intendedIndex] at hindex
  rw [hmeant] at hindex
  have hregister : (m₀.run ops).registers.index = 0xE := UInt16.toNat_inj.1 hindex
  refine ⟨hruns, hmeant, hregister, hruns.step_of_fits (by decide) ?_⟩
  rw [hregister]
  decide

end Machine

end Chip8
