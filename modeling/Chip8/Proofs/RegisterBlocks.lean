import Mathlib.Algebra.GroupWithZero.Nat
import Chip8.Proofs.Footprint

/-!
# Blocks of registers

`FX55` writes a block of registers at the index and moves the index past it, and `FX65` reads a
block in the same way.  So blocks that are stored one after the other lie side by side, and loads
of the same lengths that start where the stores did meet each block where it lies.

The invariant of the loads is `Memory.Holds`: block by block from an address up, memory has the
values that were stored.  The stores establish it (`holds_of_storeAll`), since no store reaches
back over the blocks before it, and the loads keep it, since they leave memory alone.
-/

namespace Chip8

/-- What goes on between two of the transfers.  It can be anything that leaves memory and the index
alone. -/
structure Interlude where
  change : Machine → Machine
  memory_change : ∀ m, (change m).memory = m.memory
  index_change : ∀ m, (change m).registers.index = m.registers.index

/-- The registers from `V0` up to and including `V(last)`, to be stored and loaded again. -/
structure Block where
  last : Register
  /-- The general registers when the block is stored. -/
  values : Table 16 UInt8
  beforeStore : Interlude
  beforeLoad : Interlude

namespace Block

/-- How many bytes of memory a block takes. -/
def length (b : Block) : Nat := b.last + 1

/-- How many bytes some blocks take. -/
def total (blocks : List Block) : Nat := (blocks.map length).sum

@[simp] theorem total_cons (b : Block) (blocks : List Block) :
    total (b :: blocks) = b.length + total blocks := rfl

end Block

/-- From an address up, memory has the values of some blocks, one block after the other. -/
def Memory.Holds (memory : Memory) : Nat → List Block → Prop
  | _, [] => True
  | start, b :: blocks =>
    (∀ y : Register, y ≤ b.last → memory.byteAt (start + y) = b.values.get y) ∧
      memory.Holds (start + b.length) blocks

namespace Machine

variable {m m' : Machine} {b : Block} {blocks : List Block}

/-- The general registers have other values. -/
def withGeneral (m : Machine) (v : Table 16 UInt8) : Machine :=
  { m with registers := { m.registers with v } }

/-- The machine that is about to store a block. -/
def readyToStore (m : Machine) (b : Block) : Machine := (b.beforeStore.change m).withGeneral b.values

/-- The machine that is about to load a block. -/
def readyToLoad (m : Machine) (b : Block) : Machine := b.beforeLoad.change m

def store (m : Machine) (b : Block) : Except Fault Machine :=
  ((m.readyToStore b).execute (.storeRegisters b.last)).map Prod.snd

def restore (m : Machine) (b : Block) : Except Fault Machine :=
  ((m.readyToLoad b).execute (.loadRegisters b.last)).map Prod.snd

/-- Stores blocks one after the other. -/
def storeAll (m : Machine) (blocks : List Block) : Except Fault Machine := blocks.foldlM store m

/-- Loads blocks one after the other. -/
def restoreAll (m : Machine) (blocks : List Block) : Except Fault Machine := blocks.foldlM restore m

/-! ## One block -/

theorem execute_storeRegisters {x : Register} (h : Memory.Fits m.registers.index (x + 1)) :
    m.execute (.storeRegisters x) = .ok (.next, { m with
      memory := m.memory.poke m.registers.index.toNat (m.registers.upTo x)
      registers := pastBlock m.registers x }) := by
  have hw : m.memory.write (m.registers.upTo x) m.registers.index = .ok _ :=
    if_pos (by rw [Registers.length_upTo]; exact h)
  simp only [execute, hw]
  rfl

theorem execute_loadRegisters {x : Register} (h : Memory.Fits m.registers.index (x + 1)) :
    m.execute (.loadRegisters x) = .ok (.next, { m with
      registers := pastBlock
        (m.registers.setFirst (m.memory.peek m.registers.index.toNat (x + 1))) x }) := by
  have hs : m.memory.slice m.registers.index (x + 1) = .ok _ := if_pos h
  simp only [execute, hs]
  rfl

theorem getD_upTo (r : Registers) {x y : Register} (h : y ≤ x) : (r.upTo x).getD y 0 = r.get y := by
  have hlt : (y : Nat) < x + 1 := Nat.lt_succ_of_le h
  rw [Registers.upTo, List.getD_eq_getElem?_getD, List.getElem?_take_of_lt hlt]
  simp [Registers.get, Table.get]

theorem getD_peek (memory : Memory) (start : Nat) (x y : Register) (old : UInt8) :
    (memory.peek start (x + 1)).getD y old = if y ≤ x then memory.byteAt (start + y) else old := by
  by_cases h : y ≤ x
  · have hlt : (y : Nat) < x + 1 := Nat.lt_succ_of_le h
    simp [Memory.peek, List.getD_eq_getElem?_getD, hlt, h]
  · have hge : (x : Nat) + 1 ≤ y := Nat.lt_of_not_le h
    rw [if_neg h, List.getD_eq_getElem?_getD, List.getElem?_eq_none (by simpa using hge),
      Option.getD_none]

/-- The index does not overflow where a block fits. -/
theorem toNat_index_pastBlock {r : Registers} {x : Register}
    (h : r.index.toNat + (x + 1) ≤ 0x1000) :
    (pastBlock r x).index.toNat = r.index.toNat + (x + 1) := by
  show (r.index + UInt16.ofNat (x + 1)).toNat = _
  rw [UInt16.toNat_add, UInt16.toNat_ofNat']
  omega

@[simp] theorem index_readyToStore (m : Machine) (b : Block) :
    (m.readyToStore b).registers.index = m.registers.index := b.beforeStore.index_change m

@[simp] theorem memory_readyToStore (m : Machine) (b : Block) :
    (m.readyToStore b).memory = m.memory := b.beforeStore.memory_change m

@[simp] theorem index_readyToLoad (m : Machine) (b : Block) :
    (m.readyToLoad b).registers.index = m.registers.index := b.beforeLoad.index_change m

@[simp] theorem memory_readyToLoad (m : Machine) (b : Block) :
    (m.readyToLoad b).memory = m.memory := b.beforeLoad.memory_change m

theorem restore_eq (h : Memory.Fits (m.readyToLoad b).registers.index (b.last + 1)) :
    m.restore b = .ok { m.readyToLoad b with
      registers := pastBlock ((m.readyToLoad b).registers.setFirst
        ((m.readyToLoad b).memory.peek (m.readyToLoad b).registers.index.toNat (b.last + 1)))
          b.last } := by
  rw [restore, execute_loadRegisters h]
  rfl

/-- A block that fits is stored at the index and nowhere else, and the index ends behind it. -/
theorem exists_store (h : m.registers.index.toNat + b.length ≤ 0x1000) :
    ∃ m', m.store b = .ok m' ∧
      m'.registers.index.toNat = m.registers.index.toNat + b.length ∧
      (∀ y : Register, y ≤ b.last →
        m'.memory.byteAt (m.registers.index.toNat + y) = b.values.get y) ∧
      ∀ a, a < m.registers.index.toNat ∨ m.registers.index.toNat + b.length ≤ a →
        m'.memory.byteAt a = m.memory.byteAt a := by
  have hfits : Memory.Fits (m.readyToStore b).registers.index (b.last + 1) := by
    rw [index_readyToStore]
    exact h
  have he := execute_storeRegisters hfits
  refine ⟨_, by rw [store, he]; rfl, ?_, fun y hy => ?_, fun a ha => ?_⟩
  · rw [← index_readyToStore m b]
    exact toNat_index_pastBlock hfits
  · have hle : (y : Nat) ≤ b.last := hy
    have hlength : b.length = b.last + 1 := rfl
    have hinside : m.registers.index.toNat + y < Memory.capacity := by
      show _ < 0x1000
      omega
    show ((m.readyToStore b).memory.poke _ ((m.readyToStore b).registers.upTo b.last)).byteAt _ = _
    rw [Memory.byteAt_poke _ _ _ _ hinside, index_readyToStore, Registers.length_upTo,
      if_pos (by omega), Nat.add_sub_cancel_left, getD_upTo _ hy]
    rfl
  · have hout : Part.byte a ∉ (Instruction.storeRegisters b.last).footprint
        (m.readyToStore b).registers.index := by
      have hlength : b.length = b.last + 1 := rfl
      rw [Instruction.footprint, List.mem_cons, mem_block, index_readyToStore]
      rintro (h | h)
      · cases h
      · omega
    have hkept : _ = (m.readyToStore b).memory.byteAt a := execute_keeps he hout
    rw [← m.memory_readyToStore b]
    exact hkept

/-- The load of a block is carried out.  It gives `V0` to `V(last)` the values that were stored and
leaves the registers above them and memory alone. -/
structure Restores (m : Machine) (b : Block) (m' : Machine) : Prop where
  restored : m.restore b = .ok m'
  memory_eq : m'.memory = m.memory
  get_eq : ∀ y : Register, m'.registers.get y =
    if y ≤ b.last then b.values.get y else (m.readyToLoad b).registers.get y

theorem exists_restores (h : m.registers.index.toNat + b.length ≤ 0x1000)
    (hholds : ∀ y : Register, y ≤ b.last →
      m.memory.byteAt (m.registers.index.toNat + y) = b.values.get y) :
    ∃ m', m.Restores b m' ∧
      m'.registers.index.toNat = m.registers.index.toNat + b.length := by
  have hfits : Memory.Fits (m.readyToLoad b).registers.index (b.last + 1) := by
    rw [index_readyToLoad]
    exact h
  refine ⟨_, ⟨restore_eq hfits, m.memory_readyToLoad b, fun y => ?_⟩, ?_⟩
  · show ((m.readyToLoad b).registers.setFirst _).get y = _
    rw [Registers.get_setFirst, getD_peek, memory_readyToLoad, index_readyToLoad]
    split
    · next hy => exact hholds y hy
    · rfl
  · rw [← index_readyToLoad m b]
    refine (toNat_index_pastBlock ?_).trans ?_
    · rw [Registers.index_setFirst]
      exact hfits
    · rw [Registers.index_setFirst]
      rfl

/-! ## One block after the other -/

/-- Blocks that fit are stored side by side from the index up and nowhere else. -/
theorem exists_storeAll (h : m.registers.index.toNat + Block.total blocks ≤ 0x1000) :
    ∃ stored, m.storeAll blocks = .ok stored ∧
      stored.registers.index.toNat = m.registers.index.toNat + Block.total blocks ∧
      stored.memory.Holds m.registers.index.toNat blocks ∧
      ∀ a, a < m.registers.index.toNat ∨ m.registers.index.toNat + Block.total blocks ≤ a →
        stored.memory.byteAt a = m.memory.byteAt a := by
  induction blocks generalizing m with
  | nil => exact ⟨m, rfl, rfl, trivial, fun _ _ => rfl⟩
  | cons b blocks ih =>
    rw [Block.total_cons] at h ⊢
    obtain ⟨m₁, hstore, hindex, hvalues, hkept⟩ := m.exists_store (b := b) (by omega)
    obtain ⟨stored, hrest, hlast, hholds, houtside⟩ := ih (m := m₁) (by omega)
    rw [hindex] at hlast hholds houtside
    refine ⟨stored, ?_, by omega, ⟨fun y hy => ?_, hholds⟩, fun a ha => ?_⟩
    · rw [storeAll, List.foldlM_cons, hstore]
      exact hrest
    · -- the stores that follow begin behind this block
      have hlt : (y : Nat) < b.length := Nat.lt_succ_of_le hy
      rw [houtside _ (.inl (by omega)), hvalues y hy]
    · rw [houtside a (by omega), hkept a (by omega)]

/-- If memory holds the blocks from the index up, the loads bring back one after the other. -/
theorem exists_restoreAll (h : m.registers.index.toNat + Block.total blocks ≤ 0x1000)
    (hholds : m.memory.Holds m.registers.index.toNat blocks) :
    ∃ loaded, m.restoreAll blocks = .ok loaded ∧ loaded.memory = m.memory ∧
      loaded.registers.index.toNat = m.registers.index.toNat + Block.total blocks ∧
      ∀ j (_ : j < blocks.length), ∃ m₁ m₂, m.restoreAll (blocks.take j) = .ok m₁ ∧
        m₁.memory = m.memory ∧ m₁.Restores blocks[j] m₂ := by
  induction blocks generalizing m with
  | nil => exact ⟨m, rfl, rfl, rfl, fun j hj => absurd hj (Nat.not_lt_zero j)⟩
  | cons b blocks ih =>
    rw [Block.total_cons] at h ⊢
    obtain ⟨m', hfirst, hindex⟩ := exists_restores (b := b) (by omega) hholds.1
    have hnext : m'.memory.Holds m'.registers.index.toNat blocks := by
      rw [hfirst.memory_eq, hindex]
      exact hholds.2
    have hcons (l : List Block) : m.restoreAll (b :: l) = m'.restoreAll l := by
      rw [restoreAll, List.foldlM_cons, hfirst.restored]
      rfl
    obtain ⟨loaded, hrest, hmemory, hlast, hbring⟩ := ih (m := m') (by omega) hnext
    rw [hfirst.memory_eq] at hmemory hbring
    refine ⟨loaded, (hcons blocks).trans hrest, hmemory, by omega, fun j hj => ?_⟩
    cases j with
    | zero => exact ⟨m, m', rfl, rfl, hfirst⟩
    | succ j =>
      obtain ⟨m₁, m₂, hbefore, hsame, hrestores⟩ := hbring j (Nat.lt_of_succ_lt_succ hj)
      exact ⟨m₁, m₂, (hcons _).trans hbefore, hsame, hrestores⟩

/-- Blocks of registers that fit between the index and the end of memory are stored without a fault
and without touching memory elsewhere.  From any machine with that memory and with the index back
at the start, all of them are loaded without a fault: each load brings back the values that were
stored and leaves memory and the registers above its block alone, and the index ends where the
stores left it. -/
theorem restores_stored (m : Machine) (blocks : List Block)
    (hfit : m.registers.index.toNat + Block.total blocks ≤ 0x1000) :
    ∃ stored, m.storeAll blocks = .ok stored ∧
      (∀ a, a < m.registers.index.toNat ∨ m.registers.index.toNat + Block.total blocks ≤ a →
        stored.memory.byteAt a = m.memory.byteAt a) ∧
      ∀ back : Machine, back.memory = stored.memory → back.registers.index = m.registers.index →
        ∃ loaded, back.restoreAll blocks = .ok loaded ∧ loaded.memory = stored.memory ∧
          loaded.registers.index = stored.registers.index ∧
          ∀ j (_ : j < blocks.length), ∃ m₁ m₂, back.restoreAll (blocks.take j) = .ok m₁ ∧
            m₁.memory = stored.memory ∧ m₁.Restores blocks[j] m₂ := by
  obtain ⟨stored, hstore, hend, hholds, houtside⟩ := exists_storeAll hfit
  refine ⟨stored, hstore, houtside, fun back hmemory hindex => ?_⟩
  rw [← hindex] at hfit hholds hend
  rw [← hmemory] at hholds ⊢
  obtain ⟨loaded, hload, hsame, hlast, hrestores⟩ := exists_restoreAll hfit hholds
  refine ⟨loaded, hload, hsame, ?_, hrestores⟩
  rw [← UInt16.toNat_inj, hlast, hend]

/-- Two blocks are stored up to the very end of memory, with a tick before each, and the second
brings back its two values. -/
theorem restores_stored_at_end :
    let m := { powerOn {} 0 with registers := { Registers.powerOn with index := 0xFFA } }
    let tick : Interlude := ⟨Machine.tick, fun _ => rfl, fun _ => rfl⟩
    let blocks : List Block := [⟨3, .ofFn fun x => .ofNat (x + 10), tick, tick⟩,
      ⟨1, .ofFn fun x => .ofNat (x + 20), tick, tick⟩]
    m.registers.index.toNat + Block.total blocks ≤ 0x1000 ∧
      ∃ stored m₁ m₂, m.storeAll blocks = .ok stored ∧
        stored.memory.byteAt 0xFF9 = m.memory.byteAt 0xFF9 ∧
        ({ stored with registers := m.registers } : Machine).restoreAll (blocks.take 1) = .ok m₁ ∧
        m₁.restore blocks[1] = .ok m₂ ∧ m₂.registers.get 1 = 21 ∧
        m₂.registers.get 2 = m₁.registers.get 2 := by
  intro m tick blocks
  have hfit : m.registers.index.toNat + Block.total blocks ≤ 0x1000 := by decide
  obtain ⟨stored, hstore, houtside, hload⟩ := m.restores_stored blocks hfit
  obtain ⟨loaded, -, -, -, hrestores⟩ := hload { stored with registers := m.registers } rfl rfl
  obtain ⟨m₁, m₂, hfirst, -, hsecond⟩ := hrestores 1 (by decide)
  exact ⟨hfit, stored, m₁, m₂, hstore, houtside 0xFF9 (.inl (by decide)), hfirst,
    hsecond.restored, hsecond.get_eq 1, hsecond.get_eq 2⟩

end Machine

end Chip8
