import Mathlib.Data.List.Basic
import Chip8.Terminal.Geometry

/-!
# Points out of packed frames

A packed frame of any width and height is read bit by bit.  Bit number `n` belongs to the pixel in
column `n % width` and row `n / width`, wherever the bytes end, and the pixel in column `x` and row
`y` has bit number `y * width + x`.  So the points of a frame are those of its set bits in the order
of their numbers, they lie inside the bounds, and they tell all bits that belong to pixels
(`points_of_set_bits`).

A frame that is too short is refused exactly if reading its bits one after the other comes to a
byte that is not there (`litPoints_eq`).
-/

namespace Chip8

/-- A point with its coordinates as whole numbers. -/
def Point.coordinates (p : Point) : Int × Int := (p.x.value, p.y.value)

namespace Geometry

variable {g : Geometry} {bytes other : Array UInt8}

/-- The points of the lit pixels, with whole numbers as their coordinates. -/
def litCoordinates (g : Geometry) (bytes : Array UInt8) : Option (List (Int × Int)) :=
  (g.litPoints bytes).map (·.map Point.coordinates)

/-! ## Reading bits -/

/-- Bit `n` of a packed frame is there and is set.  The bits of a byte are numbered from the most
significant one. -/
def IsSet (bytes : Array UInt8) (n : Nat) : Prop :=
  ∃ h : n / 8 < bytes.size, bytes[n / 8].toNat.testBit (7 - n % 8) = true

instance (bytes : Array UInt8) (n : Nat) : Decidable (IsSet bytes n) :=
  inferInstanceAs (Decidable (∃ _ : n / 8 < bytes.size, _))

/-- Bit `n` of a packed frame, if its byte is there. -/
def bit? (bytes : Array UInt8) (n : Nat) : Option Bool :=
  bytes[n / 8]?.map fun b => b.toBitVec.getMsbD (n % 8)

/-- The numbers of the bits that are set, out of those that are read one after the other; `none` as
soon as a byte is not there. -/
def setBits? (bytes : Array UInt8) : List Nat → Option (List Nat)
  | [] => some []
  | n :: ns => do
    let lit ← bit? bytes n
    let rest ← setBits? bytes ns
    return if lit then n :: rest else rest

theorem bit?_eq_some {n : Nat} (h : n / 8 < bytes.size) : bit? bytes n = some (bit bytes n) := by
  rw [bit?, Array.getElem?_eq_getElem h, bit_eq_getMsbD h, Option.map_some]

theorem bit?_eq_none {n : Nat} (h : ¬ n / 8 < bytes.size) : bit? bytes n = none := by
  rw [bit?, Array.getElem?_eq_none (Nat.le_of_not_lt h)]
  rfl

theorem bit_eq_true_iff {n : Nat} (h : n / 8 < bytes.size) :
    bit bytes n = true ↔ IsSet bytes n := by
  rw [bit_eq_getMsbD h, getMsbD_eq_testBit _ (by omega)]
  exact ⟨fun hset => ⟨h, hset⟩, fun ⟨_, hset⟩ => hset⟩

theorem setBits?_eq (bytes : Array UInt8) (ns : List Nat) :
    setBits? bytes ns =
      if ∀ n ∈ ns, n / 8 < bytes.size then some (ns.filter (bit bytes)) else none := by
  induction ns with
  | nil => simp [setBits?]
  | cons n ns ih =>
    rw [setBits?, ih]
    by_cases hn : n / 8 < bytes.size
    · rw [bit?_eq_some hn]
      by_cases hns : ∀ k ∈ ns, k / 8 < bytes.size
      · have hall : ∀ k ∈ n :: ns, k / 8 < bytes.size := List.forall_mem_cons.2 ⟨hn, hns⟩
        rw [if_pos hns, if_pos hall, List.filter_cons]
        rfl
      · have hall : ¬ ∀ k ∈ n :: ns, k / 8 < bytes.size := fun h => hns (List.forall_mem_cons.1 h).2
        rw [if_neg hns, if_neg hall]
        rfl
    · have hall : ¬ ∀ k ∈ n :: ns, k / 8 < bytes.size := fun h => hn (List.forall_mem_cons.1 h).1
      rw [bit?_eq_none hn, if_neg hall]
      rfl

/-! ## Frames that are long enough -/

theorem covers_iff_forall : g.Covers bytes ↔
    ∀ n ∈ List.range (g.width * g.height), n / 8 < bytes.size := by
  rw [Covers]
  constructor
  · intro h n hn
    have hlt := List.mem_range.1 hn
    omega
  · intro h
    rcases Nat.eq_zero_or_pos (g.width * g.height) with hzero | hpos
    · omega
    · have hlast := h (g.width * g.height - 1) (List.mem_range.2 (by omega))
      omega

theorem covers_iff_le_size : g.Covers bytes ↔ (g.width * g.height + 7) / 8 ≤ bytes.size := by
  rw [Covers]
  omega

/-- The points are those of the set bits, read one after the other, and a frame is refused exactly
if that comes to a byte that is not there. -/
theorem litPoints_eq (g : Geometry) (bytes : Array UInt8) :
    g.litPoints bytes =
      (setBits? bytes (List.range (g.width * g.height))).map (·.map g.point) := by
  rw [litPoints, setBits?_eq]
  by_cases h : g.Covers bytes
  · rw [if_pos h, if_pos (covers_iff_forall.1 h)]
    rfl
  · rw [if_neg h, if_neg (mt covers_iff_forall.2 h)]
    rfl

/-! ## Numbers and coordinates -/

/-- The numbers of the pixels that are lit. -/
def litNumbers (g : Geometry) (bytes : Array UInt8) : List Nat :=
  (List.range (g.width * g.height)).filter (bit bytes)

theorem mem_litNumbers (h : g.Covers bytes) {n : Nat} :
    n ∈ g.litNumbers bytes ↔ n < g.width * g.height ∧ IsSet bytes n := by
  rw [litNumbers, List.mem_filter, List.mem_range]
  refine and_congr_right fun hn => bit_eq_true_iff ?_
  exact covers_iff_forall.1 h n (List.mem_range.2 hn)

theorem litCoordinates_eq (h : g.Covers bytes) :
    g.litCoordinates bytes =
      some ((g.litNumbers bytes).map fun n => (g.point n).coordinates) := by
  rw [litCoordinates, litPoints, if_pos h, Option.map_some, List.map_map]
  rfl

theorem coordinates_point (g : Geometry) (n : Nat) :
    (g.point n).coordinates = (((n % g.width : Nat) : Int), -((n / g.width : Nat) : Int)) := rfl

/-- The number of the pixel with some coordinates. -/
def number (g : Geometry) (p : Int × Int) : Int := -p.2 * g.width + p.1

/-- The number of a pixel can be had back from its coordinates. -/
theorem number_coordinates (g : Geometry) (n : Nat) : g.number (g.point n).coordinates = n := by
  have h := Nat.div_add_mod' n g.width
  show -(-((n / g.width : Nat) : Int)) * g.width + ((n % g.width : Nat) : Int) = n
  rw [Int.neg_neg]
  exact_mod_cast h

theorem coordinates_injective (g : Geometry) :
    Function.Injective fun n => (g.point n).coordinates := by
  intro n k h
  have hpoint : (g.point n).coordinates = (g.point k).coordinates := h
  have hn := g.number_coordinates n
  rw [hpoint, number_coordinates] at hn
  exact (Int.ofNat.inj hn).symm

theorem column_of_number {x : Nat} (hx : x < g.width) (y : Nat) :
    (y * g.width + x) % g.width = x := by
  rw [Nat.add_comm, Nat.add_mul_mod_self_right, Nat.mod_eq_of_lt hx]

theorem row_of_number {x : Nat} (hx : x < g.width) (y : Nat) :
    (y * g.width + x) / g.width = y := by
  rw [Nat.add_comm, Nat.add_mul_div_right _ _ (by omega), Nat.div_eq_of_lt hx, Nat.zero_add]

theorem number_lt {x y : Nat} (hx : x < g.width) (hy : y < g.height) :
    y * g.width + x < g.width * g.height := by
  calc y * g.width + x < y * g.width + g.width := Nat.add_lt_add_left hx _
    _ = (y + 1) * g.width := (Nat.succ_mul y g.width).symm
    _ ≤ g.height * g.width := Nat.mul_le_mul_right _ hy
    _ = g.width * g.height := Nat.mul_comm _ _

/-- A point belongs to a lit pixel exactly if its abscissa is a column, its ordinate the opposite
of a row, and the bit of that column and row is set. -/
theorem mem_coordinates_iff (h : g.Covers bytes) {x y : Int} :
    (x, y) ∈ (g.litNumbers bytes).map (fun n => (g.point n).coordinates) ↔
      ∃ c < g.width, ∃ r < g.height, x = c ∧ y = -r ∧ IsSet bytes (r * g.width + c) := by
  rw [List.mem_map]
  constructor
  · rintro ⟨n, hn, hxy⟩
    obtain ⟨hlt, hset⟩ := (mem_litNumbers h).1 hn
    have hwidth : 0 < g.width := Nat.pos_of_mul_pos_right (Nat.zero_lt_of_lt hlt)
    rw [coordinates_point, Prod.mk.injEq] at hxy
    refine ⟨n % g.width, Nat.mod_lt n hwidth, n / g.width, Nat.div_lt_of_lt_mul hlt, hxy.1.symm,
      hxy.2.symm, ?_⟩
    rwa [Nat.div_add_mod']
  · rintro ⟨c, hc, r, hr, rfl, rfl, hset⟩
    refine ⟨r * g.width + c, (mem_litNumbers h).2 ⟨number_lt hc hr, hset⟩, ?_⟩
    rw [coordinates_point, column_of_number hc, row_of_number hc]

theorem pairwise_coordinates (g : Geometry) (bytes : Array UInt8) :
    ((g.litNumbers bytes).map fun n => (g.point n).coordinates).Pairwise
      fun p q => g.number p < g.number q := by
  rw [List.pairwise_map]
  refine (List.pairwise_lt_range.filter _).imp fun {n k} hlt => ?_
  rw [number_coordinates, number_coordinates]
  exact Int.ofNat_lt.2 hlt

/-- Two frames have the same points exactly if they have the same bits where there are pixels. -/
theorem litCoordinates_eq_iff (h : g.Covers bytes) (h' : g.Covers other) :
    g.litCoordinates other = g.litCoordinates bytes ↔
      ∀ n < g.width * g.height, (IsSet other n ↔ IsSet bytes n) := by
  rw [litCoordinates_eq h, litCoordinates_eq h', Option.some.injEq,
    (List.map_injective_iff.2 g.coordinates_injective).eq_iff]
  constructor
  · intro heq n hn
    have hmem : n ∈ g.litNumbers other ↔ n ∈ g.litNumbers bytes := by rw [heq]
    rw [mem_litNumbers h, mem_litNumbers h'] at hmem
    exact ⟨fun hset => (hmem.1 ⟨hn, hset⟩).2, fun hset => (hmem.2 ⟨hn, hset⟩).2⟩
  · intro heq
    refine List.filter_congr fun n hn => ?_
    rw [Bool.eq_iff_iff, bit_eq_true_iff (covers_iff_forall.1 h n hn),
      bit_eq_true_iff (covers_iff_forall.1 h' n hn)]
    exact heq n (List.mem_range.1 hn)

/-- Coordinates of pixels lie inside the bounds. -/
theorem within_bounds {c r : Nat} (hc : c < g.width) (hr : r < g.height) :
    (g.xBounds.1.value ≤ (c : Int) ∧ (c : Int) ≤ g.xBounds.2.value) ∧
      g.yBounds.1.value ≤ -(r : Int) ∧ -(r : Int) ≤ g.yBounds.2.value := by
  show (((0 : Nat) : Int) ≤ c ∧ (c : Int) ≤ (g.width - 1 : Nat)) ∧
    -((g.height - 1 : Nat) : Int) ≤ -r ∧ -(r : Int) ≤ (0 : Nat)
  omega

/-- A frame of any width and height that is long enough is read without coming to a byte that is
not there.  Its points are those of the columns and rows whose bit is set, in the order of the
numbers of the bits; they lie inside the bounds, and two frames have the same ones exactly if they
agree on the bits that belong to pixels. -/
theorem points_of_set_bits (g : Geometry) (bytes : Array UInt8)
    (hsize : (g.width * g.height + 7) / 8 ≤ bytes.size) :
    ∃ points, g.litCoordinates bytes = some points ∧
      ((setBits? bytes (List.range (g.width * g.height))).isSome ∧ g.litPoints bytes =
        (setBits? bytes (List.range (g.width * g.height))).map (·.map g.point)) ∧
      (∀ x y : Int, (x, y) ∈ points ↔
        ∃ c < g.width, ∃ r < g.height, x = c ∧ y = -r ∧ IsSet bytes (r * g.width + c)) ∧
      points.Pairwise (fun p q => g.number p < g.number q) ∧
      (∀ x y : Int, (x, y) ∈ points → (g.xBounds.1.value ≤ x ∧ x ≤ g.xBounds.2.value) ∧
        g.yBounds.1.value ≤ y ∧ y ≤ g.yBounds.2.value) ∧
      ∀ other : Array UInt8, (g.width * g.height + 7) / 8 ≤ other.size →
        (g.litCoordinates other = g.litCoordinates bytes ↔
          ∀ n < g.width * g.height, (IsSet other n ↔ IsSet bytes n)) := by
  have hcovers : g.Covers bytes := covers_iff_le_size.2 hsize
  refine ⟨_, litCoordinates_eq hcovers, ⟨?_, litPoints_eq g bytes⟩,
    fun x y => mem_coordinates_iff hcovers, pairwise_coordinates g bytes, ?_, ?_⟩
  · rw [setBits?_eq, if_pos (covers_iff_forall.1 hcovers)]
    rfl
  · intro x y h
    obtain ⟨c, hc, r, hr, rfl, rfl, -⟩ := (mem_coordinates_iff hcovers).1 h
    exact within_bounds hc hr
  · exact fun other hother => litCoordinates_eq_iff hcovers (covers_iff_le_size.2 hother)

/-- Rows of ten pixels straddle the bytes: bit 9 is the last pixel of row 0, bit 29 that of row 2,
and bit 31 belongs to no pixel. -/
theorem points_of_set_bits_straddling :
    ∃ points, litCoordinates ⟨10, 3⟩ #[0x00, 0x40, 0x00, 0x05] = some points ∧
      (9, 0) ∈ points ∧ (9, -2) ∈ points ∧ (0, -1) ∉ points ∧
      litCoordinates ⟨10, 3⟩ #[0x00, 0x40, 0x00, 0x04, 0xFF] =
        litCoordinates ⟨10, 3⟩ #[0x00, 0x40, 0x00, 0x05] := by
  obtain ⟨points, hpoints, -, hmem, -, -, hother⟩ :=
    points_of_set_bits ⟨10, 3⟩ #[0x00, 0x40, 0x00, 0x05] (by decide)
  refine ⟨points, hpoints, ?_, ?_, ?_, ?_⟩
  · exact (hmem 9 0).2 ⟨9, by decide, 0, by decide, rfl, rfl, by decide⟩
  · exact (hmem 9 (-2)).2 ⟨9, by decide, 2, by decide, rfl, rfl, by decide⟩
  · intro h
    obtain ⟨c, -, r, -, hc, hr, hset⟩ := (hmem 0 (-1)).1 h
    obtain rfl : c = 0 := by omega
    obtain rfl : r = 1 := by omega
    revert hset
    decide
  · exact (hother #[0x00, 0x40, 0x00, 0x04, 0xFF] (by decide)).2 (by decide)

end Geometry

end Chip8
