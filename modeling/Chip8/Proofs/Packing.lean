import Mathlib.Algebra.GroupWithZero.Nat
import Mathlib.Data.List.Basic
import Chip8.Device.Recorder
import Chip8.Terminal.Geometry

/-!
# Packed frames and their readers

A frame is packed once, by `Screen.frame`, which cuts the words of the rows into bytes.  It is
read in three ways: bit by bit, by the recorder through `Frame.pixel`, and by the terminal
through `Geometry.litPoints`.  All of them find bit `64 r + c` where the packing puts pixel
`(r, c)`.

That place is worked out once, in `getMsbD_bytes_frame`.  The lit pixels are listed row by row
in `litPixels`, and as many are lit as the words of the rows have bits set (`litCount_eq_sum`).
Every pixel of the screen can be read off its frame, so the frame determines the screen
(`screen_frame`).
-/

namespace Chip8

/-! ## Counting bits -/

/-- The numbers below a product, as the cells of a table row by row. -/
theorem range_mul_eq_flatMap (rows columns : Nat) :
    List.range (rows * columns) =
      (List.range rows).flatMap fun r => (List.range columns).map (r * columns + ·) := by
  induction rows with
  | zero => simp
  | succ rows ih =>
    rw [Nat.succ_mul, List.range_add, ih, List.range_succ, List.flatMap_append]
    simp

/-- Counting from the other end comes to the same. -/
theorem countP_range_sub (p : Nat → Bool) (n : Nat) :
    (List.range n).countP (fun k => p (n - 1 - k)) = (List.range n).countP p := by
  have hreverse : (List.range n).reverse = (List.range n).map (n - 1 - ·) := by
    rw [List.range_eq_range', List.reverse_range', List.range_eq_range']
    simp
  rw [← List.countP_reverse (l := List.range n) (p := p), hreverse, List.countP_map]
  rfl

theorem cpopNatRec_eq_countP {w : Nat} (x : BitVec w) (n : Nat) :
    x.cpopNatRec n 0 = (List.range n).countP x.getLsbD := by
  induction n with
  | zero => rfl
  | succ n ih =>
    rw [BitVec.cpopNatRec_succ, BitVec.cpopNatRec_eq, ih, List.range_succ, List.countP_append,
      List.countP_singleton]
    cases x.getLsbD n <;> rfl

/-- The number of bits set in a word, counted from its most significant bit. -/
theorem toNat_cpop_eq_countP {w : Nat} (x : BitVec w) :
    x.cpop.toNat = (List.range w).countP x.getMsbD := by
  rw [BitVec.toNat_cpop, cpopNatRec_eq_countP, ← countP_range_sub]
  refine List.countP_congr fun k hk => ?_
  rw [BitVec.getMsbD_eq_getLsbD, decide_eq_true (List.mem_range.1 hk), Bool.true_and]

/-! ## The pixels of a screen -/

namespace Screen

theorem pixel_eq_getMsbD (s : Screen) (r : Nat) {c : Nat} (hc : c < 64) :
    s.pixel r c = (s.row r).getMsbD c := by
  rw [pixel, Nat.mod_eq_of_lt hc]

/-- Screens with the same pixels are equal. -/
theorem ext_pixel {s t : Screen} (h : ∀ r < 32, ∀ c < 64, s.pixel r c = t.pixel r c) : s = t := by
  have hrows : s.rows = t.rows := Table.ext fun k => by
    have hk : rowIndex k = k := Fin.ext (Nat.mod_eq_of_lt k.isLt)
    refine BitVec.eq_of_getMsbD_eq fun c hc => ?_
    have hpixel := h k k.isLt c hc
    rwa [pixel_eq_getMsbD _ _ hc, pixel_eq_getMsbD _ _ hc, row, row, hk] at hpixel
  cases s
  cases t
  exact congrArg mk hrows

/-- The lit pixels with their rows and columns, row by row from the top and each row from the
left. -/
def litPixels (s : Screen) : List (Nat × Nat) :=
  (List.range height).flatMap fun r => ((List.range width).filter (s.pixel r)).map (Prod.mk r)

/-- Numbered row by row, the pixels have their number's quotient as row and its remainder as
column. -/
theorem litPixels_eq_map (s : Screen) :
    s.litPixels = ((List.range (width * height)).filter fun n => s.pixel (n / width) (n % width)).map
      fun n => (n / width, n % width) := by
  have hcell (r : Nat) {c : Nat} (hc : c ∈ List.range width) :
      (r * width + c) / width = r ∧ (r * width + c) % width = c := by
    have hlt : c < 64 := List.mem_range.1 hc
    show (r * 64 + c) / 64 = r ∧ (r * 64 + c) % 64 = c
    omega
  rw [Nat.mul_comm, range_mul_eq_flatMap, List.filter_flatMap, List.map_flatMap, litPixels]
  refine List.flatMap_congr fun r _ => ?_
  rw [List.filter_map, List.map_map]
  have hfilter : (List.range width).filter (s.pixel r) = (List.range width).filter
      ((fun n => s.pixel (n / width) (n % width)) ∘ (r * width + ·)) :=
    List.filter_congr fun c hc => by rw [Function.comp, (hcell r hc).1, (hcell r hc).2]
  rw [← hfilter]
  refine List.map_congr_left fun c hc => ?_
  have hmem := (List.mem_filter.1 hc).1
  rw [Function.comp, (hcell r hmem).1, (hcell r hmem).2]

theorem length_litPixels (s : Screen) : s.litPixels.length = s.litCount := by
  rw [litPixels_eq_map, List.length_map, litCount, List.countP_eq_length_filter]

/-- As many pixels are lit as the words of the rows have bits set. -/
theorem litCount_eq_sum (s : Screen) :
    s.litCount = ((List.range height).map fun r => (s.row r).cpop.toNat).sum := by
  have hrow (r : Nat) :
      (((List.range width).filter (s.pixel r)).map (Prod.mk r)).length = (s.row r).cpop.toNat := by
    rw [List.length_map, ← List.countP_eq_length_filter, toNat_cpop_eq_countP]
    exact List.countP_congr fun c hc => by rw [pixel_eq_getMsbD _ _ (List.mem_range.1 hc)]
  rw [← length_litPixels, litPixels, List.length_flatMap]
  simp only [hrow]

/-! ## Reading a frame -/

/-- Bit `n` of the frame, most significant bits first, is pixel number `n`. -/
theorem getMsbD_bytes_frame (s : Screen) {n : Nat} (hn : n < 2048) :
    (s.frame.bytes[n / 8]).toBitVec.getMsbD (n % 8) = s.pixel (n / 64) (n % 64) := by
  have hrow : n / 8 / 8 = n / 64 := by omega
  have hbit : 64 - (56 - 8 * (n / 8 % 8) + 8 - n % 8) = n % 64 := by omega
  have hlt : n % 8 < 8 := by omega
  have hinside : 56 - 8 * (n / 8 % 8) + 8 - n % 8 ≤ 64 := by omega
  rw [pixel_eq_getMsbD _ _ (by omega)]
  simp only [frame, Vector.getElem_ofFn, UInt8.toBitVec_ofBitVec, BitVec.getMsbD_extractLsb',
    hlt, hinside, decide_true, Bool.true_and, hrow, hbit]

theorem testBit_bytes_frame (s : Screen) {n : Nat} (hn : n < 2048) :
    (s.frame.bytes[n / 8]).toNat.testBit (7 - n % 8) = s.pixel (n / 64) (n % 64) := by
  rw [← getMsbD_bytes_frame s hn, Geometry.getMsbD_eq_testBit _ (by omega)]

theorem pixel_frame (s : Screen) {r c : Nat} (hr : r < 32) (hc : c < 64) :
    s.frame.pixel r c = s.pixel r c := by
  have hn : r * width + c < 2048 := by
    show r * 64 + c < 2048
    omega
  have hrow : (r * width + c) / 64 = r := by
    show (r * 64 + c) / 64 = r
    omega
  have hcolumn : (r * width + c) % 64 = c := by
    show (r * 64 + c) % 64 = c
    omega
  have hbyte : (r * width + c) / 8 < 256 := by omega
  rw [Frame.pixel, dif_pos hbyte, getMsbD_bytes_frame s hn, hrow, hcolumn]

/-- The recorder, shown the frame, has the pixels of the screen. -/
theorem pixel_record_frame (s : Screen) (d : Recorder) {r c : Nat} (hr : r < 32) (hc : c < 64) :
    (d.record s.frame).pixel r c = s.pixel r c := by
  rw [← pixel_frame s hr hc]
  rfl

theorem bit_frame (s : Screen) {n : Nat} (hn : n < width * height) :
    Geometry.bit s.frame.bytes.toArray n = s.pixel (n / width) (n % width) := by
  have hsmall : n < 2048 := hn
  have hbyte : n / 8 < s.frame.bytes.toArray.size := by
    rw [Vector.size_toArray]
    omega
  rw [Geometry.bit_eq_getMsbD hbyte, Vector.getElem_toArray, getMsbD_bytes_frame s hsmall]
  rfl

/-- The terminal finds the points of the lit pixels, in their order. -/
theorem litPoints_frame (s : Screen) :
    Geometry.screen.litPoints s.frame.bytes.toArray =
      some (s.litPixels.map fun (r, c) => ⟨.positive c, .opposite r⟩) := by
  have hfilter : (List.range (width * height)).filter (Geometry.bit s.frame.bytes.toArray) =
      (List.range (width * height)).filter fun n => s.pixel (n / width) (n % width) :=
    List.filter_congr fun n hn => bit_frame s (List.mem_range.1 hn)
  rw [Geometry.litPoints, if_pos (Geometry.covers_bytes _), litPixels_eq_map, List.map_map,
    ← hfilter]
  rfl

end Screen

/-- The screen that a frame is a picture of. -/
def Frame.screen (f : Frame) : Screen :=
  ⟨.ofFn fun r => (BitVec.ofBoolListBE ((List.range 64).map (f.pixel r))).cast (by simp)⟩

theorem Frame.pixel_screen (f : Frame) {r c : Nat} (hr : r < 32) (hc : c < 64) :
    f.screen.pixel r c = f.pixel r c := by
  have hindex : (Screen.rowIndex r : Nat) = r := Nat.mod_eq_of_lt hr
  rw [Screen.pixel_eq_getMsbD _ _ hc, Screen.row, Frame.screen, Table.get_ofFn,
    BitVec.getMsbD_cast, BitVec.getMsbD_ofBoolListBE, hindex]
  simp [hc]

namespace Screen

/-- A screen can be had back from its frame. -/
theorem screen_frame (s : Screen) : s.frame.screen = s :=
  ext_pixel fun r hr c hc => by rw [Frame.pixel_screen _ hr hc, pixel_frame s hr hc]

theorem bytes_frame_injective : Function.Injective fun s : Screen => s.frame.bytes := by
  intro s t h
  have hframe : s.frame = t.frame := congrArg Frame.mk h
  rw [← screen_frame s, hframe, screen_frame t]

/-- A packed frame and its readers agree on every picture: its bits are the pixels, the recorder
that is shown it has the pixels of the screen, the terminal finds the points of the lit pixels
row by row, as many as are lit, and the screen can be had back from the bytes. -/
theorem packing_agrees (s : Screen) :
    (∀ n (_ : n < 2048),
      (s.frame.bytes[n / 8]).toNat.testBit (7 - n % 8) = s.pixel (n / 64) (n % 64)) ∧
    (∀ d : Recorder, (Display.draw d s.frame).1 = .ok () ∧ ∀ r < 32, ∀ c < 64,
      (Display.draw d s.frame).2.pixel r c = s.pixel r c) ∧
    (Geometry.screen.litPoints s.frame.bytes.toArray =
        some (s.litPixels.map fun (r, c) => ⟨.positive c, .opposite r⟩) ∧
      s.litPixels.length = s.litCount ∧
      s.litCount = ((List.range height).map fun r => (s.row r).cpop.toNat).sum) ∧
    (Function.Injective fun s : Screen => s.frame.bytes) ∧
    s.frame.screen = s :=
  ⟨fun _ hn => testBit_bytes_frame s hn,
    fun d => ⟨rfl, fun _ hr _ hc => pixel_record_frame s d hr hc⟩,
    ⟨litPoints_frame s, length_litPixels s, litCount_eq_sum s⟩,
    bytes_frame_injective, screen_frame s⟩

/-- A sprite in the bottom right corner that overhangs on the right. -/
theorem packing_agrees_corner :
    let s := (blank.draw 31 62 [0xB0]).2
    Geometry.screen.litPoints s.frame.bytes.toArray =
        some [⟨.positive 0, .opposite 31⟩, ⟨.positive 1, .opposite 31⟩,
          ⟨.positive 62, .opposite 31⟩] ∧
      s.litCount = 3 ∧ (s.frame.bytes[255]).toNat.testBit 1 = true := by
  intro s
  obtain ⟨hbits, -, ⟨hpoints, hlength, -⟩, -⟩ := packing_agrees s
  have hlit : s.litPixels = [(31, 0), (31, 1), (31, 62)] := by decide +kernel
  have hcorner : s.pixel 31 62 = true := by decide +kernel
  refine ⟨?_, ?_, ?_⟩
  · rw [hpoints, hlit]
    rfl
  · rw [← hlength, hlit]
    rfl
  · exact (hbits 2046 (by decide)).trans hcorner

end Screen

end Chip8
