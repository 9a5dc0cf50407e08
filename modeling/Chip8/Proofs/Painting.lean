import Mathlib.Data.List.Find
import Chip8.Terminal
import Chip8.Proofs.Packing
import Chip8.Proofs.Unpacking

/-!
# What a terminal shows of a frame

A frame is drawn as a border with a title and, inside it, a block for each lit pixel, and what a
terminal makes of that is up to the terminal.  It paints in place if every stroke inside the border
is seen at its own row and column and nowhere else, and no other stroke is seen inside
(`Terminal.PaintsInPlace`).  All terminals whose cells can be numbered do so
(`paintsInPlace_of_count_le`), and so do larger ones with a surface on which the area lies, at most
the border on the right apart (`paintsInPlace_of_fits`).

On such a terminal a cell is a block exactly if a lit pixel is scaled to it (`hasBlock_draw_iff`),
since blocks are painted last.  Scaling down leaves no cell out (`exists_scaled`), and from 66
columns and 34 rows on it is the identity.
-/

namespace Chip8

/-- The cell at a row and column. -/
def cellAt? (rows : List (List Cell)) (row col : Nat) : Option Cell := rows[row]?.bind (·[col]?)

/-- The cell that strokes leave at a row and column: that of the last stroke there, or a blank. -/
def Stroke.left (ts : List Stroke) (row col : Nat) : Cell :=
  ((ts.reverse.find? fun t => t.row = row ∧ t.col = col).map cell).getD .blank

namespace TerminalSize

/-- Whether a cell is inside the border. -/
def Inside (s : TerminalSize) (row col : Nat) : Prop :=
  (1 ≤ row ∧ row ≤ s.area.rows - 2) ∧ 1 ≤ col ∧ col ≤ s.area.cols - 2

/-- What is seen at a row and column after strokes on a blank terminal. -/
def seen? (s : TerminalSize) (ts : List Stroke) (row col : Nat) : Option Cell :=
  cellAt? (Picture.onTerminal s (Stroke.paint s.surface ts)) row col

end TerminalSize

/-- A drawing is seen, and what is painted inside the border is seen in its place: later strokes
over earlier ones, nothing from elsewhere among it, and nothing of it elsewhere. -/
structure Terminal.PaintsInPlace (t : Terminal) : Prop where
  /-- No cell that was wiped is left out by the next drawing. -/
  fresh : t.wiped = [] ∨ ∀ p ∈ t.painted, p.size.surface ≠ t.size.surface
  /-- The last cell of the area has a number on the surface. -/
  fits : t.size.surface.number (t.size.area.rows - 1) (t.size.area.cols - 1) < t.size.surface.count
  inside : ∀ ts : List Stroke,
    (∀ s ∈ ts, s.row < t.size.area.rows ∧ s.col < t.size.area.cols) →
    ∀ row col, t.size.Inside row col → t.size.seen? ts row col = some (Stroke.left ts row col)
  outside : ∀ ts : List Stroke,
    (∀ s ∈ ts, s.row < t.size.area.rows ∧ s.col < t.size.area.cols) →
    ∀ row col cell, ¬ t.size.Inside row col → t.size.seen? ts row col = some cell →
      cell = .blank ∨ ∃ s ∈ ts, ¬ t.size.Inside s.row s.col ∧ s.cell = cell

/-- Whether a block is shown at a row and column. -/
def Terminal.HasBlock (t : Terminal) (row col : Nat) : Prop :=
  cellAt? t.picture row col = some .lit

/-! ## Where strokes are seen -/

namespace TerminalSize

variable {s : TerminalSize} {row col row' col' : Nat}

theorem number_lt_count (hrow : row < s.rows) (hcol : col < s.cols) :
    s.number row col < s.count :=
  Geometry.number_lt (g := ⟨s.cols, s.rows⟩) hcol hrow

theorem number_eq_iff (hcol : col < s.cols) (hcol' : col' < s.cols) :
    s.number row col = s.number row' col' ↔ row = row' ∧ col = col' := by
  constructor
  · intro h
    have hrows := congrArg (· / s.cols) h
    have hcols := congrArg (· % s.cols) h
    have hdiv {c : Nat} (hc : c < s.cols) (r : Nat) : s.number r c / s.cols = r :=
      Geometry.row_of_number (g := ⟨s.cols, s.rows⟩) hc r
    have hmod {c : Nat} (hc : c < s.cols) (r : Nat) : s.number r c % s.cols = c :=
      Geometry.column_of_number (g := ⟨s.cols, s.rows⟩) hc r
    simp only [hdiv hcol, hdiv hcol'] at hrows
    simp only [hmod hcol, hmod hcol'] at hcols
    exact ⟨hrows, hcols⟩
  · rintro ⟨rfl, rfl⟩
    rfl

/-- What overhangs by one column lands in column 0, so no other cell has its number twice. -/
theorem number_eq_iff_of_le (hcol : col ≤ s.cols) (hpos : 1 ≤ col') (hcol' : col' < s.cols) :
    s.number row col = s.number row' col' ↔ row = row' ∧ col = col' := by
  rcases Nat.lt_or_eq_of_le hcol with hlt | rfl
  · exact number_eq_iff hlt hcol'
  · have hnext : s.number row s.cols = s.number (row + 1) 0 := by
      rw [number, number, Nat.succ_mul]
      rfl
    rw [hnext, number_eq_iff (by omega) hcol']
    omega

theorem area_le (s : TerminalSize) : s.area.rows ≤ s.rows ∧ s.area.cols ≤ s.cols :=
  ⟨Nat.min_le_right _ _, Nat.min_le_right _ _⟩

/-- If the last cell of the area has a number, the surface is as high as the area. -/
theorem area_rows_le (s : TerminalSize)
    (h : s.surface.number (s.area.rows - 1) (s.area.cols - 1) < s.surface.count) :
    s.area.rows ≤ s.surface.rows := by
  have hlt : (s.area.rows - 1) * s.surface.cols < s.surface.rows * s.surface.cols :=
    (Nat.le_add_right _ _).trans_lt (h.trans_eq (Nat.mul_comm _ _))
  have := Nat.lt_of_mul_lt_mul_right hlt
  omega

end TerminalSize

theorem cellAt?_onTerminal {size : TerminalSize} {row col : Nat} (cells : Array Cell)
    (hrow : row < size.rows) (hcol : col < size.cols) :
    cellAt? (Picture.onTerminal size cells) row col =
      some (if row < size.surface.rows ∧ col < size.surface.cols then
        cells.getD (size.surface.number row col) .blank else .blank) := by
  simp [cellAt?, Picture.onTerminal, hrow, hcol]

theorem lt_of_cellAt?_onTerminal {size : TerminalSize} {row col : Nat} {cells : Array Cell}
    {cell : Cell} (h : cellAt? (Picture.onTerminal size cells) row col = some cell) :
    row < size.rows ∧ col < size.cols := by
  by_cases hrow : row < size.rows
  · refine ⟨hrow, ?_⟩
    by_contra hcol
    simp [cellAt?, Picture.onTerminal, hrow, hcol] at h
  · simp [cellAt?, Picture.onTerminal, hrow] at h

/-- A cell of the surface is as the last stroke with its number has left it. -/
theorem getD_paint {s : TerminalSize} {row col : Nat} (ts : List Stroke) (hrow : row < s.rows)
    (hcol : col < s.cols) :
    (Stroke.paint s ts).getD (s.number row col) .blank =
      ((ts.reverse.find? fun t => s.number t.row t.col = s.number row col).map Stroke.cell).getD
        .blank := by
  have hn := TerminalSize.number_lt_count hrow hcol
  have hblank : (Array.replicate s.count Cell.blank)[s.number row col]? = some .blank := by
    simp [hn]
  have hfind : (ts.reverse.find? fun t => s.number t.row t.col == s.number row col) =
      ts.reverse.find? fun t => s.number t.row t.col = s.number row col :=
    List.find?_congr fun t _ => by rw [Bool.eq_iff_iff, beq_iff_eq, decide_eq_true_iff]
  rw [Array.getD_eq_getD_getElem?, Stroke.paint,
    Stroke.getElem?_foldl_apply _ _ _ _ (by simpa using hn), hblank, hfind]
  cases ts.reverse.find? fun t => s.number t.row t.col = s.number row col with
  | none => rfl
  | some t => rfl

namespace Terminal

variable {t : Terminal} {f : Frame} {row col : Nat}

/-- A terminal paints in place if the area lies on its surface, or all of it but the border on the
right. -/
theorem paintsInPlace_of_fits
    (hfresh : t.wiped = [] ∨ ∀ p ∈ t.painted, p.size.surface ≠ t.size.surface)
    (hfits : t.size.surface.number (t.size.area.rows - 1) (t.size.area.cols - 1) <
      t.size.surface.count)
    (hcols : t.size.area.cols ≤ t.size.surface.cols + 1) : t.PaintsInPlace where
  fresh := hfresh
  fits := hfits
  inside ts hts row col hin := by
    obtain ⟨⟨hrow, hbottom⟩, hcol, hright⟩ := hin
    have hrows := t.size.area_rows_le hfits
    have hsize := t.size.area_le
    rw [TerminalSize.seen?, cellAt?_onTerminal _ (by omega) (by omega),
      if_pos ⟨by omega, by omega⟩, getD_paint ts (by omega) (by omega), Stroke.left]
    congr 3
    refine List.find?_congr fun s hs => ?_
    have hlt := hts s (List.mem_reverse.1 hs)
    exact decide_eq_decide.2 (TerminalSize.number_eq_iff_of_le (by omega) hcol (by omega))
  outside ts hts row col cell hout hseen := by
    obtain ⟨hrow, hcol⟩ := lt_of_cellAt?_onTerminal hseen
    rw [TerminalSize.seen?, cellAt?_onTerminal _ hrow hcol] at hseen
    have hcell := Option.some.inj hseen
    split at hcell
    case isFalse => exact .inl hcell.symm
    case isTrue hsurface =>
      rw [getD_paint ts hsurface.1 hsurface.2] at hcell
      cases hfind : ts.reverse.find? fun s =>
          t.size.surface.number s.row s.col = t.size.surface.number row col with
      | none =>
        rw [hfind] at hcell
        exact .inl hcell.symm
      | some s =>
        rw [hfind] at hcell
        refine .inr ⟨s, List.mem_reverse.1 (List.mem_of_find?_eq_some hfind), fun hin => ?_, hcell⟩
        have hnumber : t.size.surface.number s.row s.col = t.size.surface.number row col := by
          simpa using List.find?_some hfind
        obtain ⟨rfl, rfl⟩ := (TerminalSize.number_eq_iff_of_le hsurface.2.le hin.2.1
          (by have := hin.2; omega)).1 hnumber.symm
        exact hout hin

-- Only 65 of the 66 columns are surface here.
example : ({ size := ⟨66, 1000⟩ } : Terminal).PaintsInPlace :=
  paintsInPlace_of_fits (.inl rfl) (by decide +kernel) (by decide +kernel)

/-- A terminal whose cells can all be numbered paints in place. -/
theorem paintsInPlace_of_count_le (hcols : 1 ≤ t.size.cols) (hrows : 1 ≤ t.size.rows)
    (hwiped : t.wiped = []) (h : t.size.count ≤ TerminalSize.maxCells) : t.PaintsInPlace := by
  have hsize := t.size.area_le
  refine paintsInPlace_of_fits (.inl hwiped) ?_ ?_ <;> rw [TerminalSize.surface_of_le h]
  · exact TerminalSize.number_lt_count (by omega) (by omega)
  · omega

/-- No picture is too large for the surface. -/
theorem overrun_draw (h : t.PaintsInPlace) (f : Frame) : (t.draw f).overrun = t.overrun := by
  have hfits : (⟨t.size, f⟩ : Picture).Fits := h.fits
  rw [draw, decide_eq_true hfits, Bool.not_true, Bool.or_false]

/-- After a drawing that leaves no wiped cell out, the picture is seen. -/
theorem picture_draw (h : t.PaintsInPlace) (f : Frame) :
    (t.draw f).picture = Picture.onTerminal t.size (Picture.cells ⟨t.size, f⟩) := by
  have hstill : t.stillWiped ⟨t.size, f⟩ = [] := by
    rw [stillWiped]
    cases hp : t.painted with
    | none => rfl
    | some old => exact if_pos (h.fresh.imp_right fun hne => hne old hp)
  have hcells : (t.draw f).cells = Picture.cells ⟨t.size, f⟩ := by
    show (if t.size.surface = t.size.surface then
      (t.stillWiped ⟨t.size, f⟩).foldl _ _ else _) = _
    rw [if_pos rfl, hstill]
    rfl
  rw [picture, hcells]
  rfl

end Terminal

/-! ## The pixels of a frame -/

namespace Frame

variable {f f' : Frame} {r c : Nat}

theorem pixel_eq_bit (f : Frame) (hr : r < 32) (hc : c < 64) :
    f.pixel r c = Geometry.bit f.bytes.toArray (r * 64 + c) := by
  have hn : (r * 64 + c) / 8 < 256 := by omega
  have hbyte : (r * 64 + c) / 8 < f.bytes.toArray.size := by
    rw [Vector.size_toArray]
    exact hn
  rw [Geometry.bit_eq_getMsbD hbyte, Vector.getElem_toArray]
  exact dif_pos hn

/-- Frames with the same pixels are equal. -/
theorem ext_pixel (h : ∀ r < 32, ∀ c < 64, f.pixel r c = f'.pixel r c) : f = f' := by
  have hbytes : f.bytes = f'.bytes := by
    refine Vector.ext fun i hi => UInt8.toBitVec_inj.1 (BitVec.eq_of_getMsbD_eq fun k hk => ?_)
    -- bit `k` of byte `i` is bit `8 i + k` of the frame
    have hpixel := h (i / 8) (by omega) (8 * (i % 8) + k) (by omega)
    have hn : (i / 8 * Screen.width + (8 * (i % 8) + k)) / 8 = i := by
      show (i / 8 * 64 + (8 * (i % 8) + k)) / 8 = i
      omega
    have hbit : (i / 8 * Screen.width + (8 * (i % 8) + k)) % 8 = k := by
      show (i / 8 * 64 + (8 * (i % 8) + k)) % 8 = k
      omega
    simpa only [pixel, hn, hbit, hi, dite_true] using hpixel
  cases f
  cases f'
  exact congrArg mk hbytes

end Frame

/-! ## Scaling -/

namespace Canvas

/-- Scaling numbers up to `high` to `count` cells is division with the remainder cut off. -/
theorem scale_eq {count : Nat} (hcount : 1 ≤ count) (high v : Nat) :
    scale count 0 high v = v * (count - 1) / high := by
  have hcast : (v : Int) * ((count : Int) - 1) / high = ((v * (count - 1) / high : Nat) : Int) := by
    push_cast [hcount]
    rfl
  rw [scale, Int.sub_zero, Int.sub_zero, hcast, Int.toNat_natCast]

theorem scaled_lt {high count v : Nat} (hcount : 1 ≤ count) (hv : v ≤ high) :
    v * (count - 1) / high < count := by
  have hle := Nat.div_le_of_le_mul (Nat.mul_le_mul_right (count - 1) hv)
  omega

/-- Scaling down leaves no cell out. -/
theorem exists_scaled {high count k : Nat} (hcount : count ≤ high + 1) (hk : k < count) :
    ∃ v ≤ high, v * (count - 1) / high = k := by
  obtain ⟨d, rfl⟩ : ∃ d, count = d + 1 := ⟨count - 1, by omega⟩
  rw [Nat.add_sub_cancel]
  rcases Nat.eq_zero_or_pos d with rfl | hd
  · obtain rfl : k = 0 := by omega
    exact ⟨0, Nat.zero_le _, by rw [Nat.zero_mul, Nat.zero_div]⟩
  · -- the first number that is scaled as far as cell `k`
    have hquotient := Nat.div_add_mod' (k * high + (d - 1)) d
    have hremainder := Nat.mod_lt (k * high + (d - 1)) hd
    have hhigh : k * high ≤ d * high := Nat.mul_le_mul_right high (by omega)
    generalize (k * high + (d - 1)) / d = v at hquotient
    generalize (k * high + (d - 1)) % d = remainder at hquotient hremainder
    refine ⟨v, ?_, Nat.div_eq_of_lt_le ?_ ?_⟩
    · have hlt : v * d < (high + 1) * d := by
        rw [Nat.succ_mul, Nat.mul_comm high]
        omega
      exact Nat.le_of_lt_succ (Nat.lt_of_mul_lt_mul_right hlt)
    · omega
    · rw [Nat.succ_mul]
      omega

end Canvas

/-! ## The blocks of a picture -/

namespace Stroke

/-- Strokes of one cell over strokes of other cells are seen wherever they were made. -/
theorem left_append_eq_iff {below above : List Stroke} {cell : Cell} {row col : Nat}
    (hblank : cell ≠ .blank) (hbelow : ∀ t ∈ below, t.cell ≠ cell)
    (habove : ∀ t ∈ above, t.cell = cell) :
    left (below ++ above) row col = cell ↔ ∃ t ∈ above, t.row = row ∧ t.col = col := by
  rw [left, List.reverse_append, List.find?_append]
  cases ha : above.reverse.find? fun t => t.row = row ∧ t.col = col with
  | some t =>
    have hmem := List.mem_reverse.1 (List.mem_of_find?_eq_some ha)
    have hplace : t.row = row ∧ t.col = col := by simpa using List.find?_some ha
    exact iff_of_true (habove t hmem) ⟨t, hmem, hplace⟩
  | none =>
    have hnone : ¬ ∃ t ∈ above, t.row = row ∧ t.col = col := by
      rintro ⟨t, ht, hplace⟩
      exact List.find?_eq_none.1 ha t (List.mem_reverse.2 ht) (decide_eq_true hplace)
    refine iff_of_false ?_ hnone
    cases hb : below.reverse.find? fun t => t.row = row ∧ t.col = col with
    | none => exact hblank.symm
    | some t => exact hbelow t (List.mem_reverse.1 (List.mem_of_find?_eq_some hb))

end Stroke

namespace Picture

variable {p : Picture} {s : Stroke} {row col : Nat}

/-- A stroke of the ground, the border or the title. -/
structure Surrounds (p : Picture) (s : Stroke) : Prop where
  row_lt : s.row < p.area.rows
  col_lt : s.col < p.area.cols
  framed : ∃ glyph, s.cell = .framed glyph

theorem surrounds_vertical (hcol : col < p.area.cols) (hs : s ∈ p.vertical col) :
    p.Surrounds s := by
  obtain ⟨row, hrow, rfl⟩ := List.mem_map.1 hs
  exact ⟨List.mem_range.1 hrow, hcol, _, rfl⟩

theorem surrounds_horizontal (hrow : row < p.area.rows) (hs : s ∈ p.horizontal row) :
    p.Surrounds s := by
  obtain ⟨col, hcol, rfl⟩ := List.mem_map.1 hs
  exact ⟨hrow, List.mem_range.1 hcol, _, rfl⟩

theorem surrounds_ground (hs : s ∈ p.ground) : p.Surrounds s := by
  obtain ⟨row, hrow, hs⟩ := List.mem_flatMap.1 hs
  obtain ⟨col, hcol, rfl⟩ := List.mem_map.1 hs
  exact ⟨List.mem_range.1 hrow, List.mem_range.1 hcol, _, rfl⟩

theorem surrounds_border (hcols : 0 < p.area.cols) (hrows : 0 < p.area.rows) (hs : s ∈ p.border) :
    p.Surrounds s := by
  have hright : p.area.cols - 1 < p.area.cols := Nat.sub_one_lt_of_lt hcols
  have hbottom : p.area.rows - 1 < p.area.rows := Nat.sub_one_lt_of_lt hrows
  simp only [border, List.mem_append, List.mem_cons, List.not_mem_nil, or_false] at hs
  rcases hs with (((hs | hs) | hs) | hs) | rfl | rfl | rfl | rfl
  · exact surrounds_vertical hcols hs
  · exact surrounds_horizontal hrows hs
  · exact surrounds_vertical hright hs
  · exact surrounds_horizontal hbottom hs
  · exact ⟨hbottom, hright, _, rfl⟩
  · exact ⟨hrows, hright, _, rfl⟩
  · exact ⟨hbottom, hcols, _, rfl⟩
  · exact ⟨hrows, hcols, _, rfl⟩

/-- The title ends before the border on the right. -/
theorem surrounds_heading (hrows : 0 < p.area.rows) (hs : s ∈ p.heading) : p.Surrounds s := by
  obtain ⟨⟨c, col⟩, hc, rfl⟩ := List.mem_map.1 hs
  obtain ⟨hge, hlt, -⟩ := List.mem_zipIdx hc
  have hroom : p.titleRoom ≤ p.area.cols - 2 := Nat.min_le_left _ _
  have htaken := List.length_take_le p.titleRoom title
  exact ⟨hrows, by show col < p.area.cols; omega, _, rfl⟩

/-- The number of pixels and the number of points are the same, so the points of the lit pixels are
those of the bits that are set. -/
theorem litCells_eq (p : Picture) : p.litCells =
    (Geometry.screen.litNumbers p.frame.bytes.toArray).map fun n =>
      (p.canvas.row (Geometry.screen.point n), p.canvas.column (Geometry.screen.point n)) := by
  rw [litCells, Geometry.litPoints, if_pos (Geometry.covers_bytes _), Option.getD_some,
    Canvas.cells, List.map_map]
  rfl

/-- The row of the canvas that a pixel is scaled to. -/
theorem row_point (hrows : 1 ≤ p.canvas.rows) (n : Nat) :
    p.canvas.row (Geometry.screen.point n) = n / 64 * (p.canvas.rows - 1) / 31 := by
  have hpoint : p.canvas.row (Geometry.screen.point n) =
      Canvas.scale p.canvas.rows (-0) (-(-(31 : Nat))) (-(-((n / 64 : Nat) : Int))) := rfl
  rw [hpoint, Int.neg_neg, Int.neg_neg, Int.neg_zero, Canvas.scale_eq hrows]

/-- The column of the canvas that a pixel is scaled to. -/
theorem column_point (hcols : 1 ≤ p.canvas.cols) (n : Nat) :
    p.canvas.column (Geometry.screen.point n) = n % 64 * (p.canvas.cols - 1) / 63 :=
  Canvas.scale_eq hcols 63 (n % 64)

/-- The blocks are those of the lit pixels, each in the cell inside the border that the pixel is
scaled to. -/
theorem exists_block_iff (hcols : 1 ≤ p.canvas.cols) (hrows : 1 ≤ p.canvas.rows) :
    (∃ s ∈ p.blocks, s.row = row ∧ s.col = col) ↔
      ∃ r < 32, ∃ c < 64, p.frame.pixel r c = true ∧
        row = r * (p.canvas.rows - 1) / 31 + 1 ∧ col = c * (p.canvas.cols - 1) / 63 + 1 := by
  rw [blocks, litCells_eq, List.map_map]
  constructor
  · rintro ⟨s, hs, rfl, rfl⟩
    obtain ⟨n, hn, rfl⟩ := List.mem_map.1 hs
    obtain ⟨hlt, hbit⟩ := List.mem_filter.1 hn
    have hn : n < 2048 := List.mem_range.1 hlt
    refine ⟨n / 64, by omega, n % 64, by omega, ?_, ?_, ?_⟩
    · rw [Frame.pixel_eq_bit _ (by omega) (by omega), Nat.div_add_mod']
      exact hbit
    · exact congrArg (· + 1) (row_point hrows n)
    · exact congrArg (· + 1) (column_point hcols n)
  · rintro ⟨r, hr, c, hc, hpixel, rfl, rfl⟩
    rw [Frame.pixel_eq_bit _ hr hc] at hpixel
    have hrow : (r * 64 + c) / 64 = r := by omega
    have hcol : (r * 64 + c) % 64 = c := by omega
    have hmem : r * 64 + c ∈ Geometry.screen.litNumbers p.frame.bytes.toArray :=
      List.mem_filter.2 ⟨List.mem_range.2 (by show _ < 2048; omega), hpixel⟩
    refine ⟨_, List.mem_map_of_mem hmem, ?_, ?_⟩
    · refine congrArg (· + 1) ((row_point hrows _).trans ?_)
      rw [hrow]
    · refine congrArg (· + 1) ((column_point hcols _).trans ?_)
      rw [hcol]

theorem surrounds_of_mem (hcols : 3 ≤ p.area.cols) (hrows : 3 ≤ p.area.rows)
    (hs : s ∈ p.ground ++ p.border ++ p.heading) : p.Surrounds s := by
  simp only [List.mem_append] at hs
  rcases hs with (hs | hs) | hs
  · exact surrounds_ground hs
  · exact surrounds_border (by omega) (by omega) hs
  · exact surrounds_heading (by omega) hs

theorem inside_of_mem_blocks (hcols : 3 ≤ p.area.cols) (hrows : 3 ≤ p.area.rows)
    (hs : s ∈ p.blocks) : p.size.Inside s.row s.col := by
  have hwidth : p.canvas.cols = p.area.cols - 2 := rfl
  have hheight : p.canvas.rows = p.area.rows - 2 := rfl
  obtain ⟨r, hr, c, hc, -, hrow, hcol⟩ :=
    (exists_block_iff (by omega) (by omega)).1 ⟨s, hs, rfl, rfl⟩
  have hlow : _ < p.canvas.rows := Canvas.scaled_lt (by omega) (Nat.le_of_lt_succ hr)
  have hnarrow : _ < p.canvas.cols := Canvas.scaled_lt (by omega) (Nat.le_of_lt_succ hc)
  rw [hrow, hcol]
  exact ⟨⟨Nat.le_add_left 1 _, hlow⟩, Nat.le_add_left 1 _, hnarrow⟩

/-- Every stroke of a picture is made in its area. -/
theorem mem_area_of_mem_strokes (hcols : 3 ≤ p.area.cols) (hrows : 3 ≤ p.area.rows)
    (hs : s ∈ p.strokes) : s.row < p.size.area.rows ∧ s.col < p.size.area.cols := by
  rcases List.mem_append.1 hs with hs | hs
  · have hsurrounds := surrounds_of_mem hcols hrows hs
    exact ⟨hsurrounds.row_lt, hsurrounds.col_lt⟩
  · obtain ⟨⟨-, hrow⟩, -, hcol⟩ := inside_of_mem_blocks hcols hrows hs
    change 3 ≤ p.size.area.cols at hcols
    change 3 ≤ p.size.area.rows at hrows
    omega

/-- Every block of a picture is made inside the border. -/
theorem inside_of_lit (hcols : 3 ≤ p.area.cols) (hrows : 3 ≤ p.area.rows)
    (hs : s ∈ p.strokes) (hlit : s.cell = .lit) : p.size.Inside s.row s.col := by
  rcases List.mem_append.1 hs with hs | hs
  · obtain ⟨glyph, hframed⟩ := (surrounds_of_mem hcols hrows hs).framed
    cases hlit.symm.trans hframed
  · exact inside_of_mem_blocks hcols hrows hs

/-- A place is left with a block exactly if a lit pixel is scaled to it. -/
theorem left_strokes_eq_lit_iff (hcols : 3 ≤ p.area.cols) (hrows : 3 ≤ p.area.rows) :
    Stroke.left p.strokes row col = .lit ↔
      ∃ r < 32, ∃ c < 64, p.frame.pixel r c = true ∧
        row = r * (p.canvas.rows - 1) / 31 + 1 ∧ col = c * (p.canvas.cols - 1) / 63 + 1 := by
  have hwidth : p.canvas.cols = p.area.cols - 2 := rfl
  have hheight : p.canvas.rows = p.area.rows - 2 := rfl
  rw [← exists_block_iff (by omega) (by omega), strokes]
  refine Stroke.left_append_eq_iff (by decide) (fun t ht hlit => ?_) fun t ht => ?_
  · obtain ⟨glyph, hframed⟩ := (surrounds_of_mem hcols hrows ht).framed
    cases hlit.symm.trans hframed
  · obtain ⟨place, -, rfl⟩ := List.mem_map.1 ht
    rfl

end Picture

namespace Terminal

variable {t : Terminal} {row col : Nat}

/-- What a frame looks like on a terminal that paints in place. -/
theorem hasBlock_draw_iff (hcols : 3 ≤ t.size.cols) (hrows : 3 ≤ t.size.rows)
    (h : t.PaintsInPlace) (f : Frame) :
    (t.draw f).HasBlock row col ↔ ∃ r < 32, ∃ c < 64, f.pixel r c = true ∧
      row = r * (min 34 t.size.rows - 2 - 1) / 31 + 1 ∧
      col = c * (min 66 t.size.cols - 2 - 1) / 63 + 1 := by
  let p : Picture := ⟨t.size, f⟩
  have hwide : 3 ≤ p.area.cols := Nat.le_min.2 ⟨by decide, hcols⟩
  have hhigh : 3 ≤ p.area.rows := Nat.le_min.2 ⟨by decide, hrows⟩
  have harea (s : Stroke) (hs : s ∈ p.strokes) :=
    Picture.mem_area_of_mem_strokes hwide hhigh hs
  have hleft : Stroke.left p.strokes row col = .lit ↔ _ :=
    Picture.left_strokes_eq_lit_iff hwide hhigh
  rw [HasBlock, picture_draw h]
  constructor
  · intro hlit
    by_cases hin : t.size.Inside row col
    · have hseen := (h.inside _ harea row col hin).symm.trans hlit
      exact hleft.1 (Option.some.inj hseen)
    · rcases h.outside _ harea row col _ hin hlit with hblank | ⟨s, hs, hout, hcell⟩
      · cases hblank
      · exact absurd (Picture.inside_of_lit hwide hhigh hs hcell) hout
  · rintro ⟨r, hr, c, hc, hpixel, rfl, rfl⟩
    have hlow : _ < p.canvas.rows :=
      Canvas.scaled_lt (Nat.le_sub_of_add_le hhigh) (Nat.le_of_lt_succ hr)
    have hnarrow : _ < p.canvas.cols :=
      Canvas.scaled_lt (Nat.le_sub_of_add_le hwide) (Nat.le_of_lt_succ hc)
    have hseen := h.inside _ harea _ _
      ⟨⟨Nat.le_add_left 1 _, hlow⟩, Nat.le_add_left 1 _, hnarrow⟩
    exact hseen.trans (congrArg some (hleft.2 ⟨r, hr, c, hc, hpixel, rfl, rfl⟩))

/-- To every cell inside the border some pixel is scaled. -/
theorem exists_pixel {w h : Nat} (hw : w ≤ 64) (hh : h ≤ 32) (hrow : 1 ≤ row ∧ row ≤ h)
    (hcol : 1 ≤ col ∧ col ≤ w) :
    ∃ r < 32, ∃ c < 64, row = r * (h - 1) / 31 + 1 ∧ col = c * (w - 1) / 63 + 1 := by
  have habove : row - 1 < h := by omega
  have hleft : col - 1 < w := by omega
  obtain ⟨r, hr, hscaled⟩ := Canvas.exists_scaled hh habove
  obtain ⟨c, hc, hscaled'⟩ := Canvas.exists_scaled hw hleft
  exact ⟨r, Nat.lt_succ_of_le hr, c, Nat.lt_succ_of_le hc, by omega, by omega⟩

section Roomy

variable (hcols : 66 ≤ t.size.cols) (hrows : 34 ≤ t.size.rows)
include hcols hrows

theorem pixel_in_place (r c : Nat) :
    r * (min 34 t.size.rows - 2 - 1) / 31 + 1 = 1 + r ∧
      c * (min 66 t.size.cols - 2 - 1) / 63 + 1 = 1 + c := by
  rw [Nat.min_eq_left hcols, Nat.min_eq_left hrows]
  omega

/-- With room for all pixels a cell is a block exactly if its pixel is lit. -/
theorem hasBlock_draw_iff_pixel (h : t.PaintsInPlace) (f : Frame) {r c : Nat} (hr : r < 32)
    (hc : c < 64) : (t.draw f).HasBlock (1 + r) (1 + c) ↔ f.pixel r c = true := by
  rw [hasBlock_draw_iff (by omega) (by omega) h]
  constructor
  · rintro ⟨r', -, c', -, hlit, hrow, hcol⟩
    have hplace := pixel_in_place hcols hrows r' c'
    obtain rfl : r = r' := by omega
    obtain rfl : c = c' := by omega
    exact hlit
  · intro hlit
    have hplace := pixel_in_place hcols hrows r c
    exact ⟨r, hr, c, hc, hlit, hplace.1.symm, hplace.2.symm⟩

/-- With room for all pixels different frames look different. -/
theorem injective_picture_draw (h : t.PaintsInPlace) :
    Function.Injective fun f => (t.draw f).picture := by
  intro f f' heq
  have hpicture : (t.draw f).picture = (t.draw f').picture := heq
  refine Frame.ext_pixel fun r hr c hc => ?_
  rw [Bool.eq_iff_iff, ← hasBlock_draw_iff_pixel hcols hrows h f hr hc,
    ← hasBlock_draw_iff_pixel hcols hrows h f' hr hc, HasBlock, HasBlock, hpicture]

end Roomy

/-- A terminal of any size that has room for a cell inside the border paints in place if its cells
can be numbered and none is wiped.  On one that paints in place every frame can be drawn, all blocks
are inside the border, and a cell there is a block exactly if a lit pixel is scaled to it.
To every cell inside some pixel is scaled, so a frame whose pixels are all lit fills the inside.
With room for all pixels each has a cell of its own, and different frames look different. -/
theorem shows_lit_pixels (t : Terminal) (hcols : 3 ≤ t.size.cols) (hrows : 3 ≤ t.size.rows) :
    let w := min 66 t.size.cols - 2
    let h := min 34 t.size.rows - 2
    let rowOf (r : Nat) := r * (h - 1) / 31 + 1
    let colOf (c : Nat) := c * (w - 1) / 63 + 1
    let Inside (row col : Nat) := (1 ≤ row ∧ row ≤ h) ∧ 1 ≤ col ∧ col ≤ w
    (t.wiped = [] → t.size.count ≤ TerminalSize.maxCells → t.PaintsInPlace) ∧
    (t.PaintsInPlace →
      (∀ f, (t.draw f).overrun = t.overrun) ∧
      (∀ f row col, (t.draw f).HasBlock row col → Inside row col) ∧
      (∀ f row col, Inside row col → ((t.draw f).HasBlock row col ↔
        ∃ r < 32, ∃ c < 64, f.pixel r c = true ∧ row = rowOf r ∧ col = colOf c)) ∧
      (∀ row col, Inside row col → ∃ r < 32, ∃ c < 64, row = rowOf r ∧ col = colOf c) ∧
      (∀ f, (∀ r < 32, ∀ c < 64, f.pixel r c = true) →
        ∀ row col, Inside row col → (t.draw f).HasBlock row col) ∧
      (66 ≤ t.size.cols → 34 ≤ t.size.rows →
        (∀ r < 32, ∀ c < 64, rowOf r = 1 + r ∧ colOf c = 1 + c) ∧
        (∀ f, ∀ r < 32, ∀ c < 64, ((t.draw f).HasBlock (1 + r) (1 + c) ↔ f.pixel r c = true)) ∧
        Function.Injective fun f => (t.draw f).picture)) := by
  intro w h rowOf colOf Inside
  refine ⟨paintsInPlace_of_count_le (by omega) (by omega), fun hpaint => ?_⟩
  have hw : 1 ≤ w ∧ w ≤ 64 := by omega
  have hh : 1 ≤ h ∧ h ≤ 32 := by omega
  have hblock (f : Frame) (row col : Nat) : (t.draw f).HasBlock row col ↔
      ∃ r < 32, ∃ c < 64, f.pixel r c = true ∧ row = rowOf r ∧ col = colOf c :=
    hasBlock_draw_iff hcols hrows hpaint f
  have honto (row col : Nat) (hin : Inside row col) :
      ∃ r < 32, ∃ c < 64, row = rowOf r ∧ col = colOf c :=
    exists_pixel hw.2 hh.2 hin.1 hin.2
  refine ⟨overrun_draw hpaint, fun f row col hlit => ?inside, fun f row col _ => hblock f row col,
    honto, fun f hall row col hin => ?full, fun hwide hhigh => ?roomy⟩
  case inside =>
    obtain ⟨r, hr, c, hc, -, rfl, rfl⟩ := (hblock f row col).1 hlit
    have hlow := Canvas.scaled_lt hh.1 (Nat.le_of_lt_succ hr)
    have hnarrow := Canvas.scaled_lt hw.1 (Nat.le_of_lt_succ hc)
    exact ⟨⟨Nat.le_add_left 1 _, hlow⟩, Nat.le_add_left 1 _, hnarrow⟩
  case full =>
    obtain ⟨r, hr, c, hc, hrow, hcol⟩ := honto row col hin
    exact (hblock f row col).2 ⟨r, hr, c, hc, hall r hr c hc, hrow, hcol⟩
  case roomy =>
    exact ⟨fun r _ c _ => pixel_in_place hwide hhigh r c,
      fun f r hr c hc => hasBlock_draw_iff_pixel hwide hhigh hpaint f hr hc,
      injective_picture_draw hwide hhigh hpaint⟩

/-- The pixel in the bottom right corner fills the last cell inside the border, on a small terminal
and on one with room for all pixels. -/
theorem shows_lit_pixels_in_corner :
    let f := (Screen.blank.draw 31 63 [0x80]).2.frame
    let small : Terminal := { size := ⟨20, 8⟩ }
    let large : Terminal := { size := ⟨80, 40⟩ }
    (small.PaintsInPlace ∧ (small.draw f).HasBlock 6 18 ∧ ¬ (small.draw f).HasBlock 7 18) ∧
      large.PaintsInPlace ∧ (large.draw f).HasBlock 32 64 ∧
      (large.draw f).picture ≠ (large.draw Screen.blank.frame).picture := by
  intro f small large
  have hlit : f.pixel 31 63 = true := by
    rw [Screen.pixel_frame _ (by decide) (by decide)]
    decide +kernel
  obtain ⟨hnumbered, hshown⟩ := shows_lit_pixels small (by decide) (by decide)
  obtain ⟨hnumbered', hshown'⟩ := shows_lit_pixels large (by decide) (by decide)
  have hsmall : small.PaintsInPlace := hnumbered rfl (by decide)
  have hlarge : large.PaintsInPlace := hnumbered' rfl (by decide)
  obtain ⟨-, hinside, hblock, -⟩ := hshown hsmall
  obtain ⟨-, -, -, -, -, hroom⟩ := hshown' hlarge
  obtain ⟨-, hpixel, hinjective⟩ := hroom (by decide) (by decide)
  refine ⟨⟨hsmall, ?_, fun h => ?_⟩, hlarge, (hpixel f 31 (by decide) 63 (by decide)).2 hlit, ?_⟩
  · have hrow : 6 = 31 * (min 34 8 - 2 - 1) / 31 + 1 := by decide
    have hcol : 18 = 63 * (min 66 20 - 2 - 1) / 63 + 1 := by decide
    exact (hblock f 6 18 (by decide)).2 ⟨31, by decide, 63, by decide, hlit, hrow, hcol⟩
  · exact absurd (hinside f 7 18 h).1.2 (by decide)
  · intro h
    have hframe : f.pixel 31 63 = Screen.blank.frame.pixel 31 63 := by rw [hinjective h]
    rw [hlit, Screen.pixel_frame _ (by decide) (by decide)] at hframe
    revert hframe
    decide +kernel

end Terminal

end Chip8
