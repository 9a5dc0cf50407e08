import Mathlib.Data.List.Nodup
import Chip8.Screen.Blit
import Chip8.Proofs.Bare.Agreement
import Chip8.Proofs.Packing

/-!
# Drawing by rows is drawing by pixels

A sprite is drawn a line at a time, with a rotated byte that is laid over a whole row, and `blit`
draws it a pixel at a time.  The two come to the same (`draw_eq_blit`).  For one line this holds
since the pixels under a byte are in different columns, even where the line wraps, so that none
is turned over twice and what lights them is the row as it was.  For more lines it follows by
induction, whether or not they come round to a row again.

So what a draw does can be told pixel by pixel: it turns them over in order, and it collides if
one of them is lit at the moment when its turn comes.
-/

namespace Chip8.Screen

variable {s : Screen} {r c : Nat}

/-! ## Turning over pixels -/

/-- Turning a pixel over is seen at this pixel and nowhere else. -/
theorem pixel_toggle (s : Screen) (r c q d : Nat) :
    (s.toggle r c).pixel q d =
      if q % 32 = r % 32 ∧ d % 64 = c % 64 then !s.pixel q d else s.pixel q d := by
  have hbit : (BitVec.twoPow 64 (63 - c % 64)).getMsbD (d % 64) = decide (d % 64 = c % 64) := by
    have hc := Nat.mod_lt c (show 0 < 64 by decide)
    rw [BitVec.getMsbD_twoPow, decide_eq_true (show 63 - c % 64 < 64 by omega), Bool.true_and]
    exact decide_eq_decide.2 (by omega)
  rw [toggle, pixel_flipRow, hbit]
  by_cases hrow : q % 32 = r % 32
  · by_cases hcolumn : d % 64 = c % 64 <;> simp [hrow, hcolumn]
  · simp [hrow]

/-- The screen after pixels were turned over, one after the other. -/
def toggled (s : Screen) (pixels : List (Nat × Nat)) : Screen :=
  pixels.foldl (fun t p => t.toggle p.1 p.2) s

theorem toggled_take_succ {pixels : List (Nat × Nat)} {k : Nat} (h : k < pixels.length) :
    s.toggled (pixels.take (k + 1)) =
      (s.toggled (pixels.take k)).toggle pixels[k].1 pixels[k].2 := by
  rw [List.take_succ_eq_append_getElem h, toggled, List.foldl_append]
  rfl

theorem togglePixels_append (pixels rest : List (Nat × Nat)) (hit : Bool) (s : Screen) :
    togglePixels (pixels ++ rest) hit s =
      togglePixels rest (togglePixels pixels hit s).1 (togglePixels pixels hit s).2 := by
  induction pixels generalizing hit s with
  | nil => rfl
  | cons p pixels ih => exact ih _ _

theorem snd_togglePixels (pixels : List (Nat × Nat)) (hit : Bool) (s : Screen) :
    (togglePixels pixels hit s).2 = s.toggled pixels := by
  induction pixels generalizing hit s with
  | nil => rfl
  | cons p pixels ih => exact ih _ _

/-- There is a hit if there was one, or a pixel was lit at the moment when it was turned over. -/
theorem fst_togglePixels_iff (pixels : List (Nat × Nat)) (hit : Bool) (s : Screen) :
    (togglePixels pixels hit s).1 = true ↔ hit = true ∨ ∃ k, ∃ h : k < pixels.length,
      (s.toggled (pixels.take k)).pixel pixels[k].1 pixels[k].2 = true := by
  induction pixels generalizing hit s with
  | nil =>
    refine ⟨.inl, ?_⟩
    rintro (h | ⟨k, h, -⟩)
    · exact h
    · cases h
  | cons p pixels ih =>
    rw [togglePixels, ih, Bool.or_eq_true, or_assoc]
    refine or_congr_right ?_
    constructor
    · rintro (hlit | ⟨k, hk, hlit⟩)
      · exact ⟨0, Nat.zero_lt_succ _, hlit⟩
      · exact ⟨k + 1, Nat.succ_lt_succ hk, hlit⟩
    · rintro ⟨k, hk, hlit⟩
      cases k with
      | zero => exact .inl hlit
      | succ k => exact .inr ⟨k, Nat.lt_of_succ_lt_succ hk, hlit⟩

/-! ## Pixels of one row -/

section Line

variable {columns : List Nat}

/-- Of pixels in different columns of a row, turning one over leaves the others as they are, so
there is a hit if one of them is lit to begin with. -/
theorem fst_togglePixels_line (hcolumns : columns.Pairwise fun d d' => d % 64 ≠ d' % 64)
    (hit : Bool) (s : Screen) :
    (togglePixels (columns.map (r, ·)) hit s).1 = true ↔
      hit = true ∨ ∃ d ∈ columns, s.pixel r d = true := by
  induction columns generalizing hit s with
  | nil => simp [togglePixels]
  | cons d columns ih =>
    obtain ⟨hd, hrest⟩ := List.pairwise_cons.1 hcolumns
    have hsame : ∀ d' ∈ columns, (s.toggle r d).pixel r d' = s.pixel r d' := fun d' hd' => by
      rw [pixel_toggle, if_neg fun h => hd d' hd' h.2.symm]
    have hlit : (∃ d' ∈ columns, (s.toggle r d).pixel r d' = true) ↔
        ∃ d' ∈ columns, s.pixel r d' = true :=
      exists_congr fun d' => and_congr_right fun hd' => by rw [hsame d' hd']
    rw [List.map_cons, togglePixels, ih hrest, hlit, List.exists_mem_cons_iff, Bool.or_eq_true,
      or_assoc]

theorem pixel_toggled_line (hcolumns : columns.Pairwise fun d d' => d % 64 ≠ d' % 64)
    (s : Screen) (q d : Nat) :
    (s.toggled (columns.map (r, ·))).pixel q d =
      if q % 32 = r % 32 ∧ ∃ d' ∈ columns, d % 64 = d' % 64 then !s.pixel q d
      else s.pixel q d := by
  induction columns generalizing s with
  | nil => simp [toggled]
  | cons e columns ih =>
    obtain ⟨he, hrest⟩ := List.pairwise_cons.1 hcolumns
    show ((s.toggle r e).toggled (columns.map (r, ·))).pixel q d = _
    rw [ih hrest, pixel_toggle]
    by_cases hd : d % 64 = e % 64
    · -- This column is turned over first, and not again.
      have hother : ¬ ∃ d' ∈ columns, d % 64 = d' % 64 := fun ⟨d', hd', heq⟩ =>
        he d' hd' (hd.symm.trans heq)
      have hnow : ∃ d' ∈ e :: columns, d % 64 = d' % 64 := ⟨e, .head _, hd⟩
      rw [if_neg fun h => hother h.2]
      simp only [iff_true_intro hd, hnow, and_true]
    · simp only [List.exists_mem_cons_iff, hd, false_or, and_false, if_false]

end Line

/-! ## One line of a sprite -/

theorem mem_lineColumns {line : UInt8} {d : Nat} :
    d ∈ lineColumns c line ↔ ∃ j < 8, line.toBitVec.getMsbD j = true ∧ d = c + j := by
  rw [lineColumns, List.mem_map]
  constructor
  · rintro ⟨j, hj, rfl⟩
    obtain ⟨hlt, hset⟩ := List.mem_filter.1 hj
    exact ⟨j, List.mem_range.1 hlt, hset, rfl⟩
  · rintro ⟨j, hlt, hset, rfl⟩
    exact ⟨j, List.mem_filter.2 ⟨List.mem_range.2 hlt, hset⟩, rfl⟩

/-- Eight columns in a row are different, even if they wrap. -/
theorem pairwise_lineColumns (c : Nat) (line : UInt8) :
    (lineColumns c line).Pairwise fun d d' => d % 64 ≠ d' % 64 := by
  have hnodup : (lineColumns c line).Nodup :=
    List.Nodup.map (add_right_injective c) (List.nodup_range.filter _)
  refine hnodup.imp_of_mem fun hd hd' hne => ?_
  obtain ⟨j, hj, -, rfl⟩ := mem_lineColumns.1 hd
  obtain ⟨j', hj', -, rfl⟩ := mem_lineColumns.1 hd'
  omega

/-- Bit `d` of a rotated line is the bit that is the distance of `d` from where the line starts. -/
theorem getMsbD_spriteRow (c : Nat) (line : UInt8) {d : Nat} (hd : d < 64) :
    (spriteRow c line).getMsbD d = line.toBitVec.getMsbD ((d + (64 - c % 64)) % 64) := by
  have hc := Nat.mod_lt c (show 0 < 64 by decide)
  have hbits (k : Nat) :
      (line.toBitVec.setWidth 64 <<< 56).getMsbD k = line.toBitVec.getMsbD k := by
    rw [BitVec.getMsbD_shiftLeft, BitVec.getMsbD_setWidth, decide_eq_true (by omega),
      Bool.true_and, Nat.add_assoc, Nat.add_sub_cancel]
  rw [spriteRow, BitVec.getMsbD_rotateRight_of_lt hc, Nat.mod_eq_of_lt hc, decide_eq_true hd,
    Bool.true_and, hbits, hbits]
  split
  · exact congrArg _ (by omega)
  · exact congrArg _ (by omega)

theorem getMsbD_spriteRow_iff {line : UInt8} {d : Nat} :
    (spriteRow c line).getMsbD (d % 64) = true ↔ ∃ d' ∈ lineColumns c line, d % 64 = d' % 64 := by
  rw [getMsbD_spriteRow c line (Nat.mod_lt d (by decide))]
  constructor
  · intro hset
    refine ⟨c + (d % 64 + (64 - c % 64)) % 64, mem_lineColumns.2 ⟨_, ?_, hset, rfl⟩, by omega⟩
    exact BitVec.lt_of_getMsbD hset
  · rintro ⟨_, hmem, hd⟩
    obtain ⟨j, hj, hset, rfl⟩ := mem_lineColumns.1 hmem
    have hplace : (d % 64 + (64 - c % 64)) % 64 = j := by omega
    rw [hplace, hset]

/-- The row of a line is laid over as its pixels are turned over. -/
theorem toggled_line (s : Screen) (r c : Nat) (line : UInt8) :
    s.toggled ((lineColumns c line).map (r, ·)) = s.flipRow r (spriteRow c line) := by
  refine ext_pixel fun q _ d _ => ?_
  rw [pixel_toggled_line (pairwise_lineColumns c line), pixel_flipRow]
  by_cases hrow : q % 32 = r % 32
  · by_cases hset : (spriteRow c line).getMsbD (d % 64) = true
    · simp [hrow, hset, getMsbD_spriteRow_iff.1 hset]
    · simp [hrow, hset, getMsbD_spriteRow_iff.not.1 hset]
  · simp [hrow]

theorem ne_zero_iff_getMsbD {bits : BitVec 64} :
    bits ≠ 0 ↔ ∃ d < 64, bits.getMsbD d = true := by
  have hnone (d : Nat) : (0 : BitVec 64).getMsbD d = false := BitVec.getMsbD_zero
  constructor
  · intro hne
    by_contra hdark
    refine hne (BitVec.eq_of_getMsbD_eq fun d hd => ?_)
    rw [hnone]
    exact Bool.eq_false_iff.2 fun hlit => hdark ⟨d, hd, hlit⟩
  · rintro ⟨d, -, hlit⟩ rfl
    rw [hnone] at hlit
    cases hlit

/-- The row of a line meets a row of the screen if one of the line's pixels is lit. -/
theorem row_and_spriteRow_iff (s : Screen) (r c : Nat) (line : UInt8) :
    s.row r &&& spriteRow c line ≠ 0 ↔ ∃ d ∈ lineColumns c line, s.pixel r d = true := by
  rw [ne_zero_iff_getMsbD]
  constructor
  · rintro ⟨d, hd, hboth⟩
    rw [BitVec.getMsbD_and, Bool.and_eq_true, ← Nat.mod_eq_of_lt hd] at hboth
    obtain ⟨hlit, hset⟩ := hboth
    obtain ⟨d', hd', hsame⟩ := getMsbD_spriteRow_iff.1 hset
    rw [hsame] at hlit
    exact ⟨d', hd', hlit⟩
  · rintro ⟨d, hd, hlit⟩
    refine ⟨d % 64, Nat.mod_lt d (by decide), ?_⟩
    rw [BitVec.getMsbD_and, getMsbD_spriteRow_iff.2 ⟨d, hd, rfl⟩, Bool.and_true]
    exact hlit

/-! ## Sprites -/

theorem drawLines_eq_togglePixels (s : Screen) (r c : Nat) (sprite : List UInt8) (hit : Bool) :
    drawLines c r sprite hit s = togglePixels (spritePixels c r sprite) hit s := by
  induction sprite generalizing r hit s with
  | nil => rfl
  | cons line rest ih =>
    have hline : togglePixels ((lineColumns c line).map (r, ·)) hit s =
        (hit || s.row r &&& spriteRow c line ≠ 0, s.flipRow r (spriteRow c line)) := by
      refine Prod.ext (Bool.eq_iff_iff.2 ?_) ?_
      · rw [fst_togglePixels_line (pairwise_lineColumns c line), Bool.or_eq_true,
          decide_eq_true_iff, row_and_spriteRow_iff]
      · rw [snd_togglePixels, toggled_line]
    rw [spritePixels, togglePixels_append, hline, drawLines]
    exact ih _ _ _

theorem map_lineColumns (r c : Nat) (line : UInt8) :
    (lineColumns c line).map (r, ·) =
      ((List.range 8).filter fun j => line.toNat.testBit (7 - j)).map fun j => (r, c + j) := by
  have hbits : (List.range 8).filter line.toBitVec.getMsbD =
      (List.range 8).filter fun j => line.toNat.testBit (7 - j) := by
    refine List.filter_congr fun j hj => ?_
    rw [BitVec.getMsbD, decide_eq_true (List.mem_range.1 hj), Bool.true_and]
    rfl
  rw [lineColumns, List.map_map, hbits]
  rfl

theorem spritePixels_eq_flatMap (c r : Nat) (sprite : List UInt8) :
    spritePixels c r sprite = (List.range sprite.length).flatMap fun i =>
      ((List.range 8).filter fun j => (sprite.getD i 0).toNat.testBit (7 - j)).map fun j =>
        (r + i, c + j) := by
  induction sprite generalizing r with
  | nil => rfl
  | cons line rest ih =>
    have hlines : List.range (line :: rest).length =
        0 :: (List.range rest.length).map Nat.succ := List.range_succ_eq_map
    rw [spritePixels, map_lineColumns, ih, hlines, List.flatMap_cons, List.flatMap_map]
    refine congrArg _ (List.flatMap_congr fun i _ => ?_)
    simp only [Nat.succ_eq_add_one, Nat.add_assoc, Nat.add_comm 1 i]
    rfl

/-- Drawing a sprite of any length at any place is the same as blitting it.  The blit turns over the
pixels under the set bits of the sprite one at a time, line by line and from left to right, with
rows that wrap at 32 and columns that wrap at 64.  The draw collides exactly if a pixel is lit at
the moment when its turn comes, also if the sprite comes to a row again.  As long as the numbers of
its rows fit a word, the bare machine draws the same. -/
theorem draw_eq_blit (s : Screen) (r c : Nat) (sprite : List UInt8) :
    let pixels := (List.range sprite.length).flatMap fun i =>
      ((List.range 8).filter fun j => (sprite.getD i 0).toNat.testBit (7 - j)).map fun j =>
        (r + i, c + j)
    let shown (k : Nat) := s.toggled (pixels.take k)
    s.draw r c sprite = s.blit r c sprite ∧
    (s.draw r c sprite).2 = shown pixels.length ∧
    (∀ k (h : k < pixels.length) q d, (shown (k + 1)).pixel q d =
      if q % 32 = pixels[k].1 % 32 ∧ d % 64 = pixels[k].2 % 64 then !(shown k).pixel q d
      else (shown k).pixel q d) ∧
    ((s.draw r c sprite).1 = true ↔
      ∃ k, ∃ h : k < pixels.length, (shown k).pixel pixels[k].1 pixels[k].2 = true) ∧
    (r + sprite.length < 2 ^ 64 →
      Bare.drawLines r c 0 sprite false s.rows.toList =
        .ok ((s.blit r c sprite).1, (s.blit r c sprite).2.rows.toList)) := by
  intro pixels shown
  have hblit : s.draw r c sprite = s.blit r c sprite := s.drawLines_eq_togglePixels r c sprite false
  have hpixels : s.blit r c sprite = togglePixels pixels false s := by
    rw [blit, spritePixels_eq_flatMap]
  refine ⟨hblit, ?_, ?_, ?_, ?_⟩
  · rw [hblit, hpixels, snd_togglePixels]
    exact congrArg s.toggled List.take_length.symm
  · intro k h q d
    show (s.toggled (pixels.take (k + 1))).pixel q d = _
    rw [toggled_take_succ h, pixel_toggle]
  · rw [hblit, hpixels, fst_togglePixels_iff]
    simp only [Bool.false_eq_true, false_or]
    exact Iff.rfl
  · intro hfits
    rw [← hblit]
    exact drawLines_bare r c 0 sprite false s hfits

/-- A sprite with one line more than the screen starts in the last row of the dark screen, and its
last line comes to this row again and darkens it.  Its right half has come in on the left. -/
theorem draw_eq_blit_tall :
    let sprite : List UInt8 := List.replicate 33 0x81
    let drawn := blank.draw 31 63 sprite
    drawn = blank.blit 31 63 sprite ∧ drawn.1 = true ∧
      drawn.2.pixel 31 63 = false ∧ drawn.2.pixel 0 63 = true ∧ drawn.2.pixel 0 6 = true ∧
      Bare.drawLines 31 63 0 sprite false blank.rows.toList = .ok (true, drawn.2.rows.toList) := by
  intro sprite drawn
  obtain ⟨hblit, -, -, hhit, hbare⟩ := draw_eq_blit blank 31 63 sprite
  have hcollides : drawn.1 = true := hhit.2 ⟨64, by decide +kernel⟩
  refine ⟨hblit, hcollides, by decide +kernel, by decide +kernel, by decide +kernel, ?_⟩
  rw [hbare (by decide), ← hblit]
  exact congrArg (fun hit => Except.ok (hit, drawn.2.rows.toList)) hcollides

end Chip8.Screen
