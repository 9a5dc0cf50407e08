import Mathlib.Algebra.Group.Nat.Even
import Mathlib.Data.List.Perm.Basic
import Mathlib.Data.Nat.Bits
import Chip8.Proofs.Drawing

/-!
# Sprites over sprites

Drawing only ever turns pixels over.  So all that a picture can tell of the sprites that were drawn
on it is, for each pixel, whether it was turned over an odd number of times (`pixel_toggled`).  The
order of the draws makes no difference to that, and doing all of them twice comes to doing none
(`drawn_in_any_order`).

To turn a pixel over is to light it or to turn it off, so each of them moves the number of lit
pixels by one (`litCount_toggle`).  A draw turns over as many pixels as its sprite has bits set,
wherever it wraps, and adds as many lit pixels less two for each of them that it turns off
(`litCount_draw`).
-/

namespace Chip8.Screen

/-! ## Turning over an odd number of times -/

/-- How often a pixel comes up in a list, where both axes wrap. -/
def turns (pixels : List (Nat × Nat)) (q d : Nat) : Nat :=
  pixels.countP fun p => q % 32 = p.1 % 32 ∧ d % 64 = p.2 % 64

theorem turns_cons (p : Nat × Nat) (pixels : List (Nat × Nat)) (q d : Nat) :
    turns (p :: pixels) q d =
      if q % 32 = p.1 % 32 ∧ d % 64 = p.2 % 64 then turns pixels q d + 1 else turns pixels q d := by
  rw [turns, List.countP_cons]
  by_cases hp : q % 32 = p.1 % 32 ∧ d % 64 = p.2 % 64
  · rw [if_pos (decide_eq_true hp), if_pos hp, turns]
  · rw [if_neg (mt of_decide_eq_true hp), if_neg hp, turns, Nat.add_zero]

/-- What is left of turning pixels over is whether it was an odd number of times. -/
theorem pixel_toggled (s : Screen) (pixels : List (Nat × Nat)) (q d : Nat) :
    (s.toggled pixels).pixel q d = (s.pixel q d ^^ (turns pixels q d).bodd) := by
  induction pixels generalizing s with
  | nil => simp [toggled, turns]
  | cons p pixels ih =>
    show ((s.toggle p.1 p.2).toggled pixels).pixel q d = _
    rw [ih, pixel_toggle, turns_cons]
    split
    · rw [Nat.bodd_succ, Bool.not_xor, Bool.xor_not]
    · rfl

theorem turns_perm {pixels pixels' : List (Nat × Nat)} (h : pixels.Perm pixels') (q d : Nat) :
    turns pixels' q d = turns pixels q d := (h.countP_eq _).symm

/-! ## Draws in a row -/

/-- A sprite, and the row and column of its top left corner. -/
structure Stamp where
  row : Nat
  column : Nat
  sprite : List UInt8

def Stamp.pixels (stamp : Stamp) : List (Nat × Nat) :=
  spritePixels stamp.column stamp.row stamp.sprite

/-- The screen after sprites were drawn, one after the other. -/
def drawn (s : Screen) (stamps : List Stamp) : Screen :=
  stamps.foldl (fun t stamp => (t.draw stamp.row stamp.column stamp.sprite).2) s

theorem snd_draw (s : Screen) (r c : Nat) (sprite : List UInt8) :
    (s.draw r c sprite).2 = s.toggled (spritePixels c r sprite) := by
  rw [draw, drawLines_eq_togglePixels, snd_togglePixels]

theorem drawn_eq_toggled (s : Screen) (stamps : List Stamp) :
    s.drawn stamps = s.toggled (stamps.flatMap Stamp.pixels) := by
  induction stamps generalizing s with
  | nil => rfl
  | cons stamp stamps ih =>
    rw [List.flatMap_cons, toggled, List.foldl_append, drawn, List.foldl_cons, snd_draw]
    exact ih _

theorem pixel_drawn (s : Screen) (stamps : List Stamp) (q d : Nat) :
    (s.drawn stamps).pixel q d =
      (s.pixel q d ^^ (turns (stamps.flatMap Stamp.pixels) q d).bodd) := by
  rw [drawn_eq_toggled, pixel_toggled]

/-- Whatever sprites are drawn, of any length and at any place, the picture is the same for every
order of the draws, and all of them once more, in any order, bring back the screen as it was.  A
pixel is turned over exactly if the sprites have bits set there an odd number of times. -/
theorem drawn_in_any_order (s : Screen) {stamps others : List Stamp} (h : stamps.Perm others) :
    s.drawn others = s.drawn stamps ∧ (s.drawn stamps).drawn others = s ∧
      ∀ q d, (s.drawn stamps).pixel q d =
        (s.pixel q d ^^ (turns (stamps.flatMap Stamp.pixels) q d).bodd) := by
  have hturns (q d : Nat) : turns (others.flatMap Stamp.pixels) q d =
      turns (stamps.flatMap Stamp.pixels) q d := turns_perm (h.flatMap_right _) q d
  refine ⟨ext_pixel fun q _ d _ => ?_, ext_pixel fun q _ d _ => ?_, s.pixel_drawn stamps⟩
  · rw [pixel_drawn, pixel_drawn, hturns]
  · rw [pixel_drawn, pixel_drawn, hturns, Bool.xor_assoc, Bool.xor_self, Bool.xor_false]

/-- Three sprites that overlap, one of them over the corner and one taller than the screen, are
drawn in one order and in another. -/
theorem drawn_in_any_order_overlapping :
    let s := (blank.draw 30 60 [0xFF]).2
    let stamps : List Stamp := [⟨31, 61, [0xF0, 0x90, 0xF0]⟩, ⟨0, 62, List.replicate 33 0x99⟩,
      ⟨31, 0, [0xAA]⟩]
    let others : List Stamp := [⟨31, 0, [0xAA]⟩, ⟨0, 62, List.replicate 33 0x99⟩,
      ⟨31, 61, [0xF0, 0x90, 0xF0]⟩]
    stamps.Perm others ∧ s.drawn others = s.drawn stamps ∧ (s.drawn stamps).drawn others = s ∧
      (s.drawn stamps).pixel 31 62 = false ∧ (s.drawn stamps).pixel 0 61 = true := by
  intro s stamps others
  have hperm : stamps.Perm others := (List.reverse_perm others)
  obtain ⟨horder, hagain, hpixel⟩ := drawn_in_any_order s hperm
  refine ⟨hperm, horder, hagain, ?_, ?_⟩
  · rw [hpixel]
    decide +kernel
  · rw [hpixel]
    decide +kernel

/-! ## Counting lit pixels -/

/-- If one member of a list changes sides, the count moves by one, up or down. -/
theorem countP_flip {α : Type} [DecidableEq α] {l : List α} (hnodup : l.Nodup) {a : α} (ha : a ∈ l)
    {p q : α → Bool} (hflip : q a = !p a) (hother : ∀ b ∈ l, b ≠ a → q b = p b) :
    l.countP q + 2 * (p a).toNat = l.countP p + 1 := by
  have hperm : l.Perm (a :: l.erase a) := List.perm_cons_erase ha
  have hrest : (l.erase a).countP q = (l.erase a).countP p := List.countP_congr fun b hb => by
    obtain ⟨hne, hmem⟩ := hnodup.mem_erase_iff.1 hb
    rw [hother b hmem hne]
  rw [hperm.countP_eq, hperm.countP_eq, List.countP_cons, List.countP_cons, hrest, hflip]
  cases p a with
  | true => rfl
  | false => rfl

theorem pixel_congr (s : Screen) {q r d c : Nat} (hrow : q % 32 = r % 32)
    (hcolumn : d % 64 = c % 64) : s.pixel q d = s.pixel r c := by
  rw [pixel, pixel, row, row, rowIndex_eq_iff.2 hrow, hcolumn]

/-- A pixel that is turned over is lit, or turned off. -/
theorem litCount_toggle (s : Screen) (r c : Nat) :
    (s.toggle r c).litCount + 2 * (s.pixel r c).toNat = s.litCount + 1 := by
  -- Of the numbers that are counted, one is that of the pixel.
  obtain ⟨k, hk, hrow, hcolumn⟩ : ∃ k < 2048, k / 64 % 32 = r % 32 ∧ k % 64 % 64 = c % 64 :=
    ⟨r % 32 * 64 + c % 64, by omega, by omega, by omega⟩
  have hpixel (t : Screen) : t.pixel (k / width) (k % width) = t.pixel r c :=
    t.pixel_congr hrow hcolumn
  have hmem : k ∈ List.range (width * height) := List.mem_range.2 hk
  rw [← hpixel, litCount, litCount]
  refine countP_flip (p := fun n => s.pixel (n / width) (n % width)) List.nodup_range hmem ?_
    fun n hn hne => ?_
  · rw [hpixel, hpixel, pixel_toggle, if_pos ⟨rfl, rfl⟩]
  · have hlt : n < 2048 := List.mem_range.1 hn
    have hother : ¬ (n / 64 % 32 = r % 32 ∧ n % 64 % 64 = c % 64) := by omega
    exact (s.pixel_toggle r c (n / 64) (n % 64)).trans (if_neg hother)

/-- How many of some pixels are lit at the moment when they are turned over. -/
def turnedOff : (pixels : List (Nat × Nat)) → Screen → Nat
  | [], _ => 0
  | (r, c) :: rest, s => (s.pixel r c).toNat + turnedOff rest (s.toggle r c)

theorem litCount_toggled (s : Screen) (pixels : List (Nat × Nat)) :
    (s.toggled pixels).litCount + 2 * turnedOff pixels s = s.litCount + pixels.length := by
  induction pixels generalizing s with
  | nil => rfl
  | cons p pixels ih =>
    have hfirst := s.litCount_toggle p.1 p.2
    have hrest := ih (s.toggle p.1 p.2)
    show ((s.toggle p.1 p.2).toggled pixels).litCount + 2 * (_ + turnedOff pixels _) = _
    rw [List.length_cons]
    omega

theorem fst_togglePixels_eq (pixels : List (Nat × Nat)) (hit : Bool) (s : Screen) :
    (togglePixels pixels hit s).1 = (hit || decide (0 < turnedOff pixels s)) := by
  induction pixels generalizing hit s with
  | nil => exact (Bool.or_false hit).symm
  | cons p pixels ih =>
    rw [togglePixels, ih, turnedOff, Bool.or_assoc]
    cases s.pixel p.1 p.2 with
    | true => simp [Nat.add_comm 1]
    | false => simp

theorem length_spritePixels (c r : Nat) (sprite : List UInt8) :
    (spritePixels c r sprite).length = (sprite.map fun line => line.toBitVec.cpop.toNat).sum := by
  induction sprite generalizing r with
  | nil => rfl
  | cons line rest ih =>
    rw [spritePixels, List.length_append, List.length_map, lineColumns, List.length_map,
      ← List.countP_eq_length_filter, ← toNat_cpop_eq_countP, ih, List.map_cons, List.sum_cons]

/-- Drawing adds as many lit pixels as the sprite has bits set, less two for each pixel that it
turns off, and collides exactly if it turns one off.  So there are at most that many lit pixels
more, they are fewer by an even number, and none are missing exactly if the draw does not
collide. -/
theorem litCount_draw (s : Screen) (r c : Nat) (sprite : List UInt8) :
    let bits := (sprite.map fun line => line.toBitVec.cpop.toNat).sum
    let off := turnedOff (spritePixels c r sprite) s
    let after := (s.draw r c sprite).2.litCount
    (after + 2 * off = s.litCount + bits ∧ ((s.draw r c sprite).1 = true ↔ 0 < off)) ∧
      after ≤ s.litCount + bits ∧ Even (s.litCount + bits - after) ∧
      ((s.draw r c sprite).1 = false ↔ after = s.litCount + bits) := by
  intro bits off after
  have hcount : after + 2 * off = s.litCount + bits := by
    have h := s.litCount_toggled (spritePixels c r sprite)
    rwa [← snd_draw, length_spritePixels] at h
  have hcollides : (s.draw r c sprite).1 = decide (0 < off) := by
    rw [draw, drawLines_eq_togglePixels, fst_togglePixels_eq, Bool.false_or]
  refine ⟨⟨hcount, ?_⟩, by omega, ⟨off, by omega⟩, ?_⟩
  · rw [hcollides, decide_eq_true_iff]
  · rw [hcollides, decide_eq_false_iff_not]
    omega

end Chip8.Screen
