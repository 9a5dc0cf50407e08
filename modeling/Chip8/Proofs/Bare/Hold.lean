import Mathlib.Data.List.FinRange
import Chip8.Proofs.Bare.Checked
import Chip8.Proofs.HeldKeys

/-!
# The bare hold table

The hold table again, as a list of bytes, with every access and every subtraction checked.  A press
is looked up by whatever code it names, and nothing says that there is a counter for it.  The keys
that were pressed in a poll are marked in a second list, which is looked up by the position of each
counter.

A poll of presses that name keys never panics on the image of a hold table whose counters are at
most eight, and does to it what it does to the table (`poll_bare`).
-/

namespace Chip8

namespace Bare.Hold

/-- Takes the presses of a poll, and marks the keys that were pressed. -/
def press : List Event → (counters : List UInt8) → (marks : List Bool) →
    Checked (List Event × List UInt8 × List Bool)
  | [], counters, marks => return ([], counters, marks)
  | .down code :: rest, counters, marks => do
    let counter ← Checked.get counters code.toNat
    let counters ← Checked.put counters code.toNat 8
    let marks ← Checked.put marks code.toNat true
    let (events, counters, marks) ← press rest counters marks
    return (if counter = 0 then .down code :: events else events, counters, marks)
  | e :: rest, counters, marks => do
    let (events, counters, marks) ← press rest counters marks
    return (e :: events, counters, marks)

/-- Takes one from the counter at position `k`, unless it is zero or marked.  Yields the event that
it runs out, if it does. -/
def ageOne (marks : List Bool) (k : Nat) (counter : UInt8) : Checked (List Event × UInt8) := do
  if counter = 0 then
    return ([], counter)
  else if ← Checked.get marks k then
    return ([], counter)
  else
    let counter ← Checked.subByte counter 1
    return (if counter = 0 then [.up (UInt8.ofNat k)] else [], counter)

/-- The same for all counters from position `k` on, in ascending order. -/
def age (marks : List Bool) : (k : Nat) → (counters : List UInt8) →
    Checked (List Event × List UInt8)
  | _, [] => return ([], [])
  | k, counter :: rest => do
    let (told, counter) ← ageOne marks k counter
    let (events, rest) ← age marks (k + 1) rest
    return (told ++ events, counter :: rest)

/-- One poll. -/
def poll (counters : List UInt8) (presses : List Event) : Checked (List Event × List UInt8) := do
  let (events, counters, marks) ← press presses counters (List.replicate 16 false)
  let (ups, counters) ← age marks 0 counters
  return (events ++ ups, counters)

end Bare.Hold

namespace Hold

/-! ## Images -/

section Row

variable {α : Type}

/-- One entry for each key, in ascending order. -/
def row (f : Key → α) : List α := (List.finRange 16).map f

theorem length_row (f : Key → α) : (row f).length = 16 := by
  rw [row, List.length_map, List.length_finRange]

theorem get_row (f : Key → α) (k : Key) : Checked.get (row f) k = .ok (f k) := by
  rw [Checked.get_eq_ok (by rw [length_row]; exact k.isLt)]
  simp [row]

theorem put_row (f : Key → α) (k : Key) (a : α) :
    Checked.put (row f) k a = .ok (row (Function.update f k a)) := by
  rw [Checked.put_eq_ok (by rw [length_row]; exact k.isLt)]
  refine congrArg _ (List.ext_getElem (by simp [row]) fun i hi _ => ?_)
  simp [row, List.getElem_set, Function.update_apply, Fin.ext_iff, eq_comm]

end Row

/-- The image of a hold table. -/
def bare (h : Hold) : List UInt8 := row fun k => UInt8.ofNat (h.count k)

/-- The marks of these keys. -/
def marks (ks : List Key) : List Bool := row ks.contains

theorem marks_congr {ks js : List Key} (h : ∀ k, k ∈ ks ↔ k ∈ js) : marks ks = marks js := by
  have hcontains : ks.contains = js.contains := by
    funext k
    rw [Bool.eq_iff_iff, List.contains_iff_mem, List.contains_iff_mem, h]
  rw [marks, hcontains, marks]

theorem marks_nil : marks [] = List.replicate 16 false := by decide

/-- No counter is above eight. -/
def Bounded (h : Hold) : Prop := ∀ k, h.count k ≤ frames

section Bounded

variable {h : Hold} (hh : h.Bounded) (k : Key)

include hh

theorem Bounded.refresh : (h.refresh k).Bounded := by
  intro j
  rw [count_refresh]
  split
  · exact Nat.le_refl _
  · exact hh j

theorem Bounded.age (ks : List Key) : (h.age ks).Bounded := by
  intro j
  by_cases hj : j ∈ ks
  · rw [count_age_of_mem h hj]
    exact hh j
  · rw [count_age_of_not_mem h hj]
    exact Nat.le_trans (Nat.sub_le _ 1) (hh j)

theorem toNat_counter : (UInt8.ofNat (h.count k)).toNat = h.count k := by
  have hk : h.count k ≤ 8 := hh k
  rw [UInt8.toNat_ofNat']
  omega

theorem counter_eq_zero_iff : UInt8.ofNat (h.count k) = 0 ↔ h.count k = 0 := by
  rw [← UInt8.toNat_inj, toNat_counter hh]
  rfl

end Bounded

theorem put_bare (h : Hold) (k : Key) : Checked.put h.bare k 8 = .ok (h.refresh k).bare := by
  have hput : Function.update (fun j => UInt8.ofNat (h.count j)) k 8 =
      fun j => UInt8.ofNat ((h.refresh k).count j) := by
    funext j
    rw [count_refresh, Function.update_apply]
    split <;> rfl
  rw [bare, put_row, hput, bare]

theorem put_marks (ks : List Key) (k : Key) :
    Checked.put (marks ks) k true = .ok (marks (k :: ks)) := by
  have hput : Function.update ks.contains k true = (k :: ks).contains := by
    funext j
    rw [Function.update_apply, List.contains_cons]
    split <;> simp [*]
  rw [marks, put_row, hput, marks]

/-! ## One poll -/

theorem Pressing.bare {hold hold' : Hold} {presses events : List Event} {pressed : List Key}
    (h : Pressing hold presses events hold' pressed) (hh : hold.Bounded) (earlier : List Key) :
    hold'.Bounded ∧ Bare.Hold.press presses hold.bare (marks earlier) =
      .ok (events, hold'.bare, marks (pressed ++ earlier)) := by
  induction h generalizing earlier with
  | nil => exact ⟨hh, rfl⟩
  | @down hold hold' code k rest events pressed hk hrest ih =>
    obtain ⟨hbounded, hpress⟩ := ih (hh.refresh k) (k :: earlier)
    have hcode : code.toNat = k := Keypad.key?_eq_some_iff.1 hk
    have hcounter : Checked.get hold.bare k = .ok _ := get_row _ k
    have hmarks : marks (pressed ++ k :: earlier) = marks (k :: pressed ++ earlier) :=
      marks_congr fun j => List.perm_middle.mem_iff
    refine ⟨hbounded, ?_⟩
    rw [Bare.Hold.press, hcode, hcounter, ok_bind, put_bare, ok_bind, put_marks, ok_bind, hpress,
      ok_bind, hmarks]
    simp only [counter_eq_zero_iff hh]
    rfl
  | @control hold hold' e rest events pressed he hrest ih =>
    obtain ⟨hbounded, hpress⟩ := ih hh earlier
    refine ⟨hbounded, ?_⟩
    cases e with
    | down code => exact absurd rfl he
    | up code => exact absurd rfl he
    | reset =>
      rw [Bare.Hold.press, hpress]
      · rfl
      · exact nofun
    | quit =>
      rw [Bare.Hold.press, hpress]
      · rfl
      · exact nofun

/-- A counter that is not zero is at least one, so taking one from it is in range. -/
theorem ageOne_bare {h : Hold} (hh : h.Bounded) (ks : List Key) (k : Key) :
    Bare.Hold.ageOne (marks ks) k (UInt8.ofNat (h.count k)) =
      .ok (if k ∉ ks ∧ h.count k = 1 then [upEvent k] else [],
        UInt8.ofNat ((h.age ks).count k)) := by
  have hmark : Checked.get (marks ks) k = .ok (ks.contains k) := get_row _ k
  rw [Bare.Hold.ageOne]
  by_cases hzero : h.count k = 0
  · have hage : (h.age ks).count k = 0 := by
      by_cases hk : k ∈ ks
      · rw [count_age_of_mem h hk, hzero]
      · rw [count_age_of_not_mem h hk, hzero]
    rw [if_pos ((counter_eq_zero_iff hh k).2 hzero), if_neg (by omega), hage, hzero]
    rfl
  · rw [if_neg (mt (counter_eq_zero_iff hh k).1 hzero), hmark, ok_bind]
    by_cases hk : k ∈ ks
    · rw [if_pos (List.contains_iff_mem.2 hk), if_neg (by simp [hk]), count_age_of_mem h hk]
      rfl
    · have hone : (1 : UInt8).toNat ≤ (UInt8.ofNat (h.count k)).toNat := by
        rw [toNat_counter hh]
        exact Nat.one_le_iff_ne_zero.2 hzero
      have hsub : UInt8.ofNat (h.count k) - 1 = UInt8.ofNat ((h.age ks).count k) := by
        rw [count_age_of_not_mem h hk]
        exact (UInt8.ofNat_sub (Nat.one_le_iff_ne_zero.2 hzero)).symm
      have hout : UInt8.ofNat ((h.age ks).count k) = 0 ↔ k ∉ ks ∧ h.count k = 1 := by
        rw [counter_eq_zero_iff (hh.age ks), count_age_of_not_mem h hk]
        exact ⟨fun h => ⟨hk, by omega⟩, fun h => by omega⟩
      rw [if_neg (by simpa using hk), Checked.subByte_eq_ok hone, ok_bind, hsub]
      simp only [hout]
      rfl

/-- The counters from position `n` on are those of the keys from there on. -/
theorem age_bare {h : Hold} (hh : h.Bounded) (ks : List Key) {n : Nat} {js : List Key}
    (hjs : js.map Fin.val = List.range' n js.length) :
    Bare.Hold.age (marks ks) n (js.map fun k => UInt8.ofNat (h.count k)) =
      .ok ((js.filter fun k => k ∉ ks ∧ h.count k = 1).map upEvent,
        js.map fun k => UInt8.ofNat ((h.age ks).count k)) := by
  induction js generalizing n with
  | nil => rfl
  | cons j js ih =>
    rw [List.length_cons, List.range'_succ, List.map_cons, List.cons.injEq] at hjs
    obtain ⟨rfl, hjs⟩ := hjs
    rw [List.map_cons, Bare.Hold.age, ageOne_bare hh, ok_bind]
    dsimp only
    rw [ih hjs, ok_bind]
    by_cases hj : j ∉ ks ∧ h.count j = 1
    · rw [if_pos hj, List.filter_cons_of_pos (by simpa using hj)]
      rfl
    · rw [if_neg hj, List.filter_cons_of_neg (by simpa using hj)]
      rfl

/-- On the image of a hold table with no counter above eight, no check of a poll fails, and what it
yields and leaves is the image of what the poll of the table does.  No counter comes to be above
eight. -/
theorem poll_bare {hold hold' : Hold} {presses events : List Event} (hh : hold.Bounded)
    (hup : ∀ code, .up code ∉ presses) (h : hold.poll presses = .ok (events, hold')) :
    hold'.Bounded ∧ Bare.Hold.poll hold.bare presses = .ok (events, hold'.bare) := by
  obtain ⟨opening, hold₁, pressed, hpressing, rfl, rfl⟩ := pressing_of_poll hup h
  obtain ⟨hbounded, hpress⟩ := hpressing.bare hh []
  have hkeys : (List.finRange 16).map Fin.val = List.range' 0 (List.finRange 16).length := by decide
  have hage : Bare.Hold.age (marks pressed) 0 hold₁.bare = .ok _ := age_bare hbounded pressed hkeys
  refine ⟨hbounded.age pressed, ?_⟩
  rw [List.append_nil] at hpress
  rw [Bare.Hold.poll, ← marks_nil, hpress, ok_bind]
  dsimp only
  rw [hage, ok_bind]
  rfl

end Hold

end Chip8
