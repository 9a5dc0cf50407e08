import Mathlib.Data.List.FinRange
import Mathlib.Tactic.Choose
import Chip8.Proofs.HeldKeys

/-!
# How long a key is held

A counter is wound up to eight by a press and loses one in every poll without one.  So after a poll
it is eight less the number of polls since the last press (`Polled.count_of_lastPressed`), and it
runs out in the eighth of them (`Polled.expires_iff`).

What a poll tells of a key follows from the counter before it (`about_of_poll`): that the key goes
down, if the counter was zero and is wound up, that it comes up, if the counter was one and is not,
and else nothing.  So everything that was told of the key up to some poll is an alternation of the
two, and the counter is above zero exactly if that has odd length (`Polled.exists_alternating`).

A press winds its counter up before the next event of the same poll is looked at.  To that event it
is as if the key was held before (`passes_refresh`), and so the events passed on are read off the
presses and the table before the poll (`Pressing.eq_passedOn`).
-/

namespace Chip8.Hold

def downEvent (k : Key) : Event := .down (UInt8.ofNat k)

/-- What a terminal can tell in a poll: a key was pressed, or something is asked of the console. -/
def Told (e : Event) : Prop := (∃ k : Key, e = downEvent k) ∨ e = .reset ∨ e = .quit

instance : DecidablePred Told := fun _ => inferInstanceAs (Decidable (_ ∨ _ ∨ _))

/-- The event is that the key goes down or comes up. -/
def About (k : Key) (e : Event) : Prop := e = downEvent k ∨ e = upEvent k

instance (k : Key) : DecidablePred (About k) := fun _ => inferInstanceAs (Decidable (_ ∨ _))

/-- An event with others before it in its poll is passed on, unless it is the press of a key that
was held before the poll or of one that was pressed in it already. -/
def Passes (h : Hold) (earlier : List Event) (e : Event) : Prop :=
  ∀ k : Key, e = downEvent k → h.count k = 0 ∧ e ∉ earlier

instance (h : Hold) (earlier : List Event) (e : Event) : Decidable (h.Passes earlier e) :=
  inferInstanceAs (Decidable (∀ _ : Fin 16, _ → _))

/-- The events of a poll that are passed on, in their order. -/
def passedOn (h : Hold) (presses : List Event) : List Event :=
  (presses.zipIdx.filter fun p => h.Passes (presses.take p.2) p.1).map Prod.fst

/-! ## Events of a key -/

theorem key?_downEvent {code : UInt8} {k : Key} (h : Keypad.key? code = some k) :
    .down code = downEvent k := by
  have hcode := Keypad.key?_eq_some_iff.1 h
  rw [downEvent, ← hcode, UInt8.ofNat_toNat]

theorem ofNat_key_inj {k j : Key} (h : UInt8.ofNat k = UInt8.ofNat j) : k = j := by
  have hsome := Keypad.key?_ofNat k
  rw [h, Keypad.key?_ofNat] at hsome
  exact (Option.some.inj hsome).symm

@[simp] theorem downEvent_inj {k j : Key} : downEvent k = downEvent j ↔ k = j :=
  ⟨fun h => ofNat_key_inj (Event.down.inj h), fun h => h ▸ rfl⟩

@[simp] theorem upEvent_inj {k j : Key} : upEvent k = upEvent j ↔ k = j :=
  ⟨fun h => ofNat_key_inj (Event.up.inj h), fun h => h ▸ rfl⟩

@[simp] theorem downEvent_ne_upEvent {k j : Key} : downEvent k ≠ upEvent j := nofun

theorem downEvent_ne_control {e : Event} (h : e.control? ≠ none) (k : Key) : e ≠ downEvent k := by
  rintro rfl
  exact h rfl

@[simp] theorem about_downEvent {k j : Key} : About j (downEvent k) ↔ k = j := by simp [About]

@[simp] theorem about_upEvent {k j : Key} : About j (upEvent k) ↔ k = j :=
  ⟨fun h => h.elim nofun upEvent_inj.1, fun h => .inr (h ▸ rfl)⟩

theorem not_about_control {e : Event} (h : e.control? ≠ none) (k : Key) : ¬ About k e := by
  rintro (rfl | rfl)
  · exact h rfl
  · exact h rfl

/-! ## Presses of one poll -/

theorem up_not_mem_of_told {presses : List Event} (htold : ∀ e ∈ presses, Told e) (code : UInt8) :
    .up code ∉ presses := by
  intro hmem
  rcases htold _ hmem with ⟨k, hk⟩ | h | h
  · cases hk
  · cases h
  · cases h

/-- What a terminal can tell is always taken. -/
theorem exists_press (h : Hold) {presses : List Event} (htold : ∀ e ∈ presses, Told e) :
    ∃ r, h.press presses = .ok r := by
  induction presses generalizing h with
  | nil => exact ⟨_, rfl⟩
  | cons e rest ih =>
    have hrest : ∀ e ∈ rest, Told e := fun e he => htold e (.tail _ he)
    rcases htold e (.head _) with ⟨k, rfl⟩ | rfl | rfl
    · obtain ⟨r, hr⟩ := ih (h.refresh k) hrest
      rw [downEvent, press, Keypad.key?_ofNat]
      simp only [hr]
      exact ⟨_, rfl⟩
    · obtain ⟨r, hr⟩ := ih h hrest
      simp only [press, hr]
      exact ⟨_, rfl⟩
    · obtain ⟨r, hr⟩ := ih h hrest
      simp only [press, hr]
      exact ⟨_, rfl⟩

theorem exists_poll (h : Hold) {presses : List Event} (htold : ∀ e ∈ presses, Told e) :
    ∃ r : List Event × Hold, h.poll presses = .ok r := by
  obtain ⟨r, hr⟩ := h.exists_press htold
  rw [poll, hr]
  exact ⟨_, rfl⟩

/-! ### Which of them are passed on -/

theorem passes_downEvent {h : Hold} {earlier : List Event} {k : Key} :
    h.Passes earlier (downEvent k) ↔ h.count k = 0 ∧ downEvent k ∉ earlier := by
  simp [Passes]

theorem passes_control (h : Hold) (earlier : List Event) {e : Event} (he : e.control? ≠ none) :
    h.Passes earlier e :=
  fun k hk => absurd hk (downEvent_ne_control he k)

/-- That a key was pressed earlier in the poll is to what follows as if it was held before. -/
theorem passes_refresh {h : Hold} {k : Key} {earlier : List Event} {e : Event} :
    (h.refresh k).Passes earlier e ↔ h.Passes (downEvent k :: earlier) e := by
  refine forall_congr' fun j => imp_congr_right fun hj => ?_
  subst hj
  rw [count_refresh]
  by_cases hjk : j = k
  · simp [hjk, frames]
  · simp [hjk]

theorem passes_cons_control {h : Hold} {control : Event} (hcontrol : control.control? ≠ none)
    {earlier : List Event} {e : Event} :
    h.Passes earlier e ↔ h.Passes (control :: earlier) e := by
  refine forall_congr' fun j => imp_congr_right fun hj => ?_
  subst hj
  simp [(downEvent_ne_control hcontrol j).symm]

/-- The first event is passed on or not, and the rest as by any table that answers as this one does
behind that event. -/
theorem passedOn_cons {h h' : Hold} {e : Event} {rest : List Event}
    (hrest : ∀ earlier e', h'.Passes earlier e' ↔ h.Passes (e :: earlier) e') :
    h.passedOn (e :: rest) =
      if h.Passes [] e then e :: h'.passedOn rest else h'.passedOn rest := by
  have htail : ((rest.zipIdx 1).filter fun p => h.Passes ((e :: rest).take p.2) p.1).map Prod.fst =
      h'.passedOn rest := by
    rw [List.zipIdx_succ, List.filter_map, List.map_map, passedOn]
    simp only [Function.comp_def, hrest, List.take_succ_cons]
    rfl
  rw [passedOn, List.zipIdx_cons, List.filter_cons, List.take_zero]
  by_cases hpasses : h.Passes [] e
  · rw [if_pos hpasses, if_pos (decide_eq_true hpasses), List.map_cons, htail]
  · rw [if_neg hpasses, if_neg (by simpa using hpasses), htail]

namespace Pressing

variable {hold hold' : Hold} {presses events : List Event} {pressed : List Key}

theorem mem_pressed (h : Pressing hold presses events hold' pressed) (j : Key) :
    j ∈ pressed ↔ downEvent j ∈ presses := by
  induction h with
  | nil => simp
  | down hk hrest ih => simp [key?_downEvent hk, ih]
  | control he hrest ih => simp [(downEvent_ne_control he j).symm, ih]

/-- A key that is pressed and not held goes down, and else nothing is told of it. -/
theorem about (h : Pressing hold presses events hold' pressed) (j : Key) :
    events.filter (About j) =
      if downEvent j ∈ presses ∧ hold.count j = 0 then [downEvent j] else [] := by
  induction h with
  | nil => simp
  | @down hold hold' code k rest events pressed hk hrest ih =>
    rw [count_refresh] at ih
    by_cases hj : j = k
    · subst hj
      have hnone : events.filter (About j) = [] := by simpa [frames] using ih
      by_cases hzero : hold.count j = 0
      · simp [hzero, key?_downEvent hk, hnone]
      · simp [hzero, hnone]
    · have hother : (if hold.count k = 0 then .down code :: events else events).filter (About j) =
          events.filter (About j) := by
        split
        · simp [key?_downEvent hk, Ne.symm hj]
        · rfl
      rw [hother, ih, key?_downEvent hk]
      simp [hj]
  | control he hrest ih =>
    rw [List.filter_cons_of_neg (by simpa using not_about_control he j), ih]
    simp [(downEvent_ne_control he j).symm]

/-- An event is passed on or not by the table before the poll and the presses before the event. -/
theorem eq_passedOn (h : Pressing hold presses events hold' pressed) :
    events = hold.passedOn presses := by
  induction h with
  | nil => rfl
  | @down hold hold' code k rest events pressed hk hrest ih =>
    rw [key?_downEvent hk, passedOn_cons fun _ _ => passes_refresh, ← ih]
    refine if_congr ?_ rfl rfl
    simp [passes_downEvent]
  | @control hold hold' e rest events pressed he hrest ih =>
    rw [passedOn_cons fun _ _ => passes_cons_control he, ← ih, if_pos (hold.passes_control [] he)]

end Pressing

theorem filter_passedOn {presses : List Event} (htold : ∀ e ∈ presses, Told e) (h : Hold)
    (j : Key) :
    (h.passedOn presses).filter (About j) =
      if downEvent j ∈ presses ∧ h.count j = 0 then [downEvent j] else [] := by
  obtain ⟨⟨events, h', pressed⟩, hpress⟩ := h.exists_press htold
  have hpressing := pressing_of_press (up_not_mem_of_told htold) hpress
  rw [← hpressing.eq_passedOn, hpressing.about]

/-! ## One poll -/

/-- Keys that come up in ascending order come up once each. -/
theorem filter_upEvents {ks : List Key} (hks : ks.Pairwise (· < ·)) (j : Key) :
    (ks.map upEvent).filter (About j) = if j ∈ ks then [upEvent j] else [] := by
  induction hks with
  | nil => rfl
  | @cons k ks hk hks ih =>
    rw [List.map_cons, List.filter_cons, ih]
    by_cases hj : j = k
    · subst hj
      have hnot : j ∉ ks := fun hmem => absurd (hk j hmem) (lt_irrefl j)
      simp [hnot]
    · simp [hj, Ne.symm hj]

theorem pairwise_expiring (h : Hold) (pressed : List Key) :
    (h.expiring pressed).Pairwise (· < ·) :=
  (List.pairwise_lt_finRange 16).filter _

section Told

variable {hold hold' : Hold} {presses events : List Event}
  (htold : ∀ e ∈ presses, Told e) (h : hold.poll presses = .ok (events, hold'))

include htold h

theorem count_of_poll (j : Key) :
    hold'.count j = if downEvent j ∈ presses then frames else hold.count j - 1 := by
  obtain ⟨opening, hold₁, pressed, hpressing, -, rfl⟩ :=
    pressing_of_poll (up_not_mem_of_told htold) h
  have hmem := hpressing.mem_pressed j
  rcases hpressing.count j with ⟨hj, hcount⟩ | ⟨hj, hcount⟩
  · rw [if_pos (hmem.1 hj), count_age_of_mem _ hj, hcount]
  · rw [if_neg (mt hmem.2 hj), count_age_of_not_mem _ hj, hcount]

/-- What is passed on comes first, and then come up the keys whose counters have run out. -/
theorem exists_ups_of_poll :
    ∃ ups : List Key, events = hold.passedOn presses ++ ups.map upEvent ∧
      ups.Pairwise (· < ·) ∧ ∀ j, j ∈ ups ↔ downEvent j ∉ presses ∧ hold.count j = 1 := by
  obtain ⟨opening, hold₁, pressed, hpressing, rfl, -⟩ :=
    pressing_of_poll (up_not_mem_of_told htold) h
  refine ⟨hold₁.expiring pressed, ?_, pairwise_expiring hold₁ pressed, fun j => ?_⟩
  · rw [hpressing.eq_passedOn]
  · rw [mem_expiring, ← hpressing.mem_pressed]
    refine and_congr_right fun hj => ?_
    rcases hpressing.count j with ⟨hmem, -⟩ | ⟨-, hcount⟩
    · exact absurd hmem hj
    · rw [hcount]

/-- A poll tells of a key once, if at all. -/
theorem about_of_poll (j : Key) :
    events.filter (About j) =
      if downEvent j ∈ presses then if hold.count j = 0 then [downEvent j] else []
      else if hold.count j = 1 then [upEvent j] else [] := by
  obtain ⟨ups, rfl, hups, hmem⟩ := exists_ups_of_poll htold h
  rw [List.filter_append, filter_passedOn htold, filter_upEvents hups]
  by_cases hj : downEvent j ∈ presses
  · simp [hmem, hj]
  · simp [hmem, hj]

theorem length_about_of_poll (j : Key) : (events.filter (About j)).length ≤ 1 := by
  rw [about_of_poll htold h]
  split
  · split <;> simp
  · split <;> simp

theorem upEvent_mem_of_poll (j : Key) :
    upEvent j ∈ events ↔ downEvent j ∉ presses ∧ hold.count j = 1 := by
  have habout : upEvent j ∈ events ↔ upEvent j ∈ events.filter (About j) := by simp
  rw [habout, about_of_poll htold h]
  by_cases hj : downEvent j ∈ presses
  · simp [hj, downEvent_ne_upEvent.symm]
  · simp [hj]

end Told

/-! ## Polls in a row -/

/-- From a table of nothing, polls yield these events and tables. -/
structure Polled (presses events : Nat → List Event) (hold : Nat → Hold) : Prop where
  start : hold 0 = .empty
  told : ∀ n, ∀ e ∈ presses n, Told e
  poll : ∀ n, (hold n).poll (presses n) = .ok (events n, hold (n + 1))

theorem exists_polled {presses : Nat → List Event} (htold : ∀ n, ∀ e ∈ presses n, Told e) :
    ∃ events hold, Polled presses events hold := by
  have hpoll : ∀ (n : Nat) (h : Hold), ∃ r : List Event × Hold, h.poll (presses n) = .ok r :=
    fun n h => h.exists_poll (htold n)
  choose next hnext using hpoll
  let hold : Nat → Hold := Nat.rec .empty fun n h => (next n h).2
  exact ⟨fun n => (next n (hold n)).1, hold, rfl, htold, fun n => hnext n (hold n)⟩

/-- The last of the polls up to `n` in which the key was pressed is `m`. -/
def LastPressed (presses : Nat → List Event) (k : Key) (m n : Nat) : Prop :=
  m ≤ n ∧ downEvent k ∈ presses m ∧ ∀ j, m < j → j ≤ n → downEvent k ∉ presses j

/-- What was told of a key in the first `n` polls. -/
def toldOf (events : Nat → List Event) (k : Key) (n : Nat) : List Event :=
  ((List.range n).flatMap events).filter (About k)

/-- The key goes down and comes up in turns, `l` times in all. -/
def alternating (k : Key) (l : Nat) : List Event :=
  (List.range l).map fun i => if i % 2 = 0 then downEvent k else upEvent k

theorem alternating_succ (k : Key) (l : Nat) :
    alternating k (l + 1) = alternating k l ++ [if l % 2 = 0 then downEvent k else upEvent k] := by
  rw [alternating, List.range_succ, List.map_append]
  rfl

theorem length_alternating (k : Key) (l : Nat) : (alternating k l).length = l := by
  rw [alternating, List.length_map, List.length_range]

theorem getLast?_alternating {k : Key} {l : Nat} :
    (alternating k l).getLast? = some (downEvent k) ↔ l % 2 = 1 := by
  cases l with
  | zero => simp [alternating]
  | succ l =>
    rw [alternating_succ, List.getLast?_concat, Option.some_inj]
    by_cases hl : l % 2 = 0
    · rw [if_pos hl]
      exact iff_of_true rfl (by omega)
    · rw [if_neg hl]
      exact iff_of_false downEvent_ne_upEvent.symm (by omega)

section LastPressed

variable {presses : Nat → List Event} {k : Key}

theorem lastPressed_self {n : Nat} (h : downEvent k ∈ presses n) : LastPressed presses k n n :=
  ⟨Nat.le_refl n, h, fun j hnj hjn => absurd hjn (by omega)⟩

theorem lastPressed_succ {m n : Nat} (hmn : m ≤ n) :
    LastPressed presses k m (n + 1) ↔
      LastPressed presses k m n ∧ downEvent k ∉ presses (n + 1) := by
  constructor
  · rintro ⟨-, hm, hsince⟩
    exact ⟨⟨hmn, hm, fun j hmj hjn => hsince j hmj (by omega)⟩, hsince (n + 1) (by omega) le_rfl⟩
  · rintro ⟨⟨-, hm, hsince⟩, hn⟩
    refine ⟨by omega, hm, fun j hmj hjn => ?_⟩
    rcases Nat.le_succ_iff.1 hjn with hle | rfl
    · exact hsince j hmj hle
    · exact hn

theorem exists_lastPressed_or (presses : Nat → List Event) (k : Key) (n : Nat) :
    (∃ m, LastPressed presses k m n) ∨ ∀ m ≤ n, downEvent k ∉ presses m := by
  induction n with
  | zero =>
    by_cases h : downEvent k ∈ presses 0
    · exact .inl ⟨0, lastPressed_self h⟩
    · exact .inr fun m hm => Nat.le_zero.1 hm ▸ h
  | succ n ih =>
    by_cases h : downEvent k ∈ presses (n + 1)
    · exact .inl ⟨n + 1, lastPressed_self h⟩
    · rcases ih with ⟨m, hlast⟩ | hnever
      · exact .inl ⟨m, (lastPressed_succ hlast.1).2 ⟨hlast, h⟩⟩
      · refine .inr fun m hm => ?_
        rcases Nat.le_succ_iff.1 hm with hle | rfl
        · exact hnever m hle
        · exact h

end LastPressed

namespace Polled

variable {presses events : Nat → List Event} {hold : Nat → Hold} {k : Key}
  (h : Polled presses events hold)

include h

theorem count_succ (k : Key) (n : Nat) :
    (hold (n + 1)).count k =
      if downEvent k ∈ presses n then frames else (hold n).count k - 1 :=
  count_of_poll (h.told n) (h.poll n) k

theorem count_of_lastPressed {m n : Nat} (hlast : LastPressed presses k m n) :
    (hold (n + 1)).count k = frames - (n - m) := by
  have hmn := hlast.1
  induction n, hmn using Nat.le_induction with
  | base => rw [h.count_succ, if_pos hlast.2.1, Nat.sub_self, Nat.sub_zero]
  | succ n hmn ih =>
    obtain ⟨hlast, hn⟩ := (lastPressed_succ hmn).1 hlast
    rw [h.count_succ, if_neg hn, ih hlast]
    omega

theorem count_of_unpressed {n : Nat} (hnever : ∀ m < n, downEvent k ∉ presses m) :
    (hold n).count k = 0 := by
  induction n with
  | zero => rw [h.start, count_empty]
  | succ n ih =>
    have hn := ih fun m hm => hnever m (by omega)
    rw [h.count_succ, if_neg (hnever n (Nat.lt_succ_self n)), hn]

/-- A counter runs out in the eighth poll after the last press. -/
theorem expires_iff {n : Nat} :
    downEvent k ∉ presses n ∧ (hold n).count k = 1 ↔
      ∃ m, m + 8 = n ∧ LastPressed presses k m n := by
  cases n with
  | zero =>
    rw [h.start, count_empty]
    simp
  | succ n =>
    constructor
    · rintro ⟨hn, hcount⟩
      rcases exists_lastPressed_or presses k n with ⟨m, hlast⟩ | hnever
      · rw [h.count_of_lastPressed hlast, frames] at hcount
        exact ⟨m, by omega, (lastPressed_succ hlast.1).2 ⟨hlast, hn⟩⟩
      · rw [h.count_of_unpressed fun m hm => hnever m (by omega)] at hcount
        cases hcount
    · rintro ⟨m, hm, hlast⟩
      obtain ⟨hlast, hn⟩ := (lastPressed_succ (by omega)).1 hlast
      refine ⟨hn, ?_⟩
      rw [h.count_of_lastPressed hlast, frames]
      omega

/-- A key goes down when its counter leaves zero and comes up when it comes back to zero. -/
theorem exists_alternating (k : Key) (n : Nat) :
    ∃ l, toldOf events k n = alternating k l ∧ (l % 2 = 1 ↔ 0 < (hold n).count k) := by
  induction n with
  | zero => exact ⟨0, rfl, by rw [h.start, count_empty]; decide⟩
  | succ n ih =>
    obtain ⟨l, hl, hcount⟩ := ih
    have hnext : toldOf events k (n + 1) = toldOf events k n ++ (events n).filter (About k) := by
      rw [toldOf, List.range_succ, List.flatMap_append, List.filter_append, List.flatMap_singleton]
      rfl
    rw [hnext, hl, about_of_poll (h.told n) (h.poll n), h.count_succ]
    by_cases hn : downEvent k ∈ presses n
    · rw [if_pos hn, if_pos hn]
      by_cases hzero : (hold n).count k = 0
      · have heven : l % 2 = 0 := by omega
        refine ⟨l + 1, ?_, ?_⟩
        · rw [alternating_succ, if_pos hzero, if_pos heven]
        · rw [frames]
          omega
      · refine ⟨l, by rw [if_neg hzero, List.append_nil], ?_⟩
        rw [frames]
        omega
    · rw [if_neg hn, if_neg hn]
      by_cases hone : (hold n).count k = 1
      · have hodd : l % 2 ≠ 0 := by omega
        refine ⟨l + 1, ?_, by omega⟩
        rw [alternating_succ, if_pos hone, if_neg hodd]
      · exact ⟨l, by rw [if_neg hone, List.append_nil], by omega⟩

/-- First comes what a poll passes on, and then the keys come up that were last pressed eight polls
ago. -/
theorem exists_ups (n : Nat) :
    ∃ ups : List Key, events n = (hold n).passedOn (presses n) ++ ups.map upEvent ∧
      ups.Pairwise (· < ·) ∧ ∀ k, k ∈ ups ↔ ∃ m, m + 8 = n ∧ LastPressed presses k m n := by
  obtain ⟨ups, hevents, hups, hmem⟩ := exists_ups_of_poll (h.told n) (h.poll n)
  exact ⟨ups, hevents, hups, fun k => (hmem k).trans h.expires_iff⟩

end Polled

/-- From a table of nothing, whatever a terminal tells in its polls, they all succeed.  After each
of them the counter of a key is eight less the number of polls since its last press, and zero if
there was none or more than eight.  What was told of a key is by turns that it goes down and that
it comes up, at most one of them in a poll, and its counter is above zero exactly while the last was
that it goes down.  A key comes up exactly in the eighth poll after its last press.  And each
poll tells of what is passed on of its own presses, in their order, and then of the keys that come
up, in theirs. -/
theorem polls_follow_presses {presses : Nat → List Event} (htold : ∀ n, ∀ e ∈ presses n, Told e) :
    ∃ (events : Nat → List Event) (hold : Nat → Hold), hold 0 = .empty ∧ ∀ n,
      (hold n).poll (presses n) = .ok (events n, hold (n + 1)) ∧
      (∀ k : Key,
        (∀ m, LastPressed presses k m n → (hold (n + 1)).count k = 8 - (n - m)) ∧
        ((∀ m ≤ n, downEvent k ∉ presses m) → (hold (n + 1)).count k = 0) ∧
        toldOf events k n = alternating k (toldOf events k n).length ∧
        ((events n).filter (About k)).length ≤ 1 ∧
        (0 < (hold n).count k ↔ (toldOf events k n).getLast? = some (downEvent k)) ∧
        (upEvent k ∈ events n ↔ ∃ m, m + 8 = n ∧ LastPressed presses k m n)) ∧
      ∃ ups : List Key, events n = (hold n).passedOn (presses n) ++ ups.map upEvent ∧
        ups.Pairwise (· < ·) ∧ ∀ k, k ∈ ups ↔ ∃ m, m + 8 = n ∧ LastPressed presses k m n := by
  obtain ⟨events, hold, h⟩ := exists_polled htold
  refine ⟨events, hold, h.start, fun n => ⟨h.poll n, fun k => ?_, h.exists_ups n⟩⟩
  obtain ⟨l, hl, hcount⟩ := h.exists_alternating k n
  refine ⟨fun m => h.count_of_lastPressed, fun hnever => ?_, ?_, ?_, ?_, ?_⟩
  · exact h.count_of_unpressed fun m hm => hnever m (Nat.le_of_lt_succ hm)
  · rw [hl, length_alternating]
  · exact length_about_of_poll (h.told n) (h.poll n) k
  · rw [hl, getLast?_alternating, hcount]
  · rw [upEvent_mem_of_poll (h.told n) (h.poll n), h.expires_iff]

/-- Two keys are pressed, one of them twice in a poll and the other again four polls later.  Between
the presses a restart is asked for. -/
theorem polls_follow_presses_of_two_keys :
    let presses : Nat → List Event :=
      ([[.down 5, .reset, .down 5, .down 3], [], [], [], [.down 3]].getD · [])
    (∀ n, ∀ e ∈ presses n, Told e) ∧
    ∃ (events : Nat → List Event) (hold : Nat → Hold), hold 0 = .empty ∧
      (∀ n, (hold n).poll (presses n) = .ok (events n, hold (n + 1))) ∧
      (hold 3).count 5 = 6 ∧ (hold 9).count 5 = 0 ∧ (hold 9).count 3 = 4 ∧
      events 0 = [.down 5, .reset, .down 3] ∧
      .up 5 ∈ events 8 ∧ .up 3 ∉ events 8 ∧ .up 3 ∈ events 12 := by
  intro presses
  have htold : ∀ n, ∀ e ∈ presses n, Told e := by
    intro n
    by_cases hn : n < 5
    · have hfirst : ∀ n < 5, ∀ e ∈ presses n, Told e := by decide
      exact hfirst n hn
    · obtain ⟨m, rfl⟩ := Nat.exists_eq_add_of_le' (Nat.le_of_not_lt hn)
      have hnil : presses (m + 5) = [] := rfl
      rw [hnil]
      exact nofun
  have hfive : ∀ n ≤ 8, LastPressed presses 5 0 n := by
    have hsince : ∀ j < 9, 0 < j → downEvent 5 ∉ presses j := by decide
    exact fun n hn => ⟨Nat.zero_le n, by decide, fun j hj hjn => hsince j (by omega) hj⟩
  have hthree : ∀ n ≤ 12, 4 ≤ n → LastPressed presses 3 4 n := by
    have hsince : ∀ j < 13, 4 < j → downEvent 3 ∉ presses j := by decide
    exact fun n hn h => ⟨h, by decide, fun j hj hjn => hsince j (by omega) hj⟩
  obtain ⟨events, hold, hstart, h⟩ := polls_follow_presses htold
  have hcount : ∀ {k : Key} {m n : Nat}, LastPressed presses k m n →
      (hold (n + 1)).count k = 8 - (n - m) := fun {k m n} => ((h n).2.1 k).1 m
  have hup : ∀ (k : Key) (n : Nat), upEvent k ∈ events n ↔
      ∃ m, m + 8 = n ∧ LastPressed presses k m n := fun k n => ((h n).2.1 k).2.2.2.2.2
  refine ⟨htold, events, hold, hstart, fun n => (h n).1, hcount (hfive 2 (by decide)),
    hcount (hfive 8 (by decide)), hcount (hthree 8 (by decide) (by decide)), ?_,
    (hup 5 8).2 ⟨0, rfl, hfive 8 (by decide)⟩, fun hmem => ?_,
    (hup 3 12).2 ⟨4, rfl, hthree 12 (by decide) (by decide)⟩⟩
  · obtain ⟨ups, hevents, -, hmem⟩ := (h 0).2.2
    have hnone : ups = [] := List.eq_nil_iff_forall_not_mem.2 fun k hk => by
      obtain ⟨m, hm, -⟩ := (hmem k).1 hk
      omega
    rw [hevents, hnone, hstart]
    decide
  · -- The second press came four polls later.
    obtain ⟨m, hm, hlast⟩ := (hup 3 8).1 hmem
    exact hlast.2.2 4 (by omega) (by omega) (by decide)

end Chip8.Hold
