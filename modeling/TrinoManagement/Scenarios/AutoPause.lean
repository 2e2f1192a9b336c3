/-
When TMS pauses a schedule: claims of what is due, the fires of what was claimed, switches by hand, and changes of sets and
runs, in any order and by any number of processes.

A fire counts by its starts (`Fired.mark`). It counts on from the row as it was claimed, and an outcome that the store does
not take is logged and forgotten.
- `Mark.after`: what a mark does to a counter. `RowTurn`: one event is at most one mark of a schedule (`happens_turn`).
- `streak`, `le_streak_iff`: the failed fires since the last started one and the last enabling.
- `run_tick`: a tick is its claim and then the fires of what it took.
- `Counts`, `counts_run`: in an orderly run the stored counter is the streak, and a schedule that is on stays under the limit.
- `paused_iff`: in an orderly run TMS pauses a schedule exactly at the fire that completes the failures.
- `paused_wrongly`: an outcome that was not stored keeps a schedule on; an enabling between a fire's claim and its record
  does not keep it on.
-/
import Mathlib.Tactic
import TrinoManagement.Bench.ScheduleService
import TrinoManagement.Core.Run
import TrinoManagement.Scenarios.NextSlot

namespace TrinoManagement.Bench

open TrinoManagement.Audit TrinoManagement.Guard
open TrinoManagement.Run (Meets meets_append run run_append run_inv run_snoc)

/-! ## Marks -/

/-- what an event was for a schedule -/
inductive Mark where
  | started
  | failed
  | skipped
  | enabled
  | disabled
deriving DecidableEq, Repr

/-- some cluster started; none did, and some failed for another reason than a running benchmark; or neither -/
def Fired.mark (fired : Fired) : Mark :=
  if fired.started ≠ [] then .started
  else if fired.refused.any fun n => !n.skipped then .failed
  else .skipped

/-- a fire never raises (`fireNoted_leaves`) -/
def Noted.mark (noted : Noted) : Mark :=
  match noted.result with
  | .ok fired => fired.mark
  | .error _ => .skipped

/-- the marks of fires -/
def Mark.isFire : Mark → Bool
  | .started | .failed | .skipped => true
  | .enabled | .disabled => false

/-- a schedule as far as pausing goes: is it on, and the failures it counts -/
structure Counter where
  enabled : Bool
  failures : ℕ
deriving DecidableEq, Repr

def Schedule.counter (row : Schedule) : Counter := ⟨row.enabled, row.consecutiveFailures⟩

def Mark.after (c : Counter) : Mark → Counter
  | .started => { c with failures := 0 }
  | .failed => ⟨c.enabled && decide (c.failures + 1 < failureLimit), c.failures + 1⟩
  | .skipped => c
  | .enabled => ⟨true, 0⟩
  | .disabled => { c with enabled := false }

/-! ## The failures that count -/

def count (n : ℕ) : Mark → ℕ
  | .started | .enabled => 0
  | .failed => n + 1
  | .skipped | .disabled => n

/-- the failed fires since the last started one and the last enabling -/
def streak (marks : List Mark) : ℕ := marks.foldl count 0

/-- so many failed fires at the end, with no started fire and no enabling among them -/
def Stretch (n : ℕ) (marks : List Mark) : Prop :=
  ∃ older since, marks = older ++ since ∧ .started ∉ since ∧ .enabled ∉ since ∧ since.count .failed = n

theorem streak_snoc (marks : List Mark) (m : Mark) : streak (marks ++ [m]) = count (streak marks) m := by
  simp [streak, List.foldl_append]

/-- a stretch is empty, or it goes on with a mark that does not reset -/
theorem stretch_snoc {n : ℕ} {marks : List Mark} {m : Mark} : Stretch n (marks ++ [m]) ↔
    n = 0 ∨ (m ≠ .started ∧ m ≠ .enabled ∧ ∃ k, Stretch k marks ∧ n = k + [m].count .failed) := by
  constructor
  · intro h
    obtain ⟨older, since, hsplit, hstarted, henabled, rfl⟩ := h
    rcases List.eq_nil_or_concat since with rfl | ⟨since, x, rfl⟩
    · exact .inl rfl
    · rw [List.concat_eq_append] at hsplit hstarted henabled ⊢
      rw [← List.append_assoc] at hsplit
      obtain ⟨hmarks, hlast⟩ := List.append_inj' hsplit rfl
      obtain rfl : m = x := List.singleton_inj.1 hlast
      rw [List.mem_append, not_or, List.mem_singleton] at hstarted henabled
      refine .inr ⟨Ne.symm hstarted.2, Ne.symm henabled.2, since.count .failed, ?_, List.count_append⟩
      exact ⟨older, since, hmarks, hstarted.1, henabled.1, rfl⟩
  · intro h
    rcases h with rfl | ⟨hstarted, henabled, k, ⟨older, since, rfl, hstarted', henabled', rfl⟩, rfl⟩
    · exact ⟨marks ++ [m], [], by simp, by simp, by simp, rfl⟩
    · refine ⟨older, since ++ [m], List.append_assoc .., ?_, ?_, List.count_append⟩
      · rw [List.mem_append, List.mem_singleton]
        exact not_or.2 ⟨hstarted', Ne.symm hstarted⟩
      · rw [List.mem_append, List.mem_singleton]
        exact not_or.2 ⟨henabled', Ne.symm henabled⟩

/-- **The streak** is as long as the longest such stretch. -/
theorem le_streak_iff {n : ℕ} {marks : List Mark} : n ≤ streak marks ↔ Stretch n marks := by
  induction marks using List.reverseRecOn generalizing n with
  | nil =>
    constructor
    · intro hn
      obtain rfl : n = 0 := Nat.le_zero.1 hn
      exact ⟨[], [], rfl, by simp, by simp, rfl⟩
    · intro h
      obtain ⟨older, since, hsplit, -, -, hcount⟩ := h
      obtain ⟨-, rfl⟩ := List.append_eq_nil_iff.1 hsplit.symm
      exact hcount ▸ Nat.zero_le _
  | append_singleton marks m ih =>
    rw [streak_snoc, stretch_snoc]
    cases m with
    | started => simp [count]
    | enabled => simp [count]
    | failed =>
      simp only [count, ← ih]
      constructor
      · intro hn
        rcases Nat.eq_zero_or_pos n with hzero | hpos
        · exact .inl hzero
        · exact .inr ⟨by decide, by decide, n - 1, by omega, by rw [List.count_singleton_self]; omega⟩
      · intro h
        rcases h with rfl | ⟨-, -, k, hk, rfl⟩
        · exact Nat.zero_le _
        · rw [List.count_singleton_self]
          omega
    | skipped | disabled =>
      simp only [count, ← ih]
      constructor
      · intro hn
        exact .inr ⟨by decide, by decide, n, hn, rfl⟩
      · intro h
        rcases h with rfl | ⟨-, -, k, hk, rfl⟩
        · exact Nat.zero_le _
        · exact hk

/-! ## Events -/

/-- what may happen, in any order. A claimed row fires, or its process dies before; what a fire starts from `sets` and `runs`
is as they are at its record. -/
inductive HistoryEvent where
  | claim (now : ℤ) (fault : Fault)
  | fire (i : ℕ) (weather : List (Oracle Weather))
  | drop (i : ℕ)
  | switch (weather : List (Oracle Weather)) (principal : Principal) (available : Bool) (id : ℕ) (enabled : Bool)
      (reason : Option String)
  | elsewhere (sets : Sets) (runs : List BenchRun)

def HistoryEvent.isFire : HistoryEvent → Bool
  | .fire .. => true
  | _ => false

/-- the marks so far, of every schedule, where things stand, and the rows that were claimed and have not fired -/
structure History where
  marks : List (ℕ × Mark)
  site : Site BenchWorld
  claimed : List Schedule

def History.start (site : Site BenchWorld) : History := ⟨[], site, []⟩

def marksOf (id : ℕ) (marks : List (ℕ × Mark)) : List Mark := (marks.filter fun m => m.1 = id).map Prod.snd

/-- a switch that was stored -/
def switchMarks (stored : Bool) (id : ℕ) (enabled : Bool) : List (ℕ × Mark) :=
  if stored then [(id, if enabled then .enabled else .disabled)] else []

/-- the rows of a claim; one that fails is logged, and nothing is fired -/
def takenRows (claimed : Except String (List Schedule)) : List Schedule := claimed.toOption.getD []

section Step

variable (lib : Lib) (cfg : BenchConfig) (b : Backend)

def happens (h : History) : HistoryEvent → List (ℕ × Mark) × Site BenchWorld × List Schedule
  | .claim now fault =>
    let r := claim b now fault h.site.service
    ([], ⟨r.2, h.site.log⟩, h.claimed ++ takenRows r.1)
  | .fire i weather =>
    match h.claimed[i]? with
    | none => ([], h.site, h.claimed)
    | some row =>
      let r := fireNoted lib cfg b weather row h.site
      ([(r.1.id, r.1.mark)], r.2, h.claimed.eraseIdx i)
  | .drop i => ([], h.site, h.claimed.eraseIdx i)
  | .switch weather principal available id enabled reason =>
    let r := switchNoted weather principal available id enabled reason h.site
    (switchMarks r.1 id enabled, r.2, h.claimed)
  | .elsewhere sets runs => ([], ⟨{ h.site.service with sets := sets, runs := runs }, h.site.log⟩, h.claimed)

def next (h : History) (e : HistoryEvent) : History :=
  let r := happens lib cfg b h e
  ⟨h.marks ++ r.1, r.2.1, r.2.2⟩

end Step

theorem marksOf_append (id : ℕ) (marks more : List (ℕ × Mark)) :
    marksOf id (marks ++ more) = marksOf id marks ++ marksOf id more := by
  simp [marksOf]

theorem marksOf_cons (id : ℕ) (m : ℕ × Mark) (marks : List (ℕ × Mark)) :
    marksOf id (m :: marks) = if m.1 = id then m.2 :: marksOf id marks else marksOf id marks := by
  by_cases h : m.1 = id
  · simp [marksOf, h]
  · simp [marksOf, h]

/-! ## The row of a schedule -/

theorem ids_onRow {rows : List Schedule} {id : ℕ} {f : Schedule → Schedule} (hf : ∀ row, (f row).id = row.id) :
    (onRow id f rows).map Schedule.id = rows.map Schedule.id := by
  unfold onRow
  rw [List.map_map]
  refine List.map_congr_left ?_
  intro row _
  simp only [Function.comp]
  split_ifs
  · exact hf row
  · rfl

theorem record_id (outcome : FireOutcome) (row : Schedule) : (row.record outcome).id = row.id := rfl

theorem claimed_id (now : ℤ) (row : Schedule) : (row.claimed now).id = row.id := by
  unfold Schedule.claimed
  split_ifs <;> rfl

/-! ## One event, one row -/

/-- what an event is for a row: nothing, one fire while it is on, or one switch -/
inductive RowTurn (r : Schedule) : List Mark → Schedule → Prop where
  | rests (r' : Schedule) (hsame : r'.counter = r.counter) : RowTurn r [] r'
  | fires (m : Mark) (r' : Schedule) (hfire : m.isFire = true) (hon : r.enabled = true)
      (hafter : r'.counter = m.after r.counter) (hreason : r'.enabled = false → r'.pausedReason ≠ none) : RowTurn r [m] r'
  | switched (m : Mark) (r' : Schedule) (hfire : m.isFire = false) (hafter : r'.counter = m.after r.counter) : RowTurn r [m] r'

theorem RowTurn.congr {r r' s : Schedule} {marks : List Mark} (h : RowTurn r marks r') (hsame : r.counter = s.counter) :
    RowTurn s marks r' := by
  have hon : r.enabled = s.enabled := congrArg Counter.enabled hsame
  cases h with
  | rests _ h => exact .rests _ (h.trans hsame)
  | fires m _ hfire henabled hafter hreason => exact .fires m _ hfire (hon ▸ henabled) (hsame ▸ hafter) hreason
  | switched m _ hfire hafter => exact .switched m _ hfire (hsame ▸ hafter)

/-- **The outcome of a fire** does to the counter what its mark does. -/
theorem record_counter {row r : Schedule} {started : List String} {refused : List NotStarted} {lastRunAt : ℤ}
    (hsame : row.counter = r.counter) (hon : r.enabled = true) :
    (r.record (outcomeOf row lastRunAt started refused)).counter =
        (Fired.mark ⟨row.name, started, refused⟩).after r.counter ∧
      ((r.record (outcomeOf row lastRunAt started refused)).enabled = false →
        (r.record (outcomeOf row lastRunAt started refused)).pausedReason ≠ none) := by
  have hfailures : row.consecutiveFailures = r.consecutiveFailures := congrArg Counter.failures hsame
  unfold outcomeOf Fired.mark
  by_cases hstarted : started ≠ []
  · rw [if_pos hstarted, if_pos hstarted]
    exact ⟨rfl, fun hoff => by simp [Schedule.record, hon] at hoff⟩
  rw [if_neg hstarted, if_neg hstarted]
  cases hbroke : refused.filter (!·.skipped) with
  | nil =>
    have hany : ¬(refused.any fun n => !n.skipped) = true := by
      rw [List.any_eq_true, not_exists]
      intro n hn
      have hmem : n ∈ refused.filter (!·.skipped) := List.mem_filter.2 hn
      rw [hbroke] at hmem
      cases hmem
    rw [if_neg hany]
    exact ⟨rfl, fun hoff => by simp [Schedule.record, hon] at hoff⟩
  | cons first rest =>
    have hany : (refused.any fun n => !n.skipped) = true := by
      have hmem : first ∈ refused.filter (!·.skipped) := hbroke ▸ List.mem_cons_self
      exact List.any_eq_true.2 ⟨first, List.mem_filter.1 hmem⟩
    rw [if_pos hany, hfailures]
    by_cases hlimit : failureLimit ≤ r.consecutiveFailures + 1
    · simp [Schedule.record, Schedule.counter, Mark.after, hlimit, not_lt.2 hlimit]
    · simp [Schedule.record, Schedule.counter, Mark.after, hlimit, hon, not_le.1 hlimit]

section Turns

variable {lib : Lib} {cfg : BenchConfig} {b : Backend} {id : ℕ} {r : Schedule}

theorem fireNoted_id {os : List (Oracle Weather)} {row : Schedule} {site : Site BenchWorld} :
    (fireNoted lib cfg b os row site).1.id = row.id := rfl

/-- a fire of the row itself, which is as it was claimed, and whose outcome is stored -/
theorem fireNoted_own {os : List (Oracle Weather)} {row : Schedule} {site : Site BenchWorld}
    (hr : rowOf site.service.schedules id = some r) (hown : row.id = id) (hsame : row.counter = r.counter)
    (hon : r.enabled = true) (hstored : (fireNoted lib cfg b os row site).1.recorded = true) :
    ∃ r', rowOf (fireNoted lib cfg b os row site).2.service.schedules id = some r' ∧
      RowTurn r [(fireNoted lib cfg b os row site).1.mark] r' := by
  have hleaves := fireNoted_leaves lib cfg b os row site
  generalize fireNoted lib cfg b os row site = after at hleaves hstored ⊢
  obtain ⟨⟨whose, result, flag⟩, site'⟩ := after
  cases hleaves with
  | recorded started refused lastRunAt _ hnote hrows =>
    obtain ⟨hafter, hreason⟩ := @record_counter row r started refused lastRunAt hsame hon
    refine ⟨r.record (outcomeOf row lastRunAt started refused), ?_, .fires _ _ ?_ hon hafter hreason⟩
    · dsimp only at hrows ⊢
      rw [hrows, rowOf_onRow (record_id _), hr, Option.map_some, if_pos (by rw [rowOf_id hr, hown])]
    · unfold Noted.mark Fired.mark
      dsimp only
      split_ifs <;> rfl
  | unrecorded fired _ hnote hrows => exact absurd (hnote.symm.trans hstored) (by decide)

/-- a fire of another schedule -/
theorem fireNoted_other {os : List (Oracle Weather)} {row : Schedule} {site : Site BenchWorld}
    (hr : rowOf site.service.schedules id = some r) (hother : row.id ≠ id) :
    rowOf (fireNoted lib cfg b os row site).2.service.schedules id = some r := by
  have hleaves := fireNoted_leaves lib cfg b os row site
  generalize fireNoted lib cfg b os row site = after at hleaves ⊢
  obtain ⟨⟨whose, result, flag⟩, site'⟩ := after
  cases hleaves with
  | recorded started refused lastRunAt _ hnote hrows =>
    dsimp only at hrows ⊢
    rw [hrows, rowOf_onRow (record_id _), hr, Option.map_some, if_neg (by rw [rowOf_id hr]; exact Ne.symm hother)]
  | unrecorded fired _ hnote hrows =>
    rw [← hr]
    exact congrArg (rowOf · id) hrows

theorem fireNoted_ids {os : List (Oracle Weather)} {row : Schedule} {site : Site BenchWorld} :
    (fireNoted lib cfg b os row site).2.service.schedules.map Schedule.id = site.service.schedules.map Schedule.id := by
  have hleaves := fireNoted_leaves lib cfg b os row site
  generalize fireNoted lib cfg b os row site = after at hleaves ⊢
  obtain ⟨⟨whose, result, flag⟩, site'⟩ := after
  cases hleaves with
  | recorded started refused lastRunAt _ hnote hrows =>
    dsimp only at hrows ⊢
    rw [hrows, ids_onRow (record_id _)]
  | unrecorded fired _ hnote hrows => exact congrArg (List.map Schedule.id) hrows

/-- a claim leaves a row that counts as it did -/
theorem claimed_counter (now : ℤ) (row : Schedule) : (row.claimed now).counter = row.counter := by
  unfold Schedule.claimed
  split_ifs <;> rfl

theorem due_enabled {row : Schedule} {now : ℤ} (h : row.due now = true) : row.enabled = true :=
  (Bool.and_eq_true_iff.1 h).1

/-- the row that is found is the one with its id -/
theorem rowOf_of_mem {rows : List Schedule} {row : Schedule} (hids : (rows.map Schedule.id).Nodup) (hrow : row ∈ rows) :
    rowOf rows row.id = some row := by
  unfold rowOf
  cases hfound : rows.find? fun row' => row'.id = row.id with
  | none =>
    have hnone := List.find?_eq_none.1 hfound row hrow
    simp at hnone
  | some row' =>
    have hid : row'.id = row.id := rowOf_id hfound
    rw [List.inj_on_of_nodup_map hids (List.mem_of_find?_eq_some hfound) hrow hid]

/-- **A claim.** -/
theorem claim_turn {now : ℤ} {fault : Fault} {w : BenchWorld} (hr : rowOf w.schedules id = some r) :
    ∃ r', rowOf (claim b now fault w).2.schedules id = some r' ∧ RowTurn r [] r' := by
  have hclaim : (claimIn b now w.schedules) = _ := (claimIn_eq b now _).trans (claimDue_eq now _)
  have hmoved : rowOf (w.schedules.map fun row => row.claimed now) id = some (r.claimed now) := by
    rw [rowOf_map (claimed_id now), hr, Option.map_some]
  unfold claim
  rw [hclaim, strike_taken]
  split_ifs
  · exact ⟨r.claimed now, hmoved, .rests _ (claimed_counter now r)⟩
  · exact ⟨r, hr, .rests r rfl⟩

theorem claim_ids {now : ℤ} {fault : Fault} {w : BenchWorld} :
    (claim b now fault w).2.schedules.map Schedule.id = w.schedules.map Schedule.id := by
  have hclaim : (claimIn b now w.schedules) = _ := (claimIn_eq b now _).trans (claimDue_eq now _)
  unfold claim
  rw [hclaim, strike_taken]
  split_ifs
  · rw [List.map_map]
    exact List.map_congr_left fun row _ => claimed_id now row
  · rfl

/-- what is claimed is on -/
theorem claim_enabled {now : ℤ} {fault : Fault} {w : BenchWorld} :
    ∀ row ∈ takenRows (claim b now fault w).1, row.enabled = true := by
  have hclaim : (claimIn b now w.schedules) = _ := (claimIn_eq b now _).trans (claimDue_eq now _)
  unfold claim
  rw [hclaim]
  cases fault with
  | failed m => exact fun row hrow => absurd hrow List.not_mem_nil
  | lost m => exact fun row hrow => absurd hrow List.not_mem_nil
  | none =>
    intro row hrow
    obtain ⟨stored, hstored, rfl⟩ := List.mem_map.1 hrow
    have hon : stored.enabled = true := due_enabled (List.mem_filter.1 hstored).2
    exact hon

/-- **A switch.** -/
theorem switch_turn {weather : List (Oracle Weather)} {principal : Principal} {available : Bool} {id' : ℕ} {enabled : Bool}
    {reason : Option String} {site : Site BenchWorld} (hr : rowOf site.service.schedules id = some r) :
    ∃ r', rowOf (switchNoted weather principal available id' enabled reason site).2.service.schedules id = some r' ∧
      RowTurn r (marksOf id (switchMarks (switchNoted weather principal available id' enabled reason site).1 id' enabled))
        r' := by
  have hleaves := switchNoted_leaves weather principal available id' enabled reason site
  generalize switchNoted weather principal available id' enabled reason site = after at hleaves ⊢
  obtain ⟨flag, w, log⟩ := after
  cases hleaves with
  | alone => exact ⟨r, hr, .rests r rfl⟩
  | changed row now hrow =>
    dsimp only
    rw [rowOf_onRow (change_id _), hr, Option.map_some, rowOf_id hr, switchMarks, if_pos rfl, marksOf_cons]
    refine ⟨_, rfl, ?_⟩
    by_cases hown : id = id'
    · rw [if_pos hown, if_pos hown.symm]
      refine .switched _ _ ?_ ?_
      · cases enabled <;> rfl
      · cases enabled <;> rfl
    · rw [if_neg hown, if_neg (Ne.symm hown)]
      exact .rests r rfl

theorem switch_ids {weather : List (Oracle Weather)} {principal : Principal} {available : Bool} {id' : ℕ} {enabled : Bool}
    {reason : Option String} {site : Site BenchWorld} :
    (switchNoted weather principal available id' enabled reason site).2.service.schedules.map Schedule.id =
      site.service.schedules.map Schedule.id := by
  have hleaves := switchNoted_leaves weather principal available id' enabled reason site
  generalize switchNoted weather principal available id' enabled reason site = after at hleaves ⊢
  obtain ⟨flag, w, log⟩ := after
  cases hleaves with
  | alone => rfl
  | changed row now hrow => exact ids_onRow (change_id _)

end Turns

/-! ## Orderly runs -/

/-- when a fire of the schedule is recorded, its row counts as it did at the claim, and the store takes the outcome -/
def Orderly (lib : Lib) (cfg : BenchConfig) (b : Backend) (id : ℕ) (h : History) : HistoryEvent → Prop
  | .fire i weather => ∀ row ∈ h.claimed[i]?, row.id = id →
      (rowOf h.site.service.schedules id).map Schedule.counter = some row.counter ∧
        (fireNoted lib cfg b weather row h.site).1.recorded = true
  | _ => True

instance Orderly.decidable (lib : Lib) (cfg : BenchConfig) (b : Backend) (id : ℕ) (h : History) :
    ∀ e, Decidable (Orderly lib cfg b id h e)
  | .fire i weather => inferInstanceAs (Decidable (∀ row ∈ h.claimed[i]?, row.id = id →
      (rowOf h.site.service.schedules id).map Schedule.counter = some row.counter ∧
        (fireNoted lib cfg b weather row h.site).1.recorded = true))
  | .claim .. => isTrue trivial
  | .drop _ => isTrue trivial
  | .switch .. => isTrue trivial
  | .elsewhere .. => isTrue trivial

section Events

variable {lib : Lib} {cfg : BenchConfig} {b : Backend} {id : ℕ} {r : Schedule} {h : History}

theorem happens_fire_none {i : ℕ} {weather : List (Oracle Weather)} (hrow : h.claimed[i]? = none) :
    happens lib cfg b h (.fire i weather) = ([], h.site, h.claimed) := by
  simp only [happens, hrow]

theorem happens_fire_some {i : ℕ} {weather : List (Oracle Weather)} {row : Schedule} (hrow : h.claimed[i]? = some row) :
    happens lib cfg b h (.fire i weather) =
      ([(row.id, (fireNoted lib cfg b weather row h.site).1.mark)], (fireNoted lib cfg b weather row h.site).2,
        h.claimed.eraseIdx i) := by
  simp only [happens, hrow, fireNoted_id]

/-- **One event** is one turn of each schedule, at most. -/
theorem happens_turn {e : HistoryEvent} (hon : ∀ row ∈ h.claimed, row.enabled = true)
    (hr : rowOf h.site.service.schedules id = some r) (hok : Orderly lib cfg b id h e) :
    ∃ r', rowOf (happens lib cfg b h e).2.1.service.schedules id = some r' ∧
      RowTurn r (marksOf id (happens lib cfg b h e).1) r' := by
  cases e with
  | claim now fault => exact claim_turn hr
  | drop i => exact ⟨r, hr, .rests r rfl⟩
  | switch weather principal available id' enabled reason => exact switch_turn hr
  | elsewhere sets runs => exact ⟨r, hr, .rests r rfl⟩
  | fire i weather =>
    cases hrow : h.claimed[i]? with
    | none =>
      rw [happens_fire_none hrow]
      exact ⟨r, hr, .rests r rfl⟩
    | some row =>
      rw [happens_fire_some hrow]
      dsimp only
      rw [marksOf_cons]
      by_cases hown : row.id = id
      · obtain ⟨hcounter, hstored⟩ := hok row hrow hown
        rw [hr, Option.map_some, Option.some.injEq] at hcounter
        have henabled : r.enabled = true :=
          (congrArg Counter.enabled hcounter).trans (hon row (List.mem_of_getElem? hrow))
        rw [if_pos hown]
        exact fireNoted_own hr hown hcounter.symm henabled hstored
      · rw [if_neg hown]
        exact ⟨r, fireNoted_other hr hown, .rests r rfl⟩

theorem happens_ids {e : HistoryEvent} :
    (happens lib cfg b h e).2.1.service.schedules.map Schedule.id = h.site.service.schedules.map Schedule.id := by
  cases e with
  | claim now fault => exact claim_ids
  | drop i => rfl
  | switch weather principal available id' enabled reason => exact switch_ids
  | elsewhere sets runs => rfl
  | fire i weather =>
    cases hrow : h.claimed[i]? with
    | none => rw [happens_fire_none hrow]
    | some row =>
      rw [happens_fire_some hrow]
      exact fireNoted_ids

/-- what has been claimed was on -/
theorem happens_claimed {e : HistoryEvent} (hon : ∀ row ∈ h.claimed, row.enabled = true) :
    ∀ row ∈ (happens lib cfg b h e).2.2, row.enabled = true := by
  cases e with
  | claim now fault => exact List.forall_mem_append.2 ⟨hon, claim_enabled⟩
  | drop i => exact fun row hrow => hon row (List.mem_of_mem_eraseIdx hrow)
  | switch weather principal available id' enabled reason => exact hon
  | elsewhere sets runs => exact hon
  | fire i weather =>
    cases hrow : h.claimed[i]? with
    | none =>
      rw [happens_fire_none hrow]
      exact hon
    | some row =>
      rw [happens_fire_some hrow]
      exact fun row hrow => hon row (List.mem_of_mem_eraseIdx hrow)

end Events

/-! ## Ticks -/

section Ticks

variable {lib : Lib} {cfg : BenchConfig} {b : Backend} {h : History}

/-- the fires of what is at the head of the claimed rows -/
def fires : List (List (Oracle Weather)) → List Schedule → List HistoryEvent
  | _, [] => []
  | weather, _ :: rows => .fire 0 (weather.headD []) :: fires weather.tail rows

theorem run_fires {rows later : List Schedule} {weather : List (List (Oracle Weather))} (hclaimed : h.claimed = rows ++ later) :
    (run (next lib cfg b) h (fires weather rows)).site = (fireEach (fireNoted lib cfg b) weather rows h.site).2 := by
  induction rows generalizing h weather with
  | nil => rfl
  | cons row rows ih =>
    have hnext : next lib cfg b h (.fire 0 (weather.headD [])) =
        ⟨h.marks ++ [(row.id, (fireNoted lib cfg b (weather.headD []) row h.site).1.mark)],
          (fireNoted lib cfg b (weather.headD []) row h.site).2, rows ++ later⟩ := by
      simp [next, happens, hclaimed, fireNoted_id]
    rw [fires, Run.run_cons, hnext, fireEach]
    exact ih rfl

/-- **A tick** of the source is its claim and then the fires of what it took, with nothing between. -/
theorem run_tick (hnone : h.claimed = []) (now : ℤ) (fault : Fault) (weather : List (List (Oracle Weather))) :
    (run (next lib cfg b) h (.claim now fault :: fires weather (takenRows (claim b now fault h.site.service).1))).site =
      (tickSchedules lib cfg b now fault weather h.site).2 := by
  have hclaimed : (next lib cfg b h (.claim now fault)).claimed = takenRows (claim b now fault h.site.service).1 ++ [] := by
    simp [next, happens, hnone]
  have hsite : (next lib cfg b h (.claim now fault)).site = ⟨(claim b now fault h.site.service).2, h.site.log⟩ := rfl
  rw [← tickNoted_site, Run.run_cons, run_fires hclaimed, hsite]
  unfold tickWith
  generalize claim b now fault h.site.service = answer
  obtain ⟨_ | due, w⟩ := answer <;> rfl

end Ticks

/-! ## Runs -/

section Runs

variable {lib : Lib} {cfg : BenchConfig} {b : Backend} {id : ℕ} {r r' : Schedule}

theorem noted_isFire (noted : Noted) : noted.mark.isFire = true := by
  unfold Noted.mark
  split
  · unfold Fired.mark
    split_ifs <;> rfl
  · rfl

theorem switchMarks_isFire {stored enabled : Bool} {id' : ℕ} {m : ℕ × Mark} (hm : m ∈ switchMarks stored id' enabled) :
    m.2.isFire = false := by
  cases stored with
  | false => cases hm
  | true =>
    obtain rfl := List.mem_singleton.1 hm
    cases enabled <;> rfl

/-- only a fire is marked as one -/
theorem isFire_iff {h : History} {e : HistoryEvent} {m : Mark} (hm : m ∈ marksOf id (happens lib cfg b h e).1) :
    e.isFire = true ↔ m.isFire = true := by
  obtain ⟨pair, hpair, rfl⟩ := List.mem_map.1 hm
  have hin := (List.mem_filter.1 hpair).1
  cases e with
  | claim now fault => cases hin
  | drop i => cases hin
  | elsewhere sets runs => cases hin
  | fire i weather =>
    cases hrow : h.claimed[i]? with
    | none =>
      rw [happens_fire_none hrow] at hin
      cases hin
    | some row =>
      rw [happens_fire_some hrow] at hin
      obtain rfl := List.mem_singleton.1 hin
      exact iff_of_true rfl (noted_isFire _)
  | switch weather principal available id' enabled reason =>
    exact iff_of_false Bool.false_ne_true (by rw [switchMarks_isFire hin]; exact Bool.false_ne_true)

/-- where a history stands: the row counts its failures, and is off once there are enough -/
structure Counts (id : ℕ) (h : History) : Prop where
  ids : (h.site.service.schedules.map Schedule.id).Nodup
  row : ∃ r, rowOf h.site.service.schedules id = some r ∧ r.consecutiveFailures = streak (marksOf id h.marks) ∧
    (r.enabled = true → r.consecutiveFailures < failureLimit)
  claimed : ∀ row ∈ h.claimed, row.enabled = true

theorem failures_of_counter {c : Counter} (h : r.counter = c) : r.consecutiveFailures = c.failures :=
  congrArg Counter.failures h

theorem enabled_of_counter {c : Counter} (h : r.counter = c) : r.enabled = c.enabled := congrArg Counter.enabled h

/-- the counter goes with the marks -/
theorem RowTurn.counts {marks : List Mark} (h : RowTurn r marks r') :
    r'.consecutiveFailures = marks.foldl count r.consecutiveFailures := by
  cases h with
  | rests _ hsame => exact congrArg Counter.failures hsame
  | fires m _ hfire hon hafter hreason =>
    rw [failures_of_counter hafter]
    cases m <;> rfl
  | switched m _ hfire hafter =>
    rw [failures_of_counter hafter]
    cases m <;> rfl

/-- and a row that is on stays under the limit -/
theorem RowTurn.under {marks : List Mark} (h : RowTurn r marks r')
    (hlow : r.enabled = true → r.consecutiveFailures < failureLimit) (hon : r'.enabled = true) :
    r'.consecutiveFailures < failureLimit := by
  cases h with
  | rests _ hsame =>
    rw [failures_of_counter hsame]
    exact hlow ((enabled_of_counter hsame).symm.trans hon)
  | fires m _ hfire henabled hafter hreason =>
    rw [failures_of_counter hafter]
    have hswitch := (enabled_of_counter hafter).symm.trans hon
    cases m with
    | started => exact Nat.zero_lt_succ 2
    | failed => exact of_decide_eq_true (Bool.and_eq_true_iff.1 hswitch).2
    | skipped => exact hlow henabled
    | enabled | disabled => cases hfire
  | switched m _ hfire hafter =>
    rw [failures_of_counter hafter]
    have hswitch := (enabled_of_counter hafter).symm.trans hon
    cases m with
    | enabled => exact Nat.zero_lt_succ 2
    | disabled => cases hswitch
    | started | failed | skipped => cases hfire

/-- **Step lemma.** An orderly event keeps the counter. -/
theorem counts_next {h : History} {e : HistoryEvent} (hcounts : Counts id h) (hok : Orderly lib cfg b id h e) :
    Counts id (next lib cfg b h e) := by
  obtain ⟨hids, ⟨r, hr, hstreak, hlow⟩, hclaimed⟩ := hcounts
  obtain ⟨r', hr', hturn⟩ := happens_turn hclaimed hr hok
  refine ⟨?_, ⟨r', hr', ?_, hturn.under hlow⟩, happens_claimed hclaimed⟩
  · change ((happens lib cfg b h e).2.1.service.schedules.map Schedule.id).Nodup
    rw [happens_ids]
    exact hids
  · change _ = streak (marksOf id (h.marks ++ (happens lib cfg b h e).1))
    rw [hturn.counts, hstreak, marksOf_append, streak, streak, List.foldl_append]

theorem counts_run {h : History} {es : List HistoryEvent} (hcounts : Counts id h)
    (hok : Meets (next lib cfg b) (Orderly lib cfg b id) h es) : Counts id (run (next lib cfg b) h es) :=
  run_inv (Counts id) (fun _ _ hcounts hok => counts_next hcounts hok) hok hcounts

/-! ## The pause -/

/-- TMS pauses a schedule at an event: a fire finds it on and leaves it off, with a reason -/
structure Pauses (id : ℕ) (before after : BenchWorld) (e : HistoryEvent) : Prop where
  fire : e.isFire = true
  paused : ∃ r r', before.getSchedule id = some r ∧ after.getSchedule id = some r' ∧ r.enabled = true ∧
    r'.enabled = false ∧ r'.pausedReason ≠ none

/-- what is claimed of an event: it pauses the schedule exactly if it is a failed fire of it, with which there are as many
as the limit, and among them no started fire and no enabling by hand -/
def PausesRightly (lib : Lib) (cfg : BenchConfig) (b : Backend) (id : ℕ) (h : History) (e : HistoryEvent) : Prop :=
  Pauses id h.site.service (next lib cfg b h e).site.service e ↔
    marksOf id (happens lib cfg b h e).1 = [.failed] ∧ Stretch failureLimit (marksOf id (next lib cfg b h e).marks)

/-- **The pause** comes exactly at the failed fire that completes the failures, in every run in which the store takes the
outcome of each fire of the schedule, and finds its row counting as it did at the claim. -/
theorem paused_iff {site : Site BenchWorld} {row : Schedule} (hids : (site.service.schedules.map Schedule.id).Nodup)
    (hrow : row ∈ site.service.schedules) (hnew : row.consecutiveFailures = 0) (es : List HistoryEvent) (e : HistoryEvent)
    (hok : Meets (next lib cfg b) (Orderly lib cfg b row.id) (.start site) (es ++ [e])) :
    PausesRightly lib cfg b row.id (run (next lib cfg b) (.start site) es) e := by
  have hstart : Counts row.id (.start site) := by
    refine ⟨hids, ⟨row, rowOf_of_mem hids hrow, hnew, ?_⟩, fun _ h => absurd h List.not_mem_nil⟩
    intro _
    rw [hnew]
    exact Nat.zero_lt_succ 2
  rw [meets_append] at hok
  have hcounts := counts_run hstart hok.1
  have hlast := hok.2.1
  unfold PausesRightly
  generalize run (next lib cfg b) (.start site) es = h at hcounts hlast ⊢
  obtain ⟨hids, ⟨r, hr, hstreak, hlow⟩, hclaimed⟩ := hcounts
  obtain ⟨r', hr', hturn⟩ := happens_turn hclaimed hr hlast
  have hmarks : marksOf row.id (next lib cfg b h e).marks =
      marksOf row.id h.marks ++ marksOf row.id (happens lib cfg b h e).1 := marksOf_append ..
  have hstreak' : r'.consecutiveFailures = streak (marksOf row.id (next lib cfg b h e).marks) := by
    rw [hturn.counts, hstreak, hmarks, streak, streak, List.foldl_append]
  rw [← le_streak_iff, ← hstreak']
  constructor
  · intro hpauses
    obtain ⟨hfires, s, s', hs, hs', hon, hoff, -⟩ := hpauses
    obtain rfl := Option.some.inj (hr.symm.trans hs)
    obtain rfl := Option.some.inj (hr'.symm.trans hs')
    generalize hnew : marksOf row.id (happens lib cfg b h e).1 = marks at hturn ⊢
    cases hturn with
    | rests _ hsame =>
      rw [enabled_of_counter hsame] at hoff
      exact absurd (hon.symm.trans hoff) (by decide)
    | switched m _ hfire hafter =>
      have hfires' := (isFire_iff (hnew ▸ List.mem_singleton_self m)).1 hfires
      exact absurd (hfires'.symm.trans hfire) (by decide)
    | fires m _ hfire henabled hafter hreason =>
      rw [enabled_of_counter hafter] at hoff
      cases m with
      | failed =>
        rw [failures_of_counter hafter]
        refine ⟨rfl, ?_⟩
        by_contra hfew
        rw [Mark.after, Bool.and_eq_false_iff] at hoff
        rcases hoff with hoff | hoff
        · exact absurd (hon.symm.trans hoff) (by decide)
        · exact of_decide_eq_false hoff (not_le.1 hfew)
      | started | skipped => exact absurd (hon.symm.trans hoff) (by decide)
      | enabled | disabled => cases hfire
  · intro hfailed
    obtain ⟨hnew, hlimit⟩ := hfailed
    have hfires := (isFire_iff (hnew ▸ List.mem_singleton_self Mark.failed)).2 rfl
    rw [hnew] at hturn
    cases hturn with
    | switched _ _ hfire _ => cases hfire
    | fires _ _ hfire hon hafter hreason =>
      rw [failures_of_counter hafter] at hlimit
      have hoff : r'.enabled = false := by
        rw [enabled_of_counter hafter, Mark.after, Bool.and_eq_false_iff, decide_eq_false_iff_not, not_lt]
        exact .inr hlimit
      exact ⟨hfires, r, r', hr, hr', hon, hoff, hreason hoff⟩

end Runs

/-! ## Three bad nights -/

theorem fifty_sane : (1 : ℤ) ≤ 50 ∧ (50 : ℤ) ≤ 50 := by decide

/-- a schedule that no start accepts -/
def tooMany : Schedule :=
  ⟨7, "nightly", "s", ["c1"], 50, none, "capacity", 1440, 0, true, none, 0, none, none, "ops", daily_positive, fifty_sane,
    capacity_present⟩

def nights : Site BenchWorld := ⟨⟨[("s", ⟨"", "", []⟩)], [], [tooMany]⟩, []⟩

def nightLib : Lib := ⟨id, fun _ => []⟩

theorem twenty_sane : (1 : ℤ) ≤ 20 ∧ (20 : ℤ) ≤ 20 := by decide

def nightConfig : BenchConfig := ⟨["c1"], 20, twenty_sane⟩

/-- the claim of a night -/
def dusk (n : ℤ) : HistoryEvent := .claim (n * 86400000000) .none

/-- a night whose fire is recorded, if there is one -/
def night (n : ℤ) : List HistoryEvent := [dusk n, .fire 0 []]

def repair : HistoryEvent := .switch [] ⟨"ops", ["admin"]⟩ true 7 true (some "repaired")

/-- a bad night and a repair, which puts the next slot off by a day, and two more bad nights -/
def badNights : List HistoryEvent := night 0 ++ [repair] ++ night 1 ++ night 2 ++ night 3 ++ [dusk 4]

theorem badNights_orderly : Meets (next nightLib nightConfig .memory) (Orderly nightLib nightConfig .memory 7) (.start nights)
    (badNights ++ [.fire 0 []]) := by
  decide +kernel

theorem paused_iff_nights : PausesRightly nightLib nightConfig .memory 7
    (run (next nightLib nightConfig .memory) (.start nights) badNights) (.fire 0 []) :=
  @paused_iff nightLib nightConfig .memory nights tooMany (List.nodup_singleton 7) List.mem_cons_self rfl badNights (.fire 0 [])
    badNights_orderly

/-! ## Two ways to miscount -/

/-- what the store says to the third statement of a fire, the record of a refused start -/
def recordLost : List (Oracle Weather) := [default, default, ⟨true, ⟨[], 0, .ok .none, .failed "connection refused"⟩⟩]

/-- three bad nights; the store does not take the outcome of the second -/
def forgottenNights : List HistoryEvent := night 0 ++ [dusk 1, .fire 0 recordLost] ++ [dusk 2]

/-- three bad nights, with a repair while the third fire is under way -/
def overtakenNights : List HistoryEvent := night 0 ++ night 1 ++ [dusk 2, repair]

/-- **Miscounts.** The third failure in a row does not pause the schedule if the outcome of the second was not stored; and
an enabling between the claim and the record of the third does not keep it from being paused. -/
theorem paused_wrongly :
    ¬ PausesRightly nightLib nightConfig .memory 7
        (run (next nightLib nightConfig .memory) (.start nights) forgottenNights) (.fire 0 []) ∧
      ¬ PausesRightly nightLib nightConfig .memory 7
        (run (next nightLib nightConfig .memory) (.start nights) overtakenNights) (.fire 0 []) := by
  constructor
  · intro h
    have hthird : Stretch failureLimit (marksOf 7 (next nightLib nightConfig .memory
        (run (next nightLib nightConfig .memory) (.start nights) forgottenNights) (.fire 0 [])).marks) :=
      le_streak_iff.1 (by decide +kernel)
    obtain ⟨-, r, r', -, hafter, -, hoff, -⟩ := h.2 ⟨by decide +kernel, hthird⟩
    have hstill := congrArg (Option.map Schedule.enabled) hafter
    rw [Option.map_some, hoff] at hstill
    revert hstill
    decide +kernel
  · intro h
    have hbefore : ((run (next nightLib nightConfig .memory) (.start nights) overtakenNights).site.service.getSchedule 7).map
        Schedule.enabled = some true := by decide +kernel
    have hafter : ((next nightLib nightConfig .memory (run (next nightLib nightConfig .memory) (.start nights) overtakenNights)
        (.fire 0 [])).site.service.getSchedule 7).map (fun r => (r.enabled, r.pausedReason.isSome)) = some (false, true) := by
      decide +kernel
    obtain ⟨r, hr, hon⟩ := Option.map_eq_some_iff.1 hbefore
    obtain ⟨r', hr', hoff⟩ := Option.map_eq_some_iff.1 hafter
    obtain ⟨henabled, hreason⟩ := Prod.mk.inj hoff
    have hpaused := h.1 ⟨rfl, r, r', hr, hr', hon, henabled, Option.isSome_iff_ne_none.1 hreason⟩
    have hthree := le_streak_iff.2 hpaused.2
    revert hthree
    decide +kernel

end TrinoManagement.Bench
