/-
The next slot of a schedule that is switched on by hand: the first slot after now, from the stored one on?

The slot comes from `advance`, which the claim of a tick uses once the stored slot is consumed. Nothing has consumed it here.
- `enabled_stores`: what a run of `setScheduleEnabled` writes is `switchedOn`, at a time read from the clock.
- `enabled_slot_iff`: the slot is that one iff the stored slot is not later than now; and enabling once more postpones it.
- `enabled_next`: so it is of the row in the store, after every run.
- `enabled_postponed`: a schedule due tomorrow, switched on today, runs the day after.
-/
import Mathlib.Tactic
import TrinoManagement.Bench.ScheduleService

namespace TrinoManagement.Bench

open TrinoManagement.Audit TrinoManagement.Guard

/-! ## What is stored -/

/-- the row, switched on -/
def Schedule.switchedOn (row : Schedule) (now : ℤ) : Schedule := row.change (switchOn row now)

/-- the slots of a row, from the stored one on -/
def Schedule.slots (row : Schedule) : Set ℤ := {t | ∃ k : ℕ, t = row.nextRunAt + microseconds row.intervalMinutes * k}

/-- the first slot after now, from the stored one on -/
def NextSlot (row : Schedule) (now t : ℤ) : Prop := IsLeast {t | t ∈ row.slots ∧ now < t} t

/-- **What is stored.** A run that writes leaves the row it read switched on, and every other row as it was. -/
theorem enabled_stores {principal : Principal} {available : Bool} {id : ℕ} {reason : Option String} {site : Site BenchWorld}
    {os : List (Oracle Weather)} :
    (Prog.run (handle serveSwitch) os (setScheduleEnabled principal available id true reason) site).2.service =
        site.service ∨
      ∃ row now, site.service.getSchedule id = some row ∧
        (Prog.run (handle serveSwitch) os (setScheduleEnabled principal available id true reason) site).2.service =
          { site.service with
            schedules := onRow id (fun row' => row'.change (switchOn row now)) site.service.schedules } := by
  have hleaves := switchNoted_leaves os principal available id true reason site
  rw [← switchNoted_site]
  generalize switchNoted os principal available id true reason site = noted at hleaves ⊢
  obtain ⟨flag, w, log⟩ := noted
  cases hleaves with
  | alone => exact .inl rfl
  | changed row now hrow => exact .inr ⟨row, now, hrow, rfl⟩

/-! ## Which slot it is -/

variable {row : Schedule} {now : ℤ}

@[simp] theorem switchedOn_nextRunAt : (row.switchedOn now).nextRunAt = advance row.nextRunAt row.intervalMinutes now := rfl

@[simp] theorem switchedOn_intervalMinutes : (row.switchedOn now).intervalMinutes = row.intervalMinutes := rfl

/-- a slot that is still to come is passed over -/
theorem advance_of_lt (hfuture : now < row.nextRunAt) :
    advance row.nextRunAt row.intervalMinutes now = row.nextRunAt + microseconds row.intervalMinutes := by
  have hstep := microseconds_pos row.interval_positive
  unfold advance
  exact if_neg (by omega)

/-- either way the slot is after now -/
theorem lt_advance : now < advance row.nextRunAt row.intervalMinutes now := by
  by_cases hdue : row.nextRunAt ≤ now
  · exact (advance_spec row.interval_positive hdue).1
  · have hstep := microseconds_pos row.interval_positive
    rw [advance_of_lt (not_le.1 hdue)]
    omega

/-- of the slots, none is between now and the next one -/
theorem nextSlot_advance (hdue : row.nextRunAt ≤ now) :
    NextSlot row now (advance row.nextRunAt row.intervalMinutes now) := by
  obtain ⟨hafter, hstep, k, hk⟩ := advance_spec row.interval_positive hdue
  refine ⟨⟨⟨k + 1, by rw [hk, Nat.cast_succ]⟩, hafter⟩, ?_⟩
  intro t ht
  obtain ⟨⟨j, rfl⟩, hlater⟩ := ht
  have hj : k + 1 ≤ j := by
    by_contra hlt
    have hle : ((j : ℕ) : ℤ) ≤ k := by omega
    have hslot := Int.mul_le_mul_of_nonneg_left hle (microseconds_pos row.interval_positive).le
    rw [hk, mul_add, mul_one] at hstep
    omega
  rw [hk]
  have hle : ((k : ℕ) : ℤ) + 1 ≤ j := by omega
  exact Int.add_le_add_left (Int.mul_le_mul_of_nonneg_left hle (microseconds_pos row.interval_positive).le) _

theorem not_nextSlot_of_lt (hfuture : now < row.nextRunAt) :
    ¬NextSlot row now (advance row.nextRunAt row.intervalMinutes now) := by
  intro hleast
  have hstored : row.nextRunAt ∈ {t | t ∈ row.slots ∧ now < t} := ⟨⟨0, by simp⟩, hfuture⟩
  have hle := hleast.2 hstored
  have hstep := microseconds_pos row.interval_positive
  rw [advance_of_lt hfuture] at hle
  omega

/-- the row's own slot is what `advance` counts from, so it must be due -/
theorem nextSlot_iff : NextSlot row now (advance row.nextRunAt row.intervalMinutes now) ↔ row.nextRunAt ≤ now := by
  constructor
  · intro hleast
    by_contra hfuture
    exact not_nextSlot_of_lt (not_le.1 hfuture) hleast
  · exact nextSlot_advance

/-- **Enabling keeps the slot iff it is due**: what is stored is the first slot after now iff the row's own slot is not later
than now. It is later once the row was enabled, so enabling again postpones it by an interval. -/
theorem enabled_slot_iff (row : Schedule) (now : ℤ) :
    (NextSlot row now (row.switchedOn now).nextRunAt ↔ row.nextRunAt ≤ now) ∧
      ((row.switchedOn now).switchedOn now).nextRunAt =
        (row.switchedOn now).nextRunAt + microseconds row.intervalMinutes ∧
      (row.switchedOn now).switchedOn now ≠ row.switchedOn now := by
  have hlater : now < (row.switchedOn now).nextRunAt := lt_advance
  have hagain : ((row.switchedOn now).switchedOn now).nextRunAt =
      (row.switchedOn now).nextRunAt + microseconds row.intervalMinutes := advance_of_lt hlater
  refine ⟨nextSlot_iff, hagain, ?_⟩
  intro hsame
  have hstep := microseconds_pos row.interval_positive
  rw [hsame] at hagain
  omega

/-- **In the store**: a run that writes leaves the row it read on its next slot iff the slot that row had is due. -/
theorem enabled_next {principal : Principal} {available : Bool} {id : ℕ} {reason : Option String} {site : Site BenchWorld}
    {os : List (Oracle Weather)} :
    (Prog.run (handle serveSwitch) os (setScheduleEnabled principal available id true reason) site).2.service =
        site.service ∨
      ∃ row now, site.service.getSchedule id = some row ∧
        (Prog.run (handle serveSwitch) os (setScheduleEnabled principal available id true reason) site).2.service.getSchedule
          id = some (row.switchedOn now) ∧
        (NextSlot row now (row.switchedOn now).nextRunAt ↔ row.nextRunAt ≤ now) := by
  rcases @enabled_stores principal available id reason site os with hsame | ⟨row, now, hrow, hstored⟩
  · exact .inl hsame
  · refine .inr ⟨row, now, hrow, ?_, nextSlot_iff⟩
    have hread : rowOf site.service.schedules id = some row := hrow
    have hid : row.id = id := rowOf_id hread
    rw [hstored, BenchWorld.getSchedule, rowOf_onRow (change_id _), hread]
    exact congrArg some (if_pos hid)

/-! ## A schedule due tomorrow -/

theorem daily_positive : (0 : ℤ) < 1440 := by decide

theorem three_sane : (1 : ℤ) ≤ 3 ∧ (3 : ℤ) ≤ 50 := by decide

theorem capacity_present : reasonPresent "capacity" = true := by decide

def tomorrow : Schedule :=
  ⟨0, "nightly", "s", ["c1"], 3, none, "capacity", 1440, 86400000000, false, none, 0, none, none, "ops", daily_positive,
    three_sane, capacity_present⟩

def paused : Site BenchWorld := ⟨⟨[], [], [tomorrow]⟩, []⟩

/-- the slots after it was switched on so many times, all of them at midnight -/
def slotsAfter : ℕ → Site BenchWorld → List ℤ
  | 0, _ => []
  | n + 1, site =>
    let r := Prog.run (handle serveSwitch) [] (setScheduleEnabled ⟨"ops", ["admin"]⟩ true 0 true (some "repaired")) site
    r.2.service.schedules.map (·.nextRunAt) ++ slotsAfter n r.2

/-- **Switched on today**, a schedule due tomorrow runs the day after; switched on again, a day later still. -/
theorem enabled_postponed :
    slotsAfter 2 paused = [2 * 86400000000, 3 * 86400000000] ∧ ¬NextSlot tomorrow 0 (tomorrow.switchedOn 0).nextRunAt :=
  ⟨by decide +kernel, not_nextSlot_of_lt (by decide)⟩

end TrinoManagement.Bench
