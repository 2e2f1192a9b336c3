/-
When to measure: the schedules of `tms/bench/schedules.py`, in memory and in Postgres.

Times are microseconds since the epoch and the arithmetic on them is exact. A row keeps the checks of its table as fields.
- `advance_eq`: the next slot is the first one of the schedule's grid after now and after the one it starts from.
- `nextInSql_eq`: the `SET` of the `UPDATE` computes the same slot with Postgres's own arithmetic, so one claim is the
  same in both stores (`claimDueSql_eq`).
- `validate_sane`: what the service lets through passes the checks of the table.
-/
import Mathlib.Tactic
import TrinoManagement.Core.Number

namespace TrinoManagement.Bench

open TrinoManagement.Text (blank strip blank_strip)

/-! ## Rows -/

def minIntervalMinutes : ℤ := 15

def maxIntervalMinutes : ℤ := 60 * 24 * 90

/-- `FAILURE_LIMIT`: failures in a row before TMS switches a schedule off -/
def failureLimit : ℕ := 3

/-- `btrim(reason) <> ''` -/
def reasonPresent (reason : String) : Bool := reason.toList.any (· != ' ')

/-- a row of `benchmark_schedule`, with the checks of the table -/
structure Schedule where
  id : ℕ
  name : String
  querySet : String
  clusters : List String
  repetitions : ℤ
  label : Option String
  reason : String
  intervalMinutes : ℤ
  nextRunAt : ℤ
  enabled : Bool
  pausedReason : Option String
  consecutiveFailures : ℕ
  lastRunAt : Option ℤ
  lastOutcome : Option String
  createdBy : String
  interval_positive : 0 < intervalMinutes
  repetitions_sane : 1 ≤ repetitions ∧ repetitions ≤ 50
  reason_present : reasonPresent reason = true
deriving DecidableEq

/-! ## What may be scheduled -/

/-- what `validate` returns -/
structure ScheduleFields where
  name : String
  intervalMinutes : ℤ
  repetitions : ℤ
  clusters : List String
  reason : String
deriving DecidableEq, Repr

def intervalOf (intervalMinutes : Value) : Except String ℤ :=
  match intervalMinutes.toInt with
  | none => .error "The interval must be a number of minutes."
  | some interval =>
    if interval < minIntervalMinutes then
      .error ("The shortest interval is " ++ toString minIntervalMinutes ++ " minutes. A benchmark takes cluster capacity; " ++
        "more often than that is a load generator, not a measurement.")
    else if maxIntervalMinutes < interval then .error "The longest interval is 90 days."
    else .ok interval

def repetitionsOf (repetitions : Value) : Except String ℤ :=
  match repetitions.toInt with
  | none => .error "Repetitions must be a number."
  | some reps => if 1 ≤ reps ∧ reps ≤ 50 then .ok reps else .error "Repetitions must be between 1 and 50."

/-- `validate`; an error is the text of its `ValueError` -/
def validate (name : String) (intervalMinutes repetitions : Value) (clusters : List String) (reason : Option String) :
    Except String ScheduleFields :=
  let name := strip name
  if name = "" then .error "A schedule needs a name."
  else if 200 < name.length then .error "That name is too long (200 characters)."
  else if blank (reason.getD "") then
    .error ("A reason is required. It is recorded on every run this schedule starts, because nobody will be there to " ++
      "explain them.")
  else do
    let interval ← intervalOf intervalMinutes
    let reps ← repetitionsOf repetitions
    let chosen := clusters.filter (· ≠ "")
    if chosen = [] then .error "Pick at least one cluster."
    else .ok ⟨name, interval, reps, chosen, strip (reason.getD "")⟩

theorem intervalOf_ok {v : Value} {interval : ℤ} (h : intervalOf v = .ok interval) :
    minIntervalMinutes ≤ interval ∧ interval ≤ maxIntervalMinutes := by
  unfold intervalOf at h
  split at h
  · cases h
  · split_ifs at h with hlow hhigh
    obtain rfl := Except.ok.inj h
    exact ⟨not_lt.1 hlow, not_lt.1 hhigh⟩

theorem repetitionsOf_ok {v : Value} {reps : ℤ} (h : repetitionsOf v = .ok reps) :
    v.toInt = some reps ∧ 1 ≤ reps ∧ reps ≤ 50 := by
  unfold repetitionsOf at h
  split at h
  · cases h
  · rename_i n hn
    split_ifs at h with hreps
    obtain rfl := Except.ok.inj h
    exact ⟨hn, hreps⟩

/-- a text with more than white space in it has more than blanks in it -/
theorem reasonPresent_of_not_blank {reason : String} (h : blank reason = false) : reasonPresent reason = true := by
  obtain ⟨c, hc, hspace⟩ := List.all_eq_false.1 h
  refine List.any_eq_true.2 ⟨c, hc, ?_⟩
  rw [bne_iff_ne]
  rintro rfl
  exact hspace (by decide)

/-- **What is accepted passes the checks of the table.** -/
theorem validate_sane {name : String} {intervalMinutes repetitions : Value} {clusters : List String}
    {reason : Option String} {fields : ScheduleFields}
    (h : validate name intervalMinutes repetitions clusters reason = .ok fields) :
    0 < fields.intervalMinutes ∧ (1 ≤ fields.repetitions ∧ fields.repetitions ≤ 50) ∧
      blank fields.reason = false ∧ fields.clusters ≠ [] ∧ repetitions.toInt = some fields.repetitions := by
  simp only [validate] at h
  split_ifs at h with hname hlong hreason hchosen
  · obtain ⟨_, -, h⟩ := bind_eq_ok.1 h
    obtain ⟨_, -, h⟩ := bind_eq_ok.1 h
    cases h
  · obtain ⟨interval, hinterval, h⟩ := bind_eq_ok.1 h
    obtain ⟨reps, hreps, h⟩ := bind_eq_ok.1 h
    obtain rfl := Except.ok.inj h
    have hlow := (intervalOf_ok hinterval).1
    obtain ⟨htext, hsane⟩ := repetitionsOf_ok hreps
    have hblank : blank (strip (reason.getD "")) = false := by
      rw [blank_strip]
      simpa using hreason
    exact ⟨lt_of_lt_of_le (by decide) hlow, hsane, hblank, hchosen, htext⟩

/-! ## The next slot -/

def microseconds (minutes : ℤ) : ℤ := minutes * 60000000

/-- `advance` -/
def advance (nextRunAt intervalMinutes now : ℤ) : ℤ :=
  let step := microseconds intervalMinutes
  let nxt := nextRunAt + step
  if nxt ≤ now then
    let missed := (now - nextRunAt).fdiv step
    nextRunAt + step * (missed + 1)
  else nxt

/-- the `SET` of the `UPDATE`: `FLOOR(EXTRACT(EPOCH FROM (now() - next_run_at)) / (interval_minutes * 60))` -/
def nextInSql (nextRunAt intervalMinutes now : ℤ) : ℤ :=
  nextRunAt + microseconds intervalMinutes *
    (1 + (((now - nextRunAt : ℤ) : ℚ) / 1000000 / ((intervalMinutes * 60 : ℤ) : ℚ)).floor)

def Schedule.due (row : Schedule) (now : ℤ) : Bool := row.enabled && decide (row.nextRunAt ≤ now)

/-- the row, moved forward -/
def Schedule.moved (row : Schedule) (now : ℤ) : Schedule :=
  { row with nextRunAt := advance row.nextRunAt row.intervalMinutes now }

def Schedule.movedInSql (row : Schedule) (now : ℤ) : Schedule :=
  { row with nextRunAt := nextInSql row.nextRunAt row.intervalMinutes now }

/-- `InMemoryScheduleRepository.claim_due`: the rows afterwards, and those that were taken -/
def claimDue (now : ℤ) : List Schedule → List Schedule × List Schedule
  | [] => ([], [])
  | row :: rows =>
    let rest := claimDue now rows
    if !row.enabled || decide (now < row.nextRunAt) then (row :: rest.1, rest.2)
    else (row.moved now :: rest.1, row.moved now :: rest.2)

/-- `PostgresScheduleRepository.claim_due`: one statement, which returns the rows as it left them -/
def claimDueSql (now : ℤ) (rows : List Schedule) : List Schedule × List Schedule :=
  (rows.map fun row => if row.due now then row.movedInSql now else row,
    (rows.filter fun row => row.due now).map fun row => row.movedInSql now)

section Advance

variable {nextRunAt intervalMinutes now : ℤ}

theorem microseconds_pos (h : 0 < intervalMinutes) : 0 < microseconds intervalMinutes := by
  unfold microseconds
  omega

/-- both branches at once: a step past every slot that is not later than now -/
theorem advance_eq (h : 0 < intervalMinutes) (hdue : nextRunAt ≤ now) : advance nextRunAt intervalMinutes now =
    nextRunAt + microseconds intervalMinutes * ((now - nextRunAt) / microseconds intervalMinutes + 1) := by
  have hstep := microseconds_pos h
  simp only [advance]
  split_ifs with hmissed
  · rw [Int.fdiv_eq_ediv_of_nonneg _ hstep.le]
  · have hzero : (now - nextRunAt) / microseconds intervalMinutes = 0 :=
      Int.ediv_eq_zero_of_lt (by omega) (by omega)
    rw [hzero, zero_add, mul_one]

theorem nextInSql_eq (h : 0 < intervalMinutes) (hdue : nextRunAt ≤ now) :
    nextInSql nextRunAt intervalMinutes now = advance nextRunAt intervalMinutes now := by
  have hfloor : (((now - nextRunAt : ℤ) : ℚ) / 1000000 / ((intervalMinutes * 60 : ℤ) : ℚ)).floor =
      (now - nextRunAt) / microseconds intervalMinutes := by
    rw [div_div]
    have hden : (1000000 : ℚ) * ((intervalMinutes * 60 : ℤ) : ℚ) = ((microseconds intervalMinutes : ℤ) : ℚ) := by
      unfold microseconds
      push_cast
      ring
    have hstep := Int.toNat_of_nonneg (microseconds_pos h).le
    rw [hden, ← hstep]
    exact Rat.floor_intCast_div_natCast _ _
  rw [nextInSql, hfloor, advance_eq h hdue, add_comm 1]

/-- **The next slot** is after now, and no slot of the grid is between them. -/
theorem advance_spec (h : 0 < intervalMinutes) (hdue : nextRunAt ≤ now) :
    now < advance nextRunAt intervalMinutes now ∧
      advance nextRunAt intervalMinutes now ≤ now + microseconds intervalMinutes ∧
      ∃ k : ℕ, advance nextRunAt intervalMinutes now = nextRunAt + microseconds intervalMinutes * (k + 1) := by
  have hstep := microseconds_pos h
  rw [advance_eq h hdue]
  have hdiv := Int.mul_ediv_add_emod (now - nextRunAt) (microseconds intervalMinutes)
  have hlow := Int.emod_nonneg (now - nextRunAt) hstep.ne'
  have hhigh := Int.emod_lt_of_pos (now - nextRunAt) hstep
  refine ⟨?_, ?_, ((now - nextRunAt) / microseconds intervalMinutes).toNat, ?_⟩
  · rw [mul_add, mul_one]
    omega
  · rw [mul_add, mul_one]
    omega
  · rw [Int.toNat_of_nonneg (Int.ediv_nonneg (by omega) hstep.le)]

end Advance

/-- **One claim, two stores.** -/
theorem claimDueSql_eq (now : ℤ) (rows : List Schedule) : claimDueSql now rows = claimDue now rows := by
  induction rows with
  | nil => rfl
  | cons row rows ih =>
    have hrest : claimDue now rows = ((claimDueSql now rows).1, (claimDueSql now rows).2) := by rw [ih]
    have hcons : claimDueSql now (row :: rows) =
        if row.due now then (row.movedInSql now :: (claimDueSql now rows).1, row.movedInSql now :: (claimDueSql now rows).2)
        else (row :: (claimDueSql now rows).1, (claimDueSql now rows).2) := by
      by_cases hdue : row.due now = true <;> simp [claimDueSql, hdue]
    rw [hcons, claimDue, hrest]
    by_cases hdue : row.due now = true
    · obtain ⟨hon, hnow⟩ := Bool.and_eq_true_iff.1 hdue
      have hle : row.nextRunAt ≤ now := by simpa using hnow
      have hmoved : row.movedInSql now = row.moved now := by
        rw [Schedule.movedInSql, nextInSql_eq row.interval_positive hle, Schedule.moved]
      rw [if_pos hdue, hmoved, if_neg (by simp [hon, hle])]
    · rw [if_neg hdue, if_pos (by
        by_contra hcon
        apply hdue
        simp only [Bool.or_eq_true, Bool.not_eq_true', decide_eq_true_eq, not_or, Bool.not_eq_false, not_lt] at hcon
        simp [Schedule.due, hcon.1, hcon.2])]

end TrinoManagement.Bench
