/-
Schedule claims: any number of processes tick and claim what is due, one `UPDATE` after the other, each with its own idea
of now. Every slot of a schedule should be claimed at most once, and missed slots should be made up for by one claim.

- `tick_inv`: a claim moves a row from one slot of its grid to a later one, so every claim of a schedule starts where the
  claims before it ended or later.
- `claimsOf_tick`: a tick claims a schedule exactly when its row is due.
- `each_slot_once`: in every run, whatever the order of the ticks and their times.
-/
import Mathlib.Tactic
import TrinoManagement.Bench.Schedules
import TrinoManagement.Core.Run

namespace TrinoManagement.Bench

open TrinoManagement.Run (Meets run run_inv meets_of_forall)

/-! ## Processes that tick -/

/-- the table; `id` is its primary key -/
structure ScheduleTable where
  rows : List Schedule
  distinct : (rows.map Schedule.id).Nodup

/-- `claim_due` of a process at what its transaction takes for now -/
structure Tick where
  process : ℕ
  now : ℤ
deriving DecidableEq, Repr

/-- a row that was returned: the slot it was taken at, and the one it was moved to -/
structure Claim where
  process : ℕ
  schedule : ℕ
  slot : ℤ
  now : ℤ
  next : ℤ
deriving DecidableEq, Repr

/-- the table, and every claim so far -/
structure Board where
  table : ScheduleTable
  claims : List Claim

theorem ids_claimDueSql (now : ℤ) (rows : List Schedule) :
    (claimDueSql now rows).1.map Schedule.id = rows.map Schedule.id := by
  simp only [claimDueSql, List.map_map]
  refine List.map_congr_left ?_
  intro row _
  simp only [Function.comp]
  split_ifs <;> rfl

def ScheduleTable.claim (table : ScheduleTable) (now : ℤ) : ScheduleTable :=
  ⟨(claimDueSql now table.rows).1, by rw [ids_claimDueSql]; exact table.distinct⟩

def claimOf (tick : Tick) (row : Schedule) : Claim :=
  ⟨tick.process, row.id, row.nextRunAt, tick.now, (row.movedInSql tick.now).nextRunAt⟩

namespace Board

def init (table : ScheduleTable) : Board := ⟨table, []⟩

/-- one claim of one process -/
def step (board : Board) (tick : Tick) : Board :=
  ⟨board.table.claim tick.now,
    board.claims ++ (board.table.rows.filter fun row => row.due tick.now).map (claimOf tick)⟩

def claimsOf (board : Board) (schedule : ℕ) : List Claim := board.claims.filter fun c => c.schedule = schedule

end Board

/-! ## What is claimed -/

/-- `slot` is one of the schedule's, from its first one on -/
def OnGrid (first : Schedule) (slot : ℤ) : Prop :=
  ∃ k : ℕ, slot = first.nextRunAt + microseconds first.intervalMinutes * k

/-- both stores would claim alike -/
def StoresAgree (board : Board) : Prop := ∀ now, claimDueSql now board.table.rows = claimDue now board.table.rows

/-- a row is what it was but for its slot, which is on its grid -/
def RowsOnGrid (start : ScheduleTable) (board : Board) : Prop :=
  ∀ row ∈ board.table.rows, ∃ first ∈ start.rows,
    row = { first with nextRunAt := row.nextRunAt } ∧ OnGrid first row.nextRunAt

/-- a claim takes a slot that has come, and writes what Python's `advance` says, which has not -/
def ClaimsAdvance (start : ScheduleTable) (board : Board) : Prop :=
  ∀ c ∈ board.claims, ∃ first ∈ start.rows, c.schedule = first.id ∧ OnGrid first c.slot ∧ c.slot ≤ c.now ∧
    c.next = advance c.slot first.intervalMinutes c.now ∧ OnGrid first c.next ∧ c.now < c.next

/-- no slot is claimed twice: the claims of a schedule go forward -/
def SlotsOnce (board : Board) : Prop :=
  board.claims.Pairwise fun c c' => c.schedule = c'.schedule → c.slot < c'.slot

/-- a due row is claimed by the next tick, however many slots were missed, and by no other before the slot after them -/
def OneForMissed (board : Board) : Prop :=
  ∀ row ∈ board.table.rows, row.enabled = true → ∀ (tick : Tick) (later : List Tick), row.nextRunAt ≤ tick.now →
    (∀ t ∈ later, t.now < advance row.nextRunAt row.intervalMinutes tick.now) →
    ((run Board.step board (tick :: later)).claimsOf row.id).length = (board.claimsOf row.id).length + 1

/-! ## Steps -/

structure BoardInv (start : ScheduleTable) (board : Board) : Prop where
  rows : RowsOnGrid start board
  claims : ClaimsAdvance start board
  forward : board.claims.Pairwise fun c c' => c.schedule = c'.schedule → c.next ≤ c'.slot
  behind : ∀ c ∈ board.claims, ∀ row ∈ board.table.rows, row.id = c.schedule → c.next ≤ row.nextRunAt

section Steps

variable {start : ScheduleTable} {board : Board} {tick : Tick}

/-- a row with a given key, once keys are distinct -/
theorem filter_id {rows : List Schedule} (h : (rows.map Schedule.id).Nodup) {row : Schedule} (hrow : row ∈ rows) :
    (rows.filter fun r => r.id = row.id) = [row] := by
  induction rows with
  | nil => cases hrow
  | cons r rows ih =>
    rw [List.map_cons, List.nodup_cons] at h
    rcases List.mem_cons.1 hrow with rfl | hrow
    · rw [List.filter_cons_of_pos (by simp), List.filter_eq_nil_iff.2]
      intro r hr heq
      exact h.1 (List.mem_map.2 ⟨r, hr, by simpa using heq⟩)
    · have hne : ¬r.id = row.id := by
        intro heq
        exact h.1 (List.mem_map.2 ⟨row, hrow, heq.symm⟩)
      rw [List.filter_cons_of_neg (by simpa using hne)]
      exact ih h.2 hrow

theorem movedInSql_eq {row : Schedule} {now : ℤ} (h : row.due now = true) : row.movedInSql now = row.moved now := by
  have hnow : row.nextRunAt ≤ now := by simpa using (Bool.and_eq_true_iff.1 h).2
  rw [Schedule.movedInSql, nextInSql_eq row.interval_positive hnow, Schedule.moved]

/-- a row after a tick is one that was due, moved, or one that was not -/
theorem mem_claim {row : Schedule} (h : row ∈ (board.step tick).table.rows) : ∃ row₀ ∈ board.table.rows,
    (row₀.due tick.now = true ∧ row = row₀.moved tick.now) ∨ (row₀.due tick.now = false ∧ row = row₀) := by
  obtain ⟨row₀, hrow₀, rfl⟩ := List.mem_map.1 h
  refine ⟨row₀, hrow₀, ?_⟩
  cases hdue : row₀.due tick.now with
  | true => exact .inl ⟨rfl, by rw [if_pos rfl, movedInSql_eq hdue]⟩
  | false => exact .inr ⟨rfl, by simp⟩

theorem OnGrid.advance {first : Schedule} {slot now : ℤ} (h : OnGrid first slot) (hnow : slot ≤ now) :
    OnGrid first (advance slot first.intervalMinutes now) := by
  obtain ⟨k, rfl⟩ := h
  obtain ⟨-, -, k', hk'⟩ := advance_spec first.interval_positive hnow
  refine ⟨k + (k' + 1), ?_⟩
  rw [hk']
  push_cast
  ring

theorem init_inv (table : ScheduleTable) : BoardInv table (Board.init table) where
  rows := by
    intro row hrow
    exact ⟨row, hrow, rfl, 0, by simp⟩
  claims := by
    intro c hc
    cases hc
  forward := List.Pairwise.nil
  behind := by
    intro c hc
    cases hc

/-- a claim that is made now -/
theorem claimOf_spec (h : RowsOnGrid start board) {row : Schedule} (hrow : row ∈ board.table.rows)
    (hdue : row.due tick.now = true) : ∃ first ∈ start.rows, row.id = first.id ∧ OnGrid first row.nextRunAt ∧
      row.nextRunAt ≤ tick.now ∧ (claimOf tick row).next = advance row.nextRunAt first.intervalMinutes tick.now ∧
      OnGrid first (claimOf tick row).next ∧ tick.now < (claimOf tick row).next := by
  obtain ⟨first, hfirst, heq, hgrid⟩ := h row hrow
  have hnow : row.nextRunAt ≤ tick.now := by simpa using (Bool.and_eq_true_iff.1 hdue).2
  have hid : row.id = first.id := by rw [heq]
  have hinterval : row.intervalMinutes = first.intervalMinutes := by rw [heq]
  have hnext : (claimOf tick row).next = advance row.nextRunAt first.intervalMinutes tick.now := by
    rw [← hinterval]
    exact congrArg Schedule.nextRunAt (movedInSql_eq hdue)
  refine ⟨first, hfirst, hid, hgrid, hnow, hnext, ?_, ?_⟩
  · rw [hnext]
    exact hgrid.advance hnow
  · rw [hnext]
    exact (advance_spec first.interval_positive hnow).1

theorem tick_inv (h : BoardInv start board) : BoardInv start (board.step tick) where
  rows := by
    intro row hrow
    obtain ⟨row₀, hrow₀, ⟨hdue, rfl⟩ | ⟨-, rfl⟩⟩ := mem_claim hrow
    · obtain ⟨first, hfirst, heq, hgrid⟩ := h.rows row₀ hrow₀
      have hnow : row₀.nextRunAt ≤ tick.now := by simpa using (Bool.and_eq_true_iff.1 hdue).2
      have hinterval : row₀.intervalMinutes = first.intervalMinutes := by rw [heq]
      refine ⟨first, hfirst, ?_, ?_⟩
      · simp only [Schedule.moved]
        rw [heq]
      · simp only [Schedule.moved, hinterval]
        exact hgrid.advance hnow
    · exact h.rows _ hrow₀
  claims := by
    intro c hc
    rcases List.mem_append.1 hc with hc | hc
    · exact h.claims c hc
    · obtain ⟨row, hrow, rfl⟩ := List.mem_map.1 hc
      obtain ⟨hrow, hdue⟩ := List.mem_filter.1 hrow
      exact claimOf_spec h.rows hrow hdue
  forward := by
    refine List.pairwise_append.2 ⟨h.forward, ?_, ?_⟩
    · -- one claim a row, and rows differ in their ids
      rw [List.pairwise_map]
      refine List.Pairwise.filter _ ?_
      refine (List.pairwise_map.1 board.table.distinct).imp ?_
      intro row row' hne heq
      exact absurd heq hne
    · intro c hc c' hc' hid
      obtain ⟨row, hrow, rfl⟩ := List.mem_map.1 hc'
      exact h.behind c hc row (List.mem_filter.1 hrow).1 hid.symm
  behind := by
    intro c hc row hrow hid
    obtain ⟨row₀, hrow₀, hcase⟩ := mem_claim hrow
    have hid₀ : row₀.id = row.id := by
      rcases hcase with ⟨-, rfl⟩ | ⟨-, rfl⟩ <;> rfl
    have hlater : row₀.nextRunAt ≤ row.nextRunAt := by
      rcases hcase with ⟨hdue, rfl⟩ | ⟨-, rfl⟩
      · have hnow : row₀.nextRunAt ≤ tick.now := by simpa using (Bool.and_eq_true_iff.1 hdue).2
        exact hnow.trans (advance_spec row₀.interval_positive hnow).1.le
      · exact le_rfl
    rcases List.mem_append.1 hc with hc | hc
    · exact (h.behind c hc row₀ hrow₀ (hid₀.trans hid)).trans hlater
    · obtain ⟨row₁, hrow₁, rfl⟩ := List.mem_map.1 hc
      obtain ⟨hrow₁, hdue⟩ := List.mem_filter.1 hrow₁
      have heq : row₀ = row₁ := List.inj_on_of_nodup_map board.table.distinct hrow₀ hrow₁ (hid₀.trans hid)
      subst heq
      rcases hcase with ⟨-, rfl⟩ | ⟨hnot, -⟩
      · exact (congrArg Schedule.nextRunAt (movedInSql_eq hdue)).le
      · rw [hdue] at hnot
        cases hnot

/-- **A tick claims a schedule exactly when its row is due.** -/
theorem claimsOf_tick {row : Schedule} (hrow : row ∈ board.table.rows) : (board.step tick).claimsOf row.id =
    board.claimsOf row.id ++ if row.due tick.now then [claimOf tick row] else [] := by
  have hown : ((board.table.rows.filter fun r => r.due tick.now).filter fun r => r.id = row.id) =
      if row.due tick.now then [row] else [] := by
    rw [List.filter_comm, filter_id board.table.distinct hrow]
    cases hdue : row.due tick.now <;> simp [hdue]
  have hmap : ((board.table.rows.filter fun r => r.due tick.now).map (claimOf tick)).filter
      (fun c => c.schedule = row.id) =
      ((board.table.rows.filter fun r => r.due tick.now).filter fun r => r.id = row.id).map (claimOf tick) := by
    rw [List.filter_map]
    rfl
  simp only [Board.claimsOf, Board.step, List.filter_append, hmap, hown]
  split_ifs <;> rfl

/-- until the slot a row waits for has come, nobody claims it -/
theorem claimsOf_wait {row : Schedule} {later : List Tick} (hrow : row ∈ board.table.rows)
    (hlater : ∀ t ∈ later, t.now < row.nextRunAt) :
    (run Board.step board later).claimsOf row.id = board.claimsOf row.id := by
  induction later generalizing board with
  | nil => rfl
  | cons t later ih =>
    have hnot : row.due t.now = false := by
      have hlt := hlater t List.mem_cons_self
      simp [Schedule.due, hlt]
    have hkept : row ∈ (board.step t).table.rows := List.mem_map.2 ⟨row, hrow, by simp [hnot]⟩
    have hnone := @claimsOf_tick board t row hrow
    rw [hnot] at hnone
    have hrest := ih hkept fun t' ht' => hlater t' (List.mem_cons_of_mem t ht')
    change (run Board.step (board.step t) later).claimsOf row.id = _
    rw [hrest, hnone]
    simp

theorem oneForMissed (board : Board) : OneForMissed board := by
  intro row hrow hon tick later hnow hlater
  have hdue : row.due tick.now = true := by simp [Schedule.due, hon, hnow]
  have hmoved : row.moved tick.now ∈ (board.step tick).table.rows :=
    List.mem_map.2 ⟨row, hrow, by rw [if_pos hdue, movedInSql_eq hdue]⟩
  have hwait := claimsOf_wait hmoved hlater
  have hclaim := @claimsOf_tick board tick row hrow
  change ((run Board.step (board.step tick) later).claimsOf (row.moved tick.now).id).length = _
  rw [hwait]
  change ((board.step tick).claimsOf row.id).length = _
  rw [hclaim, hdue]
  simp

end Steps

/-! ## Runs -/

theorem board_inv (table : ScheduleTable) (ticks : List Tick) : BoardInv table (run Board.step (Board.init table) ticks) := by
  have hmeets : Meets Board.step (fun _ _ => True) (Board.init table) ticks := meets_of_forall fun _ _ => trivial
  exact run_inv (BoardInv table) (fun _ _ h _ => tick_inv h) hmeets (init_inv table)

/-- **Each slot once.** Whatever processes tick at whatever times: both stores would claim the same rows and write the
same slots; a schedule stays on its grid; a claim moves it past now as `advance` says; no slot is claimed twice; and one
claim makes up for all the slots that were missed. -/
theorem each_slot_once (table : ScheduleTable) (ticks : List Tick) :
    StoresAgree (run Board.step (Board.init table) ticks) ∧
    RowsOnGrid table (run Board.step (Board.init table) ticks) ∧
    ClaimsAdvance table (run Board.step (Board.init table) ticks) ∧
    SlotsOnce (run Board.step (Board.init table) ticks) ∧
    OneForMissed (run Board.step (Board.init table) ticks) := by
  have hinv := board_inv table ticks
  refine ⟨fun now => claimDueSql_eq now _, hinv.rows, hinv.claims, ?_, oneForMissed _⟩
  refine List.Pairwise.imp_of_mem ?_ hinv.forward
  intro c c' hc _ hforward hid
  obtain ⟨-, -, -, -, hslot, -, -, hnow⟩ := hinv.claims c hc
  exact (hslot.trans_lt hnow).trans_le (hforward hid)

end TrinoManagement.Bench
