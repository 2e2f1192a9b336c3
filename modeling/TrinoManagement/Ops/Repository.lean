/-
Storage for restart sequences, `tms/ops/repository.py`, with the schema of migration 004.

A row keeps the position it was inserted at, which is its id; there is no delete. The in-memory repository and the
Postgres one share everything but three things, which are what `Storage` selects: the finishing time on a save, the
order in which events are read back, and what the database enforces or refuses.

- `saveRow`: the UPDATE and then one INSERT an event, each committing by itself, so a fault after some statements
  leaves those in place. `saveRow_cases` is its one inversion lemma.
- `Row.written`: a row after the UPDATE and some of the INSERTs.
-/
import Mathlib.Data.List.Sort
import Mathlib.Tactic
import TrinoManagement.Ops.Sequence

namespace TrinoManagement.Repository

open TrinoManagement.Sequence

/-- which repository stands behind the service -/
inductive Storage where
  | memory | postgres
deriving DecidableEq, Repr

/-- one row of `restart_sequence` with its rows of `restart_sequence_event` -/
structure Row where
  cluster : String
  state : State
  reason : Text.Reason
  actor : String
  actorRoles : List String
  runningQueries : Option ℤ
  healthState : Option String
  forceReason : Option String
  startedAt : ℚ
  finishedAt : Option ℚ
  events : List Entry
deriving DecidableEq, Repr

/-- a sequence and what storage knows about it -/
structure StoredSequence where
  id : ℕ
  sequence : RestartSequence
  persistedEvents : ℕ
  startedAt : Option ℚ
  finishedAt : Option ℚ
deriving DecidableEq, Repr

namespace StoredSequence

variable (stored : StoredSequence)

def pendingEvents : List Entry := stored.sequence.history.drop stored.persistedEvents

def markPersisted : StoredSequence := { stored with persistedEvents := stored.sequence.history.length }

end StoredSequence

/-- `_rebuild`: what the schema has no column for starts afresh -/
def rebuild (row : Row) (events : List Entry) : RestartSequence :=
  { RestartSequence.initial row.cluster row.reason row.actor with
    state := row.state, runningQueries := row.runningQueries, healthState := row.healthState, history := events }

/-- events as read back: `ORDER BY occurred_at, id` in Postgres, as appended in memory -/
def Storage.readEvents : Storage → List Entry → List Entry
  | .memory, events => events
  | .postgres, events => events.insertionSort fun a b => a.at_ ≤ b.at_

def loadRow (k : Storage) (id : ℕ) (row : Row) : StoredSequence :=
  let events := k.readEvents row.events
  ⟨id, rebuild row events, events.length, some row.startedAt, row.finishedAt⟩

def load (k : Storage) (rows : List Row) (id : ℕ) : Option StoredSequence := rows[id]?.map (loadRow k id)

/-- `active_for(cluster) is not None`, and the partial unique index of the schema -/
def hasActive (rows : List Row) (cluster : String) : Bool :=
  rows.any fun row => row.cluster = cluster ∧ row.state ∉ terminal

/-- the row `create` inserts; its events come with the save that follows -/
def newRow (now : ℚ) (s : RestartSequence) (roles : List String) : Row :=
  ⟨s.cluster, s.state, s.reason, s.actor, roles, s.runningQueries, s.healthState, none, now, none, []⟩

/-! ## Save -/

/-- `finished_at`: kept once set in memory, recomputed from the state written in Postgres -/
def Storage.finish (k : Storage) (now : ℚ) (state : State) (finishedAt : Option ℚ) : Option ℚ :=
  match k with
  | .memory => if state ∈ terminal ∧ finishedAt = none then some now else finishedAt
  | .postgres => if state ∈ terminal then finishedAt.orElse fun _ => some now else none

/-- `force_reason`: `if force_reason:` in memory, `COALESCE` in Postgres -/
def Storage.force (k : Storage) (forceReason old : Option String) : Option String :=
  match k with
  | .memory => if forceReason.getD "" ≠ "" then forceReason else old
  | .postgres => forceReason.orElse fun _ => old

/-- the row after the UPDATE and the first `n` INSERTs of a save -/
def Row.written (k : Storage) (now : ℚ) (stored : StoredSequence) (forceReason : Option String) (n : ℕ) (row : Row) : Row :=
  { row with
    state := stored.sequence.state
    runningQueries := stored.sequence.runningQueries
    healthState := stored.sequence.healthState
    forceReason := k.force forceReason row.forceReason
    finishedAt := k.finish now stored.sequence.state row.finishedAt
    events := row.events ++ stored.pendingEvents.take n }

/-- a statement the database refused or never got, after some that committed -/
structure Fault where
  after : ℕ
  text : String
deriving DecidableEq, Repr

/-- the unique index refuses a second live row of one cluster -/
def conflicts (rows : List Row) (id : ℕ) (row : Row) (state : State) : Bool :=
  decide (state ∉ terminal) && hasActive (rows.eraseIdx id) row.cluster

def uniqueViolation : String :=
  "duplicate key value violates unique constraint \"restart_sequence_one_active_per_cluster\""

/-- what `save` raises, and the row as it leaves it if it got to write it -/
def saveRow (k : Storage) (now : ℚ) (fault : Option Fault) (rows : List Row) (stored : StoredSequence)
    (forceReason : Option String) : Except String Unit × Option Row :=
  match rows[stored.id]? with
  | none => (.error ("no row " ++ toString stored.id), none)
  | some row =>
    let written n := some (row.written k now stored forceReason n)
    match k with
    | .memory => (.ok (), written stored.pendingEvents.length)
    | .postgres =>
      match fault with
      | some ⟨0, text⟩ => (.error text, none)
      | some ⟨n + 1, text⟩ =>
        if conflicts rows stored.id row stored.sequence.state then (.error uniqueViolation, none)
        else if n < stored.pendingEvents.length then (.error text, written n)
        else (.ok (), written stored.pendingEvents.length)
      | none =>
        if conflicts rows stored.id row stored.sequence.state then (.error uniqueViolation, none)
        else (.ok (), written stored.pendingEvents.length)

section Lemmas

variable {k : Storage} {now : ℚ} {fault : Option Fault} {rows : List Row} {stored : StoredSequence}
  {forceReason : Option String}

/-- **One save.** It raises and writes nothing, or writes the row with the first events pending, all of them unless it
raises after that. -/
theorem saveRow_cases :
    (∃ text, saveRow k now fault rows stored forceReason = (.error text, none)) ∨
    ∃ row n r, rows[stored.id]? = some row ∧
      saveRow k now fault rows stored forceReason = (r, some (row.written k now stored forceReason n)) ∧
      (r = .ok () → n = stored.pendingEvents.length) := by
  unfold saveRow
  cases hrow : rows[stored.id]? with
  | none => exact .inl ⟨_, rfl⟩
  | some row =>
    cases k with
    | memory => exact .inr ⟨row, _, _, rfl, rfl, fun _ => rfl⟩
    | postgres =>
      rcases fault with _ | ⟨_ | n, text⟩
      · dsimp only
        split_ifs
        · exact .inl ⟨_, rfl⟩
        · exact .inr ⟨row, _, _, rfl, rfl, fun _ => rfl⟩
      · exact .inl ⟨_, rfl⟩
      · dsimp only
        split_ifs
        · exact .inl ⟨_, rfl⟩
        · exact .inr ⟨row, n, _, rfl, rfl, fun h => by cases h⟩
        · exact .inr ⟨row, _, _, rfl, rfl, fun _ => rfl⟩

/-- without a fault a save writes everything, or is refused and writes nothing -/
theorem saveRow_whole : (∃ text, saveRow k now none rows stored forceReason = (.error text, none)) ∨
    ∃ row, rows[stored.id]? = some row ∧ saveRow k now none rows stored forceReason =
      (.ok (), some (row.written k now stored forceReason stored.pendingEvents.length)) := by
  unfold saveRow
  cases hrow : rows[stored.id]? with
  | none => exact .inl ⟨_, rfl⟩
  | some row =>
    cases k with
    | memory => exact .inr ⟨row, rfl, rfl⟩
    | postgres =>
      dsimp only
      split_ifs
      · exact .inl ⟨_, rfl⟩
      · exact .inr ⟨row, rfl, rfl⟩

/-- a fault at the UPDATE leaves nothing behind -/
theorem saveRow_update {text : String} {row : Row} (hrow : rows[stored.id]? = some row) :
    saveRow .postgres now (some ⟨0, text⟩) rows stored forceReason = (.error text, none) := by
  unfold saveRow
  rw [hrow]

/-- so does an UPDATE the unique index refuses -/
theorem saveRow_refused {row : Row} (hrow : rows[stored.id]? = some row)
    (hc : conflicts rows stored.id row stored.sequence.state = true) :
    ∃ text, saveRow .postgres now fault rows stored forceReason = (.error text, none) := by
  unfold saveRow
  rw [hrow]
  rcases fault with _ | ⟨_ | n, text⟩
  · exact ⟨uniqueViolation, by dsimp only; rw [if_pos hc]⟩
  · exact ⟨text, rfl⟩
  · exact ⟨uniqueViolation, by dsimp only; rw [if_pos hc]⟩

/-- a fault at an INSERT leaves the UPDATE and the INSERTs before it -/
theorem saveRow_torn {text : String} {n : ℕ} {row : Row} (hrow : rows[stored.id]? = some row)
    (hc : conflicts rows stored.id row stored.sequence.state = false) (hn : n < stored.pendingEvents.length) :
    saveRow .postgres now (some ⟨n + 1, text⟩) rows stored forceReason =
      (.error text, some (row.written .postgres now stored forceReason n)) := by
  unfold saveRow
  rw [hrow]
  simp only [hc, if_pos hn]
  rfl

/-- without a fault at one of its statements a save writes everything -/
theorem saveRow_through {row : Row} (hrow : rows[stored.id]? = some row)
    (hc : conflicts rows stored.id row stored.sequence.state = false)
    (hf : ∀ f ∈ fault, stored.pendingEvents.length < f.after) :
    saveRow .postgres now fault rows stored forceReason =
      (.ok (), some (row.written .postgres now stored forceReason stored.pendingEvents.length)) := by
  unfold saveRow
  rw [hrow]
  rcases fault with _ | ⟨_ | n, text⟩
  · simp only [hc]
    rfl
  · have := hf ⟨0, text⟩ rfl
    simp at this
  · have hn : ¬ n < stored.pendingEvents.length := by
      have := hf ⟨n + 1, text⟩ rfl
      simp only at this
      omega
    simp only [hc, if_neg hn]
    rfl

/-- a row after an insert is an old one or the new one -/
theorem getElem?_inserted {id : ℕ} {row new : Row} (h : (rows ++ [new])[id]? = some row) :
    rows[id]? = some row ∨ (id = rows.length ∧ row = new) := by
  rw [List.getElem?_append] at h
  split_ifs at h with hlt
  · exact .inl h
  · obtain ⟨hlt', hval⟩ := List.getElem?_eq_some_iff.1 h
    simp only [List.length_singleton] at hlt'
    exact .inr ⟨by omega, by simpa using hval.symm⟩

theorem getElem?_written {id : ℕ} {row row' : Row} (h : rows[id]? = some row) : (rows.set id row')[id]? = some row' := by
  obtain ⟨hlt, -⟩ := List.getElem?_eq_some_iff.1 h
  simp [hlt]

/-- a row after an UPDATE is the one written or an old one -/
theorem getElem?_set_cases {id i : ℕ} {row row' r : Row} (hrow : rows[id]? = some row)
    (h : (rows.set id row')[i]? = some r) : (i = id ∧ r = row') ∨ (i ≠ id ∧ rows[i]? = some r) := by
  by_cases hi : i = id
  · subst hi
    rw [getElem?_written hrow] at h
    exact .inl ⟨rfl, (Option.some.inj h).symm⟩
  · rw [List.getElem?_set_ne (Ne.symm hi)] at h
    exact .inr ⟨hi, h⟩

theorem hasActive_iff {cluster : String} :
    hasActive rows cluster = true ↔
      ∃ (id : ℕ) (row : Row), rows[id]? = some row ∧ row.cluster = cluster ∧ row.state ∉ terminal := by
  simp only [hasActive, List.any_eq_true, List.mem_iff_getElem?, decide_eq_true_eq]
  constructor
  · rintro ⟨row, ⟨id, hid⟩, h⟩
    exact ⟨id, row, hid, h⟩
  · rintro ⟨id, row, hid, h⟩
    exact ⟨row, ⟨id, hid⟩, h⟩

theorem terminal_of_not_hasActive {cluster : String} {id : ℕ} {row : Row} (h : hasActive rows cluster = false)
    (hrow : rows[id]? = some row) (hc : row.cluster = cluster) : row.state ∈ terminal := by
  by_contra hst
  rw [hasActive_iff.2 ⟨id, row, hrow, hc, hst⟩] at h
  cases h

@[simp] theorem loadRow_id (id : ℕ) (row : Row) : (loadRow k id row).id = id := rfl

@[simp] theorem loadRow_state (id : ℕ) (row : Row) : (loadRow k id row).sequence.state = row.state := rfl

@[simp] theorem loadRow_cluster (id : ℕ) (row : Row) : (loadRow k id row).sequence.cluster = row.cluster := rfl

@[simp] theorem written_state (n : ℕ) (row : Row) :
    (row.written k now stored forceReason n).state = stored.sequence.state := rfl

@[simp] theorem written_cluster (n : ℕ) (row : Row) :
    (row.written k now stored forceReason n).cluster = row.cluster := rfl

/-- a save that writes a terminal state leaves a finishing time, the one already there if any -/
theorem finish_of_terminal {state : State} (h : state ∈ terminal) (old : Option ℚ) :
    k.finish now state old = old.orElse fun _ => some now := by
  cases k <;> cases old <;> simp [Storage.finish, h]

end Lemmas

end TrinoManagement.Repository
