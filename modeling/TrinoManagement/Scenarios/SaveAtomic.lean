/-
Is a save all or nothing?

`PostgresSequenceRepository.save` runs an UPDATE and then one INSERT an event, each committing by itself, and moves the
persisted marker of the object only at its end. A `Session` is one object and the tables behind it; an `Attempt` is one
call of `save`, with the object as the caller has it by then.

- `save_atomic`: in every session, each save that raises leaves the tables as they were and each save that returns leaves
  every event stored exactly once, iff each save that fails does so at its UPDATE, or at its first INSERT after an UPDATE
  that set what the row already held.
- `save_torn`: a save that fails at its second INSERT has moved the row and stored one event, and the retry stores that
  event again.
-/
import Mathlib.Tactic
import TrinoManagement.Core.Run
import TrinoManagement.Ops.Repository

namespace TrinoManagement.Repository

open TrinoManagement.Sequence
open TrinoManagement.Run (Meets meets_cons)

/-! ## Saves of one object -/

/-- one call of `save` -/
structure Attempt where
  sequence : RestartSequence
  now : ℚ
  forceReason : Option String
  fault : Option Fault

/-- the stored sequences, and the object that is saved -/
structure Session where
  rows : List Row
  stored : StoredSequence

namespace Session

variable (s : Session) (a : Attempt)

/-- the object as it is handed to `save` -/
def saving : StoredSequence := { s.stored with sequence := a.sequence }

/-- what `save` raises, and the row it leaves -/
def result : Except String Unit × Option Row :=
  saveRow .postgres a.now a.fault s.rows (s.saving a) a.forceReason

def step : Session :=
  ⟨match (s.result a).2 with
    | some row => s.rows.set s.stored.id row
    | none => s.rows,
    match (s.result a).1 with
    | .ok () => (s.saving a).markPersisted
    | .error _ => s.saving a⟩

/-- the stored events of the object's sequence -/
def events : List Entry := (s.rows[s.stored.id]?.map Row.events).getD []

/-- the object has a row, and counts no more events as persisted than it has -/
structure Tracked : Prop where
  row : ∃ row, s.rows[s.stored.id]? = some row
  persisted : s.stored.persistedEvents ≤ s.stored.sequence.history.length

end Session

/-- between two saves the object's history only grows -/
def Appends (s : Session) (a : Attempt) : Prop := s.stored.sequence.history <+: a.sequence.history

instance (s : Session) (a : Attempt) : Decidable (Appends s a) := by unfold Appends; infer_instance

/-- a save that raises leaves the tables as they were; one that returns leaves every event of the object stored once,
after those stored at the start -/
def Atomic (start s : Session) (a : Attempt) : Prop :=
  match (s.result a).1 with
  | .error _ => (s.step a).rows = s.rows
  | .ok () => (s.step a).events = start.events ++ a.sequence.history.drop start.stored.persistedEvents

instance (start s : Session) (a : Attempt) : Decidable (Atomic start s a) := by
  unfold Atomic; split <;> infer_instance

/-! ## The condition -/

/-- the UPDATE sets what the row already holds -/
def Rewrites (row : Row) (a : Attempt) : Prop :=
  row.state = a.sequence.state ∧ row.runningQueries = a.sequence.runningQueries ∧
    row.healthState = a.sequence.healthState ∧ (a.forceReason = none ∨ a.forceReason = row.forceReason) ∧
    row.finishedAt.isSome = decide (a.sequence.state ∈ terminal)

instance (row : Row) (a : Attempt) : Decidable (Rewrites row a) := by unfold Rewrites; infer_instance

/-- a fault hits the UPDATE, or no statement at all, or the first INSERT after an UPDATE that changed nothing; or the
unique index refuses the UPDATE -/
def FailsFirst (s : Session) (a : Attempt) : Prop :=
  ∀ row ∈ s.rows[s.stored.id]?, ∀ f ∈ a.fault,
    f.after = 0 ∨ (s.saving a).pendingEvents.length < f.after ∨ conflicts s.rows s.stored.id row a.sequence.state = true ∨
      (f.after = 1 ∧ Rewrites row a)

instance (s : Session) (a : Attempt) : Decidable (FailsFirst s a) := by unfold FailsFirst; infer_instance

/-! ## One save -/

section Save

variable {start s : Session} {a : Attempt} {row : Row}

/-- the row after the UPDATE and some INSERTs of this save -/
abbrev leaves (s : Session) (a : Attempt) (n : ℕ) (row : Row) : Row :=
  row.written .postgres a.now (s.saving a) a.forceReason n

/-- the UPDATE alone leaves the row as it was exactly when it sets what is there -/
theorem leaves_zero : leaves s a 0 row = row ↔ Rewrites row a := by
  obtain ⟨cluster, state, reason, actor, roles, running, health, force, startedAt, finishedAt, events⟩ := row
  unfold Rewrites
  simp only [leaves, Row.written, Session.saving, List.take_zero, List.append_nil, Row.mk.injEq, true_and, and_true]
  have hforce : Storage.postgres.force a.forceReason force = force ↔ a.forceReason = none ∨ a.forceReason = force := by
    cases a.forceReason <;> simp [Storage.force, eq_comm]
  have hfinish : Storage.postgres.finish a.now a.sequence.state finishedAt = finishedAt ↔
      finishedAt.isSome = decide (a.sequence.state ∈ terminal) := by
    by_cases h : a.sequence.state ∈ terminal <;> cases finishedAt <;> simp [Storage.finish, h]
  rw [hforce, hfinish]
  constructor
  · rintro ⟨h1, h2, h3, h4, h5⟩
    exact ⟨h1.symm, h2.symm, h3.symm, h4, h5⟩
  · rintro ⟨h1, h2, h3, h4, h5⟩
    exact ⟨h1.symm, h2.symm, h3.symm, h4, h5⟩

/-- an INSERT that committed shows -/
theorem leaves_succ {n : ℕ} (hn : n < (s.saving a).pendingEvents.length) : leaves s a (n + 1) row ≠ row := by
  intro h
  have hlen := congrArg (fun r : Row => r.events.length) h
  simp only [leaves, Row.written, List.length_append, List.length_take] at hlen
  omega

/-- how a save comes out: it meets the condition and leaves the row as it was or writes everything, or it fails the
condition, raises, and leaves another row -/
theorem result_cases (hrow : s.rows[s.stored.id]? = some row) :
    (FailsFirst s a ∧ ((∃ e, s.result a = (.error e, none)) ∨ (∃ e, s.result a = (.error e, some row)) ∨
      s.result a = (.ok (), some (leaves s a (s.saving a).pendingEvents.length row)))) ∨
    (¬ FailsFirst s a ∧ ∃ e row', s.result a = (.error e, some row') ∧ row' ≠ row) := by
  have hcond : FailsFirst s a ↔ ∀ f ∈ a.fault, f.after = 0 ∨ (s.saving a).pendingEvents.length < f.after ∨
      conflicts s.rows s.stored.id row a.sequence.state = true ∨ (f.after = 1 ∧ Rewrites row a) := by
    simp [FailsFirst, hrow]
  have hsave : s.rows[(s.saving a).id]? = some row := hrow
  unfold Session.result
  by_cases hc : conflicts s.rows s.stored.id row a.sequence.state = true
  · exact .inl ⟨hcond.2 fun f _ => .inr (.inr (.inl hc)), .inl (saveRow_refused hsave hc)⟩
  have hfree : conflicts s.rows (s.saving a).id row (s.saving a).sequence.state = false :=
    Bool.eq_false_iff.2 hc
  by_cases hthrough : ∀ f ∈ a.fault, (s.saving a).pendingEvents.length < f.after
  · refine .inl ⟨hcond.2 fun f hf => .inr (.inl (hthrough f hf)), .inr (.inr ?_)⟩
    exact saveRow_through hsave hfree hthrough
  -- a statement of this save fails: the UPDATE, or an INSERT
  push Not at hthrough
  obtain ⟨⟨after, text⟩, hf, hafter⟩ := hthrough
  simp only at hafter
  have hfault : a.fault = some ⟨after, text⟩ := hf
  have hone : FailsFirst s a ↔ after = 0 ∨ (after = 1 ∧ Rewrites row a) := by
    rw [hcond, hfault]
    simp [hc, not_lt.2 hafter]
  rw [hone, hfault]
  cases after with
  | zero => exact .inl ⟨.inl rfl, .inl ⟨text, saveRow_update hsave⟩⟩
  | succ n =>
    have htorn : saveRow .postgres a.now (some ⟨n + 1, text⟩) s.rows (s.saving a) a.forceReason =
        (.error text, some (leaves s a n row)) := saveRow_torn hsave hfree hafter
    rw [htorn]
    cases n with
    | zero =>
      by_cases hr : Rewrites row a
      · exact .inl ⟨.inr ⟨rfl, hr⟩, .inr (.inl ⟨text, by rw [leaves_zero.2 hr]⟩)⟩
      · exact .inr ⟨by simp [hr], text, _, rfl, fun h => hr (leaves_zero.1 h)⟩
    | succ n => exact .inr ⟨by simp, text, _, rfl, leaves_succ (by omega)⟩

theorem step_raised {e : String} {r : Option Row} (h : s.result a = (.error e, r)) :
    s.step a = ⟨(r.map (s.rows.set s.stored.id)).getD s.rows, s.saving a⟩ := by
  unfold Session.step
  rw [h]
  cases r <;> rfl

theorem step_returned {row' : Row} (h : s.result a = (.ok (), some row')) :
    s.step a = ⟨s.rows.set s.stored.id row', (s.saving a).markPersisted⟩ := by
  unfold Session.step
  rw [h]

/-- a save that leaves the tables as they were met the condition -/
theorem failsFirst_of_atomic (hrow : s.rows[s.stored.id]? = some row) (h : Atomic start s a) : FailsFirst s a := by
  rcases result_cases (a := a) hrow with ⟨hc, -⟩ | ⟨-, e, row', hres, hne⟩
  · exact hc
  · -- the save raised, and the row has changed
    exfalso
    apply hne
    unfold Atomic at h
    rw [hres, step_raised hres] at h
    have hrows : s.rows.set s.stored.id row' = s.rows := h
    have hget : (s.rows.set s.stored.id row')[s.stored.id]? = some row' := getElem?_written hrow
    rw [hrows, hrow] at hget
    exact (Option.some.inj hget).symm

/-- whatever a save does, the object keeps its row -/
theorem row_step (hrow : s.rows[s.stored.id]? = some row) :
    ∃ row', (s.step a).rows[(s.step a).stored.id]? = some row' := by
  rcases result_cases (a := a) hrow with ⟨-, ⟨e, he⟩ | ⟨e, he⟩ | he⟩ | ⟨-, e, row', he, -⟩
  · rw [step_raised he]; exact ⟨row, hrow⟩
  · rw [step_raised he]; exact ⟨row, getElem?_written hrow⟩
  · rw [step_returned he]; exact ⟨_, getElem?_written hrow⟩
  · rw [step_raised he]; exact ⟨row', getElem?_written hrow⟩

end Save

/-! ## Every session -/

/-- the events stored since the start are those the object counts as persisted since then -/
structure Exact (start s : Session) : Prop where
  row : ∃ row, s.rows[s.stored.id]? = some row
  since : start.stored.persistedEvents ≤ s.stored.persistedEvents
  persisted : s.stored.persistedEvents ≤ s.stored.sequence.history.length
  events : s.events = start.events ++
    (s.stored.sequence.history.drop start.stored.persistedEvents).take
      (s.stored.persistedEvents - start.stored.persistedEvents)

section Sessions

variable {start s : Session} {a : Attempt}

theorem exact_start (h : start.Tracked) : Exact start start := ⟨h.row, le_rfl, h.persisted, by simp⟩

theorem events_of_row {row : Row} (hrow : s.rows[s.stored.id]? = some row) : s.events = row.events := by
  simp [Session.events, hrow]

/-- the history may grow without touching what is stored -/
theorem exact_saving (h : Exact start s) (ha : Appends s a) : Exact start ⟨s.rows, s.saving a⟩ := by
  obtain ⟨new, hnew⟩ := ha
  have hlen := h.persisted
  refine ⟨h.row, h.since, ?_, ?_⟩
  · simp only [Session.saving, ← hnew, List.length_append]
    omega
  · have hold : (⟨s.rows, s.saving a⟩ : Session).events = s.events := rfl
    rw [hold, h.events]
    simp only [Session.saving, ← hnew]
    -- what was persisted lies in the old history
    rw [List.drop_append_of_le_length (h.since.trans hlen), List.take_append_of_le_length]
    rw [List.length_drop]
    omega

/-- **One save.** A save that meets the condition is atomic, and what is stored stays exact. -/
theorem exact_step (h : Exact start s) (ha : Appends s a) (hc : FailsFirst s a) :
    Atomic start s a ∧ Exact start (s.step a) := by
  obtain ⟨row, hrow⟩ := h.row
  have hsaving := exact_saving h ha
  have unchanged : ∀ rows', rows' = s.rows → Exact start ⟨rows', s.saving a⟩ := by
    rintro rows' rfl
    exact hsaving
  rcases result_cases (a := a) hrow with ⟨-, ⟨e, he⟩ | ⟨e, he⟩ | he⟩ | ⟨hc', -⟩
  · unfold Atomic
    rw [he, step_raised he]
    exact ⟨rfl, hsaving⟩
  · have hset : s.rows.set s.stored.id row = s.rows := by
      obtain ⟨hlt, hget⟩ := List.getElem?_eq_some_iff.1 hrow
      rw [← hget, List.set_getElem_self]
    unfold Atomic
    rw [he, step_raised he]
    exact ⟨hset, unchanged _ hset⟩
  · have hevents : (s.step a).events = start.events ++ a.sequence.history.drop start.stored.persistedEvents := by
      have hpending : (s.step a).events = s.events ++ a.sequence.history.drop s.stored.persistedEvents := by
        rw [step_returned he, events_of_row hrow]
        simp [Session.events, getElem?_written hrow, Session.saving, StoredSequence.markPersisted,
          StoredSequence.pendingEvents, Row.written]
      have hold : s.events = start.events ++ (a.sequence.history.drop start.stored.persistedEvents).take
          (s.stored.persistedEvents - start.stored.persistedEvents) := hsaving.events
      rw [hpending, hold, List.append_assoc]
      congr 1
      -- the part stored before and the part stored now
      conv_rhs => rw [← List.take_append_drop (s.stored.persistedEvents - start.stored.persistedEvents)
        (a.sequence.history.drop start.stored.persistedEvents)]
      rw [List.drop_drop]
      congr 2
      have := h.since
      omega
    refine ⟨?_, ?_⟩
    · unfold Atomic
      rw [he]
      exact hevents
    · have hlen : start.stored.persistedEvents ≤ a.sequence.history.length := h.since.trans hsaving.persisted
      refine ⟨row_step hrow, ?_, ?_, ?_⟩
      · rw [step_returned he]; exact hlen
      · rw [step_returned he]; exact le_rfl
      · rw [hevents, step_returned he]
        congr 1
        refine (List.take_of_length_le ?_).symm
        simp [Session.saving, StoredSequence.markPersisted]
  · exact absurd hc hc'

end Sessions

/-- **Saving a sequence is atomic when it fails at once.** In every session of one object, whose history only grows
between saves: each save that raises leaves the tables as they were, and each save that returns, after any number that
raised, leaves every event stored exactly once, iff each save that fails does so at its UPDATE, or at its first INSERT
after an UPDATE that set what the row already held. -/
theorem save_atomic (start : Session) (attempts : List Attempt) (htracked : start.Tracked)
    (happends : Meets Session.step Appends start attempts) :
    Meets Session.step (Atomic start) start attempts ↔ Meets Session.step FailsFirst start attempts := by
  constructor
  · -- only that the object has a row is carried along
    intro hatomic
    have main : ∀ (attempts : List Attempt) (s : Session), (∃ row, s.rows[s.stored.id]? = some row) →
        Meets Session.step (Atomic start) s attempts → Meets Session.step FailsFirst s attempts := by
      intro attempts
      induction attempts with
      | nil => exact fun _ _ _ => trivial
      | cons a rest ih =>
        rintro s ⟨row, hrow⟩ ⟨ha, hrest⟩
        exact ⟨failsFirst_of_atomic hrow ha, ih _ (row_step hrow) hrest⟩
    exact main attempts start htracked.row hatomic
  · intro hfirst
    have main : ∀ (attempts : List Attempt) (s : Session), Exact start s → Meets Session.step Appends s attempts →
        Meets Session.step FailsFirst s attempts → Meets Session.step (Atomic start) s attempts := by
      intro attempts
      induction attempts with
      | nil => exact fun _ _ _ _ => trivial
      | cons a rest ih =>
        rintro s hs ⟨ha, hrest⟩ ⟨hf, hfrest⟩
        obtain ⟨hatomic, hexact⟩ := exact_step hs ha hf
        exact ⟨hatomic, ih _ hexact hrest hfrest⟩
    exact main attempts start (exact_start htracked) happends hfirst

/-- a sequence whose deactivation failed, as `start` closes it: three events to save -/
def Sample.gaveUp : RestartSequence :=
  (((RestartSequence.initial "prod-a" Sequence.Sample.upgrade "kim").append 1 "Could not stop traffic: down"
    levelError).beginAbort 1 "Nothing was changed.").1.finishAbort 1 |>.1

/-- the sequence as `create` saved it -/
def Sample.created : Session :=
  let sequence := RestartSequence.initial "prod-a" Sequence.Sample.upgrade "kim"
  ⟨[newRow 0 sequence ["admin"]], ⟨0, sequence, 0, none, none⟩⟩

/-- a save that fails after `after` statements, and its retry -/
def Sample.retried (after : ℕ) : List Attempt :=
  [⟨Sample.gaveUp, 1, none, some ⟨after, "server closed the connection"⟩⟩, ⟨Sample.gaveUp, 2, none, none⟩]

/-- the UPDATE fails, and the retry stores the three events -/
theorem save_atomic_update : Meets Session.step (Atomic Sample.created) Sample.created (Sample.retried 0) :=
  (save_atomic Sample.created (Sample.retried 0) ⟨⟨_, rfl⟩, le_rfl⟩ (by decide +kernel)).2 (by decide +kernel)

/-- **A save is torn.** The UPDATE and the first INSERT commit and the second fails: the row says ABORTED, one event is
stored, and the retry stores it a second time. -/
theorem save_torn :
    Sample.created.Tracked ∧ Meets Session.step Appends Sample.created (Sample.retried 2) ∧
    ¬ Meets Session.step (Atomic Sample.created) Sample.created (Sample.retried 2) ∧
    (Run.run Session.step Sample.created (Sample.retried 2)).events.length = Sample.gaveUp.history.length + 1 :=
  ⟨⟨⟨_, rfl⟩, le_rfl⟩, by decide +kernel, by decide +kernel, by decide +kernel⟩

end TrinoManagement.Repository
