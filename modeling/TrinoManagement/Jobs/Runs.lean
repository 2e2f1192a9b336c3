/-
The run tables of fleet jobs and benchmarks, `tms/fleet/jobstore.py` and `tms/bench/store.py`: one row a run, and a partial
unique index that allows one RUNNING row per cluster.

- `Table`: rows with the index as a field, so that a table that breaks it cannot be built.
- `Table.create`: an INSERT, which the index may refuse. `Table.finish`: an UPDATE by id, whatever the row says.
- `Table.reconcileOrphans`: every RUNNING row becomes UNKNOWN.
-/
import Mathlib.Tactic

namespace TrinoManagement.Jobs

inductive RunState where
  | running | succeeded | failed | aborted | unknown
deriving DecidableEq, Repr

/-- `TERMINAL` -/
def RunState.terminal (s : RunState) : Bool := s ≠ .running

/-- `fleet_job_run` and `benchmark_run` -/
inductive Kind where
  | fleet | benchmark
deriving DecidableEq, Repr

/-- a run; `what` is its job or its query set, and only fleet jobs have an exit code -/
structure RunRow where
  cluster : String
  what : String
  state : RunState
  exitCode : Option ℤ
  error : Option String
  finishedAt : Option ℚ
deriving DecidableEq, Repr

/-- how a run ended, which is never RUNNING -/
structure Outcome where
  state : RunState
  ended : state ≠ .running
  exitCode : Option ℤ
  error : Option String
deriving DecidableEq

/-- the rows by id, under the partial unique index on the cluster of a RUNNING row -/
structure Table where
  rows : List RunRow
  unique : ∀ (i j : ℕ) (r r' : RunRow), rows[i]? = some r → rows[j]? = some r' → r.state = .running → r'.state = .running →
    r.cluster = r'.cluster → i = j

namespace Table

variable (t : Table)

def empty : Table := ⟨[], fun i _ _ _ h => by simp at h⟩

/-- the index has room for a RUNNING row of the cluster -/
def Free (cluster : String) : Prop := ∀ row ∈ t.rows, row.state = .running → row.cluster ≠ cluster

instance (cluster : String) : Decidable (t.Free cluster) :=
  inferInstanceAs (Decidable (∀ row ∈ t.rows, row.state = .running → row.cluster ≠ cluster))

def newRow (cluster what : String) : RunRow := ⟨cluster, what, .running, none, none, none⟩

/-- `create`: `none` is the `UniqueViolation` -/
def create (cluster what : String) : Option Table :=
  if h : t.Free cluster then
    some ⟨t.rows ++ [newRow cluster what], by
      intro i j r r' hi hj hr hr' hc
      rw [List.getElem?_append] at hi hj
      split_ifs at hi hj with hlt hlt'
      · exact t.unique i j r r' hi hj hr hr' hc
      · obtain rfl := List.mem_singleton.1 (List.mem_of_getElem? hj)
        exact absurd hc (h r (List.mem_of_getElem? hi) hr)
      · obtain rfl := List.mem_singleton.1 (List.mem_of_getElem? hi)
        exact absurd hc.symm (h r' (List.mem_of_getElem? hj) hr')
      · have hi' := (List.getElem?_eq_some_iff.1 hi).1
        have hj' := (List.getElem?_eq_some_iff.1 hj).1
        simp only [List.length_singleton] at hi' hj'
        omega⟩
  else none

/-- an UPDATE that leaves no row RUNNING that it touches -/
def close (touches : ℕ → RunRow → Bool) (set : RunRow → RunRow) (hset : ∀ row, (set row).state ≠ .running) : Table :=
  ⟨t.rows.mapIdx fun i row => if touches i row then set row else row, by
    have back : ∀ (i : ℕ) (r : RunRow), (t.rows.mapIdx fun i row => if touches i row then set row else row)[i]? = some r →
        r.state = .running → t.rows[i]? = some r := by
      intro i r hi hr
      rw [List.getElem?_mapIdx] at hi
      obtain ⟨row, hrow, hval⟩ := Option.map_eq_some_iff.1 hi
      split_ifs at hval
      · subst hval
        exact absurd hr (hset row)
      · rw [hrow, hval]
    intro i j r r' hi hj hr hr' hc
    exact t.unique i j r r' (back i r hi hr) (back j r' hj hr') hr hr' hc⟩

/-- what `finish` writes: UNKNOWN has no finish time -/
def finished (outcome : Outcome) (now : ℚ) (row : RunRow) : RunRow :=
  { row with
    state := outcome.state
    exitCode := outcome.exitCode
    error := outcome.error
    finishedAt := if outcome.state = .unknown then none else some now }

/-- `finish`, by id -/
def finish (id : ℕ) (outcome : Outcome) (now : ℚ) : Table :=
  t.close (fun i _ => i = id) (finished outcome now) fun _ => outcome.ended

/-- `COALESCE(error, ...)` -/
def orphaned (message : String) (row : RunRow) : RunRow :=
  { row with state := .unknown, error := row.error.orElse fun _ => some message }

def orphanMessage : Kind → String
  | .fleet =>
    "tms-api restarted while this job was running, so  its outcome was never observed. Check the nodes."
  | .benchmark => "tms-api restarted while this run was in flight, so the set may be incomplete. Compare with care."

/-- `reconcile_orphans`: whoever's run it is -/
def reconcileOrphans (kind : Kind) : Table :=
  t.close (fun _ row => row.state = .running) (orphaned (orphanMessage kind)) fun _ => by simp [orphaned]

/-! ## Rows -/

variable {t} {t' : Table} {cluster what : String}

theorem close_getElem? (touches : ℕ → RunRow → Bool) (set : RunRow → RunRow) (hset : ∀ row, (set row).state ≠ .running)
    (i : ℕ) : (t.close touches set hset).rows[i]? = t.rows[i]?.map fun row => if touches i row then set row else row := by
  unfold close
  rw [List.getElem?_mapIdx]

/-- **Insert.** What was there stays, and the new row is RUNNING under the next id. -/
theorem create_eq_some (h : t.create cluster what = some t') :
    (∀ (i : ℕ) (row : RunRow), t.rows[i]? = some row → t'.rows[i]? = some row) ∧
    t'.rows[t.rows.length]? = some (newRow cluster what) := by
  unfold create at h
  split_ifs at h
  obtain rfl := Option.some.inj h
  refine ⟨fun i row hi => ?_, by simp⟩
  have hlt := (List.getElem?_eq_some_iff.1 hi).1
  change (t.rows ++ [newRow cluster what])[i]? = some row
  rw [List.getElem?_append_left hlt]
  exact hi

/-- only the row of the id changes -/
theorem finish_of_ne {id i : ℕ} (h : i ≠ id) (outcome : Outcome) (now : ℚ) :
    (t.finish id outcome now).rows[i]? = t.rows[i]? := by
  refine (close_getElem? _ _ _ i).trans ?_
  simp [h]

/-- a row that has ended is no orphan -/
theorem reconcileOrphans_of_terminal {kind : Kind} {i : ℕ} {row : RunRow} (h : t.rows[i]? = some row)
    (hrow : row.state.terminal = true) : (t.reconcileOrphans kind).rows[i]? = some row := by
  refine (close_getElem? _ _ _ i).trans ?_
  rw [h]
  have hne : row.state ≠ .running := by simpa [RunState.terminal] using hrow
  simp [hne]

end Table

end TrinoManagement.Jobs
