/-
`tms/bench/runner.py`: one execution of one query, and a whole run. The allowlist is asked again before a statement is
handed to the SQL client; whatever the client answers becomes a recorded outcome, and only other exceptions leave it.

- `one_handed_iff`: what is handed to the client.
- `loops_eq`: the two loops walk the product of iterations and queries, iteration by iteration.
- `walk_cases`: a walk goes on to its end, or stops at the first turn that sees an abort or raises; up to there every
  turn has left one result.
-/
import Mathlib.Tactic
import TrinoManagement.Bench.QuerySet
import TrinoManagement.Core.Value

namespace TrinoManagement.Bench

structure Query where
  name : String
  sql : List Char
deriving DecidableEq, Repr

/-- what `execute` of the SQL client does with a statement -/
inductive Answer where
  | finished (queryId : Value) (elapsedMs : ℤ) (stats : Value)
  | queryFailed (queryId : Value) (elapsedMs : Option ℤ) (message : String)
  | clientError (message : String)
  | raised (e : PyError)
deriving DecidableEq

inductive ExecutionState where
  | succeeded | failed
deriving DecidableEq, Repr

structure QueryOutcome where
  queryName : String
  iteration : ℕ
  state : ExecutionState
  trinoQueryId : Value
  elapsedMs : ℤ
  error : Option String
  measured : List (String × Option ℤ)
deriving DecidableEq

/-- `STAT_COLUMNS` -/
def statColumns : List (String × String) :=
  [("trino_elapsed_ms", "elapsedTimeMillis"), ("trino_cpu_ms", "cpuTimeMillis"), ("trino_queued_ms", "queuedTimeMillis"),
    ("trino_planning_ms", "planningTimeMillis"), ("processed_rows", "processedRows"), ("processed_bytes", "processedBytes"),
    ("peak_memory_bytes", "peakMemoryBytes")]

/-- `measurements`: a number is cut to an integer, anything else was not measured -/
def measurements (stats : Value) : Except PyError (List (String × Option ℤ)) :=
  statColumns.mapM fun column => do
    let value ← stats.orEmptyDict.callGet column.2
    pure (column.1, value.numeric.map truncate)

/-- what was handed to the client, and what became of it -/
structure Execution where
  handed : Option (List Char)
  outcome : Except PyError QueryOutcome

/-- `a or b` of two durations -/
def orMs (elapsed : Option ℤ) (ms : ℤ) : ℤ := if elapsed.getD 0 ≠ 0 then elapsed.getD 0 else ms

section One

variable (beyond : Char → List Char) (repr : String → String)

/-- `_one`; `ms` is the runner's own clock -/
def one (client : List Char → Answer) (ms : ℤ) (query : Query) (iteration : ℕ) : Execution :=
  match refuseStatement beyond repr query.sql with
  | some refusal =>
    { handed := none
      outcome := do
        let measured ← measurements .none
        pure ⟨query.name, iteration, .failed, .none, 0, some ("Refused before execution: " ++ refusal ++ "."), measured⟩ }
  | none =>
    { handed := some query.sql
      outcome :=
        match client query.sql with
        | .finished queryId elapsedMs stats => do
          let measured ← measurements stats
          pure ⟨query.name, iteration, .succeeded, queryId, orMs (some elapsedMs) ms, none, measured⟩
        | .queryFailed queryId elapsedMs message => do
          let measured ← measurements .none
          pure ⟨query.name, iteration, .failed, queryId, orMs elapsedMs ms, some message, measured⟩
        | .clientError message => do
          let measured ← measurements .none
          pure ⟨query.name, iteration, .failed, .none, ms, some message, measured⟩
        | .raised e => .error e }

variable {beyond repr} {client : List Char → Answer} {ms : ℤ} {query : Query} {iteration : ℕ}

/-- **The second check.** A statement is handed over as it is, and only if the allowlist has nothing against it. -/
theorem one_handed_iff {sql : List Char} : (one beyond repr client ms query iteration).handed = some sql ↔
    sql = query.sql ∧ refuseStatement beyond repr sql = none := by
  unfold one
  cases h : refuseStatement beyond repr query.sql with
  | some refusal =>
    constructor
    · intro hhanded
      cases hhanded
    · intro hboth
      obtain ⟨rfl, hnone⟩ := hboth
      rw [h] at hnone
      cases hnone
  | none =>
    constructor
    · intro hhanded
      obtain rfl := Option.some.inj hhanded
      exact ⟨rfl, h⟩
    · intro hboth
      obtain ⟨rfl, -⟩ := hboth
      rfl

end One

/-! ## A run -/

inductive RunState where
  | succeeded | failed | aborted
deriving DecidableEq, Repr

/-- what a run writes: its results, and what it calls `finish` with -/
structure RunRecord where
  results : List QueryOutcome
  finished : List (RunState × Option String)
deriving DecidableEq

def RunRecord.addResult (r : RunRecord) (outcome : QueryOutcome) : RunRecord := { r with results := r.results ++ [outcome] }

def RunRecord.finish (r : RunRecord) (state : RunState) (error : Option String) : RunRecord :=
  { r with finished := r.finished ++ [(state, error)] }

/-- what is outside at one turn of the inner loop: the abort flag, the SQL client, and how long it takes -/
structure Turn where
  abort : Bool
  client : List Char → Answer
  ms : ℤ

/-- the counters of `_run`, and what it has written -/
structure Progress where
  executed : ℕ
  failures : ℕ
  record : RunRecord

/-- how the loops are left early: the `return` after an abort, or an exception -/
inductive Leave where
  | returned
  | raised (e : PyError)

/-- what a stopped run says of itself -/
def stopped (executed : ℕ) : String :=
  "Stopped on request after " ++ toString executed ++ " quer" ++ (if executed = 1 then "y" else "ies") ++ "."

section Run

variable (beyond : Char → List Char) (repr : String → String) (world : ℕ → Turn)

def turn (p : Progress) (iteration : ℕ) (query : Query) : Except (Leave × RunRecord) Progress :=
  let now := world p.executed
  if now.abort then .error (.returned, p.record.finish .aborted (some (stopped p.executed)))
  else
    match (one beyond repr now.client now.ms query iteration).outcome with
    | .error e => .error (.raised e, p.record)
    | .ok outcome =>
      .ok ⟨p.executed + 1, if outcome.state = .failed then p.failures + 1 else p.failures, p.record.addResult outcome⟩

def loops (queries : List Query) (repetitions : ℤ) : Except (Leave × RunRecord) Progress :=
  (List.range' 1 repetitions.toNat).foldlM
    (fun p iteration => queries.foldlM (fun p query => turn beyond repr world p iteration query) p) ⟨0, 0, ⟨[], []⟩⟩

/-- `_run`; `opened` is what `sql_client_factory` did -/
def runBenchmark (opened : Except PyError Unit) (queries : List Query) (repetitions : ℤ) : RunRecord :=
  match opened with
  | .error e => RunRecord.finish ⟨[], []⟩ .failed (some e.message)
  | .ok () =>
    match loops beyond repr world queries repetitions with
    | .ok p =>
      if p.executed ≠ 0 ∧ p.failures = p.executed then
        p.record.finish .failed (some "Every query failed. See the results for why.")
      else p.record.finish .succeeded none
    | .error (.returned, record) => record
    | .error (.raised e, record) => record.finish .failed (some e.message)

/-- the product of iterations and queries, iteration by iteration -/
def work (queries : List Query) (repetitions : ℤ) : List (ℕ × Query) :=
  (List.range' 1 repetitions.toNat).flatMap fun iteration => queries.map fun query => (iteration, query)

/-- what becomes of an execution at turn `k` -/
def outcomeAt (k : ℕ) (w : ℕ × Query) : Except PyError QueryOutcome :=
  (one beyond repr (world k).client (world k).ms w.2 w.1).outcome

/-- the loops over a list of work -/
def walk (p : Progress) (rest : List (ℕ × Query)) : Except (Leave × RunRecord) Progress :=
  rest.foldlM (fun p w => turn beyond repr world p w.1 w.2) p

theorem loops_eq (queries : List Query) (repetitions : ℤ) :
    loops beyond repr world queries repetitions = walk beyond repr world ⟨0, 0, ⟨[], []⟩⟩ (work queries repetitions) := by
  unfold loops walk work
  generalize (⟨0, 0, ⟨[], []⟩⟩ : Progress) = p
  induction List.range' 1 repetitions.toNat generalizing p with
  | nil => rfl
  | cons iteration rest ih =>
    rw [List.foldlM_cons, List.flatMap_cons, List.foldlM_append, List.foldlM_map]
    simp only [ih]

variable {beyond repr world}

/-- an outcome is named after its query and iteration -/
theorem outcomeAt_names {k : ℕ} {w : ℕ × Query} {o : QueryOutcome} (h : outcomeAt beyond repr world k w = .ok o) :
    o.iteration = w.1 ∧ o.queryName = w.2.name := by
  have named : ∀ {x : Except PyError (List (String × Option ℤ))} {f : List (String × Option ℤ) → QueryOutcome},
      (x >>= fun measured => pure (f measured)) = Except.ok o →
      (∀ measured, (f measured).iteration = w.1 ∧ (f measured).queryName = w.2.name) →
      o.iteration = w.1 ∧ o.queryName = w.2.name := by
    intro x f hx hf
    obtain ⟨measured, -, ho⟩ := bind_eq_ok.1 hx
    obtain rfl := Except.ok.inj ho
    exact hf measured
  unfold outcomeAt one at h
  split at h
  · exact named h fun _ => ⟨rfl, rfl⟩
  · dsimp only at h
    split at h
    · exact named h fun _ => ⟨rfl, rfl⟩
    · exact named h fun _ => ⟨rfl, rfl⟩
    · exact named h fun _ => ⟨rfl, rfl⟩
    · cases h

/-- every turn so far has left its result, and nothing is finished -/
structure Kept (beyond : Char → List Char) (repr : String → String) (world : ℕ → Turn) (all : List (ℕ × Query))
    (p : Progress) : Prop where
  length : p.record.results.length = p.executed
  results : ∀ k o, p.record.results[k]? = some o →
    (world k).abort = false ∧ ∃ w, all[k]? = some w ∧ outcomeAt beyond repr world k w = .ok o
  failures : p.failures = p.record.results.countP fun o => o.state = .failed
  unfinished : p.record.finished = []

theorem Kept.le {all : List (ℕ × Query)} {p : Progress} (h : Kept beyond repr world all p) : p.executed ≤ all.length := by
  by_contra hlt
  have hlast : all.length < p.record.results.length := by
    rw [h.length]
    omega
  obtain ⟨-, w, hw, -⟩ := h.results _ _ (List.getElem?_eq_getElem hlast)
  exact (List.getElem?_eq_some_iff.1 hw).1.ne rfl

section Turn

variable {p : Progress} {w : ℕ × Query}

theorem turn_abort (h : (world p.executed).abort = true) :
    turn beyond repr world p w.1 w.2 = .error (.returned, p.record.finish .aborted (some (stopped p.executed))) := by
  simp [turn, h]

theorem turn_raise {e : PyError} (h : (world p.executed).abort = false)
    (hout : outcomeAt beyond repr world p.executed w = .error e) :
    turn beyond repr world p w.1 w.2 = .error (.raised e, p.record) := by
  unfold outcomeAt at hout
  simp [turn, h, hout]

theorem turn_go {o : QueryOutcome} (h : (world p.executed).abort = false)
    (hout : outcomeAt beyond repr world p.executed w = .ok o) : turn beyond repr world p w.1 w.2 =
      .ok ⟨p.executed + 1, if o.state = .failed then p.failures + 1 else p.failures, p.record.addResult o⟩ := by
  unfold outcomeAt at hout
  simp [turn, h, hout]

end Turn

theorem Kept.go {all : List (ℕ × Query)} {p : Progress} (h : Kept beyond repr world all p) {w : ℕ × Query}
    {o : QueryOutcome} (hw : all[p.executed]? = some w) (habort : (world p.executed).abort = false)
    (hout : outcomeAt beyond repr world p.executed w = .ok o) : Kept beyond repr world all
      ⟨p.executed + 1, if o.state = .failed then p.failures + 1 else p.failures, p.record.addResult o⟩ where
  length := by simp [RunRecord.addResult, h.length]
  results := by
    intro k o' hk
    simp only [RunRecord.addResult, List.getElem?_append, List.getElem?_singleton] at hk
    split_ifs at hk with hbefore hlast
    · exact h.results k o' hk
    · obtain rfl := Option.some.inj hk
      have heq : k = p.executed := by
        rw [h.length] at hbefore hlast
        omega
      subst heq
      exact ⟨habort, w, hw, hout⟩
  failures := by
    simp only [RunRecord.addResult, List.countP_append, List.countP_singleton, h.failures]
    by_cases hfailed : o.state = .failed <;> simp [hfailed]
  unfinished := h.unfinished

/-- **A walk** goes on to its end, or stops at the first turn that sees an abort or raises. -/
theorem walk_cases {all : List (ℕ × Query)} (rest : List (ℕ × Query)) {p : Progress} (h : Kept beyond repr world all p)
    (hrest : all.drop p.executed = rest) : ∃ p', Kept beyond repr world all p' ∧
    ((p'.executed = all.length ∧ walk beyond repr world p rest = .ok p') ∨
     (p'.executed < all.length ∧ (world p'.executed).abort = true ∧
      walk beyond repr world p rest = .error (.returned, p'.record.finish .aborted (some (stopped p'.executed)))) ∨
     (∃ w e, all[p'.executed]? = some w ∧ (world p'.executed).abort = false ∧
      outcomeAt beyond repr world p'.executed w = .error e ∧
      walk beyond repr world p rest = .error (.raised e, p'.record))) := by
  induction rest generalizing p with
  | nil => exact ⟨p, h, .inl ⟨le_antisymm h.le (List.drop_eq_nil_iff.1 hrest), rfl⟩⟩
  | cons w rest ih =>
    have hw : all[p.executed]? = some w := by
      rw [← List.head?_drop, hrest]
      rfl
    cases habort : (world p.executed).abort with
    | true =>
      refine ⟨p, h, .inr (.inl ⟨(List.getElem?_eq_some_iff.1 hw).1, habort, ?_⟩)⟩
      rw [walk, List.foldlM_cons, turn_abort habort]
      rfl
    | false =>
      cases hout : outcomeAt beyond repr world p.executed w with
      | error e =>
        refine ⟨p, h, .inr (.inr ⟨w, e, hw, habort, hout, ?_⟩)⟩
        rw [walk, List.foldlM_cons, turn_raise habort hout]
        rfl
      | ok o =>
        have hnext : all.drop (p.executed + 1) = rest := by
          rw [← List.tail_drop, hrest]
          rfl
        have hwalk : walk beyond repr world p (w :: rest) = walk beyond repr world
            ⟨p.executed + 1, if o.state = .failed then p.failures + 1 else p.failures, p.record.addResult o⟩ rest := by
          rw [walk, List.foldlM_cons, turn_go habort hout]
          rfl
        rw [hwalk]
        exact ih (h.go hw habort hout) hnext

end Run

end TrinoManagement.Bench
