/-
What the benchmark harness will and will not do, `tms/bench/service.py`: starting runs, scheduling them, and editing the
query sets they execute.

Each operation is a program over the effects `BenchAct`, in the order the source performs them, under the audit guard.
- `start`: the validation of a manual start. `createSchedule`: that of a schedule. `fire`: the start of what is due.
- `saveQuery`: inserts, replaces and renames a query. `createSet`: a set with its first query.
- `BenchWorld`, `serve`: the stores and who answers each effect.
-/
import Mathlib.Tactic
import TrinoManagement.Api.Guard
import TrinoManagement.Bench.Schedules
import TrinoManagement.Bench.SetStore

namespace TrinoManagement.Bench

open TrinoManagement.Audit TrinoManagement.Guard
open TrinoManagement.Service (Exn)
open TrinoManagement.Text (strip stripChars)

/-! ## Effects -/

/-- a row of `benchmark_run`, as far as a start writes it; its id is its place -/
structure BenchRun where
  cluster : String
  querySet : String
  actor : String
  roles : List String
  reason : String
  repetitions : ℤ
  guard : Value
  label : Option String
  queries : List BenchmarkQuery
  scheduleId : Option ℕ
  running : Bool
deriving DecidableEq

/-- what `create` of the schedules is given -/
structure NewSchedule where
  querySet : String
  label : Option String
  nextRunAt : ℤ
  createdBy : String
  fields : ScheduleFields
deriving DecidableEq, Repr

/-- what a fire writes on its row -/
structure FireOutcome where
  lastRunAt : ℤ
  lastOutcome : String
  consecutiveFailures : Option ℕ
  pausedReason : Option String
deriving DecidableEq, Repr

/-- `ActiveRunExists`, `BenchmarkStoreUnavailable` -/
inductive RunError where
  | activeRunExists
  | unavailable (message : String)
deriving DecidableEq, Repr

/-- `ValueError` of the store in memory, `ScheduleStoreUnavailable` -/
inductive ScheduleError where
  | duplicate
  | unavailable (message : String)
deriving DecidableEq, Repr

/-- everything the service does outside its own memory -/
inductive BenchAct where
  | now
  | getSet (key : String)
  | saveSet (key title description : String)
  | deleteSet (key : String)
  | saveQuery (key : String) (q : Save)
  | deleteQuery (key name : String)
  /-- `repository.active()` -/
  | active
  /-- `guard_for`, which is recorded only -/
  | guard (cluster : String)
  | createRun (run : BenchRun)
  /-- `runner.start` -/
  | startRunner (id : ℕ)
  | createSchedule (new : NewSchedule)
  | updateSchedule (id : ℕ) (outcome : FireOutcome)
deriving DecidableEq

@[reducible] def BenchAct.Answer : BenchAct → Type
  | .now => ℤ
  | .getSet _ => Except SetError (Option QuerySet)
  | .saveSet .. => Except SetError Unit
  | .deleteSet _ => Except SetError Bool
  | .saveQuery .. => Except SetError Unit
  | .deleteQuery .. => Except SetError Bool
  | .active => Except String (List BenchRun)
  | .guard _ => Except String Value
  | .createRun _ => Except RunError ℕ
  | .startRunner _ => Except String Unit
  | .createSchedule _ => Except ScheduleError Schedule
  | .updateSchedule .. => Except ScheduleError Unit

abbrev BenchM (α : Type) := M BenchAct BenchAct.Answer α

/-! ## Programs -/

/-- the configuration, whose ceiling was checked when it was loaded -/
structure BenchConfig where
  clusters : List String
  maxRepetitions : ℤ
  sane : 1 ≤ maxRepetitions ∧ maxRepetitions ≤ 20
deriving DecidableEq

/-- what is taken from Python: the `repr` of messages, and upper case beyond ASCII -/
structure Lib where
  repr : String → String
  beyond : Char → List Char

/-- the names of `QuerySetStoreUnavailable`, `UnknownSet` and `DuplicateName` where nobody catches them -/
def SetError.raw : SetError → Exn
  | .unavailable m => .client "QuerySetStoreUnavailable" m
  | .unknownSet key => .client "UnknownSet" key
  | .duplicateName name => .client "DuplicateName" name

/-- inside `_audited` -/
def SetError.audited : SetError → Exn
  | .unavailable m => .upstreamUnavailable m
  | e => e.raw

section Programs

variable (lib : Lib) (cfg : BenchConfig) (principal : Principal)

def adminMessage : String := "Only administrators can start a benchmark."

def clusterOr404 (cluster : String) : BenchM Unit :=
  refuse (if cluster ∈ cfg.clusters then none else some (.notFound ("No such cluster: " ++ cluster)))

def noSuchSet (key : String) : Exn :=
  .notFound ("No query set named " ++ lib.repr key ++ ". Sets are created on the query set page.")

def setOr404 (key : String) : BenchM QuerySet := do
  let found ← lift SetError.audited (← op (.getSet key))
  match found with
  | some found => pure found
  | none => throw (noSuchSet lib key)

/-! ### Starting -/

/-- the repetitions of a manual start, under the configured ceiling -/
def startRepetitions (repetitions : Value) : Except String ℤ :=
  match repetitions.toInt with
  | none => .error "Repetitions must be a number."
  | some n =>
    if 1 ≤ n ∧ n ≤ cfg.maxRepetitions then .ok n
    else .error ("Repetitions must be between 1 and " ++ toString cfg.maxRepetitions ++ ".")

/-- the class the scheduler tells from a broken schedule -/
def alreadyRunningClass : String := "BenchmarkAlreadyRunning"

def RunError.exn (cluster : String) : RunError → Exn
  | .activeRunExists => .client alreadyRunningClass ("A benchmark is already running on " ++ cluster ++
      ". Two runs on one cluster measure each other.")
  | .unavailable m => .upstreamUnavailable ("Cannot record this run, so it will not be started: " ++ m)

/-- `start`, `_start_audited` -/
def start (cluster querySet : String) (reason : Option String) (repetitions : Value) (label : Option String)
    (scheduleId : Option ℕ) : BenchM BenchRun := do
  requireAdmin principal adminMessage
  clusterOr404 cfg cluster
  let declared ← setOr404 lib querySet
  let n ← lift .invalidRequest (startRepetitions cfg repetitions)
  let guard ← lift (.client "Exception") (← op (.guard cluster))
  audited principal ⟨"BENCHMARK_RUN", "cluster", cluster ++ ":" ++ querySet, some cluster⟩ reason do
    let run : BenchRun := ⟨cluster, querySet, principal.username, principal.roles, reason.getD "", n, guard,
      label.filter (· ≠ ""), declared.queries, scheduleId, true⟩
    let id ← lift (RunError.exn cluster) (← op (.createRun run))
    lift (.client "RuntimeError") (← op (.startRunner id))
    pure run

/-! ### Schedules -/

/-- each cluster in turn, up to the first unknown one -/
def clustersOr404 : List String → BenchM Unit
  | [] => pure ()
  | cluster :: rest => do
    clusterOr404 cfg cluster
    clustersOr404 rest

def ScheduleError.exn (name : String) : ScheduleError → Exn
  | .duplicate => .invalidRequest ("A schedule called " ++ lib.repr name ++ " already exists.")
  | .unavailable m => .upstreamUnavailable m

/-- `create_schedule`; `startsAt` is what `_moment` made of the text -/
def createSchedule (name querySet : String) (clusters : List String) (intervalMinutes : Value) (reason : Option String)
    (repetitions : Value) (label : Option String) (startsAt : Option ℤ) : BenchM Schedule := do
  requireAdmin principal adminMessage
  let fields ← lift .invalidRequest (validate name intervalMinutes repetitions clusters reason)
  let _ ← setOr404 lib querySet
  clustersOr404 cfg fields.clusters
  let utcnow ← op .now
  audited principal ⟨"BENCHMARK_SCHEDULE_CHANGE", "benchmark_query_set", fields.name, none⟩ (some fields.reason) do
    lift (ScheduleError.exn lib fields.name)
      (← op (.createSchedule ⟨querySet, label, startsAt.getD utcnow, principal.username, fields⟩))

/-- a cluster a schedule could not start on -/
structure NotStarted where
  cluster : String
  message : String
  skipped : Bool
deriving DecidableEq, Repr

/-- what `_fire` returns -/
structure Fired where
  schedule : String
  started : List String
  refused : List NotStarted
deriving DecidableEq, Repr

/-- one cluster of a schedule; every exception is caught -/
def startScheduled (row : Schedule) (cluster : String) : BenchM (Except NotStarted String) :=
  tryCatch
    (do
      let run ← start lib cfg ⟨row.createdBy, ["admin"]⟩ cluster row.querySet (some row.reason) (.int row.repetitions)
        row.label (some row.id)
      pure (.ok run.cluster))
    fun e => pure (.error ⟨cluster, e.text, e.className = alreadyRunningClass⟩)

def startAll (row : Schedule) : List String → BenchM (List String × List NotStarted)
  | [] => pure ([], [])
  | cluster :: rest => do
    let result ← startScheduled lib cfg row cluster
    let others ← startAll row rest
    match result with
    | .ok cluster => pure (cluster :: others.1, others.2)
    | .error refused => pure (others.1, refused :: others.2)

/-- `str[:n]` -/
def firstChars (n : ℕ) (s : String) : String := String.ofList (s.toList.take n)

/-- `changes` of `_fire` -/
def outcomeOf (row : Schedule) (lastRunAt : ℤ) (started : List String) (refused : List NotStarted) : FireOutcome :=
  if started ≠ [] then ⟨lastRunAt, "started", some 0, none⟩
  else
    match refused.filter (!·.skipped) with
    | [] => ⟨lastRunAt, "skipped - a run was already going", none, none⟩
    | first :: _ =>
      let failures := row.consecutiveFailures + 1
      ⟨lastRunAt, firstChars 500 first.message, some failures,
        if failureLimit ≤ failures then
          some ("Paused after " ++ toString failures ++ " failures in a row. Last: " ++ firstChars 300 first.message)
        else none⟩

/-- `_fire`; an outcome that cannot be recorded is logged -/
def fire (row : Schedule) : BenchM Fired := do
  let (started, refused) ← startAll lib cfg row row.clusters
  let utcnow ← op .now
  let _ ← op (.updateSchedule row.id (outcomeOf row utcnow started refused))
  pure ⟨row.name, started, refused⟩

/-! ### Editing -/

/-- the clusters of the runs, in order -/
def clustersOf (runs : List BenchRun) : List String := (runs.map BenchRun.cluster).insertionSort (· ≤ ·)

/-- `_not_while_running`: a store that does not answer says nothing of a run -/
def notWhileRunning (key : String) : BenchM Unit := do
  let active ← op .active
  let running := match active with
    | .ok runs => runs.filter fun r => r.querySet = key
    | .error _ => []
  refuse (if running = [] then none else some (.invalidRequest ("A benchmark of " ++ lib.repr key ++ " is running on " ++
    String.intercalate ", " (clustersOf running) ++ ". Wait for it to finish or abort it first.")))

def changeTarget (target : String) : Target := ⟨"BENCHMARK_QUERY_CHANGE", "benchmark_query_set", target, none⟩

/-- `(statement or "").strip().rstrip(";")` -/
def cleanStatement (statement : List Char) : List Char := (stripChars statement).rdropWhile (· == ';')

def refuseSetKey (key : String) : BenchM Unit := refuse ((refuseName lib.repr key "set key").map .invalidRequest)

def refuseQuery (name : String) (sql : List Char) : BenchM Unit := do
  refuse ((refuseName lib.repr name "query name").map .invalidRequest)
  refuse ((refuseStatement lib.beyond lib.repr sql).map fun refusal =>
    .invalidRequest ("That statement cannot be benchmarked: " ++ refusal ++ "."))

/-- `save_set` -/
def saveSet (key title description : String) (reason : Option String) : BenchM Unit := do
  requireAdmin principal adminMessage
  refuseSetKey lib key
  notWhileRunning lib key
  audited principal (changeTarget key) reason do
    lift SetError.audited (← op (.saveSet key (strip title) (strip description)))

/-- `delete_set` -/
def deleteSet (key : String) (reason : Option String) : BenchM Unit := do
  requireAdmin principal adminMessage
  let _ ← setOr404 lib key
  notWhileRunning lib key
  let _ ← audited principal (changeTarget key) reason do
    lift SetError.audited (← op (.deleteSet key))
  pure ()

/-- a set that is full -/
def limitMessage (key : String) : String :=
  lib.repr key ++ " already holds " ++ toString maxQueries ++ " queries, the most a set may have."

/-- the limit is for what adds, and so is every name but the original one -/
def refuseLimit (key name : String) (originalName : Option String) (found : QuerySet) : BenchM Unit :=
  refuse (if originalName ≠ some name ∧ maxQueries ≤ found.queries.length then some (.invalidRequest (limitMessage lib key))
    else none)

/-- what the service makes of an error of the save -/
def saveRefusal (key name : String) (e : Exn) : Exn :=
  if e.className = "DuplicateName" then .invalidRequest (lib.repr key ++ " already has a query named " ++ lib.repr name ++
    ". Results are keyed by name, so two would merge into one column.")
  else if e.className = "UnknownSet" then .notFound ("No query set named " ++ lib.repr key ++ ".")
  else e

/-- `save_query` -/
def saveQuery (key name title : String) (statement : List Char) (reason : Option String) (position : ℤ)
    (originalName : Option String) : BenchM Unit := do
  requireAdmin principal adminMessage
  let found ← setOr404 lib key
  refuseQuery lib name (cleanStatement statement)
  refuseLimit lib key name originalName found
  notWhileRunning lib key
  tryCatch
    (audited principal (changeTarget (key ++ "." ++ name)) reason do
      lift SetError.audited
        (← op (.saveQuery key ⟨name, strip title, cleanStatement statement, position, originalName⟩)))
    fun e => throw (saveRefusal lib key name e)

/-- `create_set` -/
def createSet (key title description name : String) (statement : List Char) (reason : Option String) : BenchM Unit := do
  requireAdmin principal adminMessage
  refuseSetKey lib key
  refuseQuery lib name (cleanStatement statement)
  let existing ← lift SetError.raw (← op (.getSet key))
  refuse (if existing.isSome then some (.invalidRequest ("A query set named " ++ lib.repr key ++ " already exists."))
    else none)
  saveSet lib principal key title description reason
  saveQuery lib principal key name "" (cleanStatement statement) reason 0 none

/-- `delete_query` -/
def deleteQuery (key name : String) (reason : Option String) : BenchM Unit := do
  requireAdmin principal adminMessage
  let _ ← setOr404 lib key
  notWhileRunning lib key
  let removed ← tryCatch
    (audited principal (changeTarget (key ++ "." ++ name)) reason do
      lift SetError.audited (← op (.deleteQuery key name)))
    fun e => throw (saveRefusal lib key name e)
  refuse (if removed then none else some (.notFound ("No query named " ++ lib.repr name ++ " in " ++ lib.repr key ++ ".")))

end Programs

/-! ## The stores -/

/-- what the service's repositories hold -/
structure BenchWorld where
  sets : Sets
  runs : List BenchRun
  schedules : List Schedule

/-- what is outside at one effect: the runs that have ended by then, the clock, the guard's answer, a failing store -/
structure Weather where
  ended : List ℕ
  now : ℤ
  guard : Except String Value
  fault : Fault

instance : Inhabited Weather := ⟨⟨[], 0, .ok .none, .none⟩⟩

/-- runs that end leave the partial index -/
def BenchWorld.settle (w : BenchWorld) (ended : List ℕ) : BenchWorld :=
  { w with runs := w.runs.mapIdx fun i r => if i ∈ ended then { r with running := false } else r }

/-- a `VARCHAR(n)` takes a text that is longer by blanks only; that it drops them is left out -/
def fitsVarchar (n : ℕ) (s : String) : Bool := (s.toList.drop n).all (· = ' ')

/-- the lengths of the columns of `benchmark_run` -/
def BenchRun.fits (run : BenchRun) : Bool :=
  fitsVarchar 128 run.cluster && fitsVarchar 64 run.querySet && run.label.all (fitsVarchar 200) && fitsVarchar 128 run.actor

/-- what Postgres finds wrong with a row of `benchmark_run`; the store in memory has no lengths and no checks -/
def runRefusal (run : BenchRun) : Backend → Option String
  | .memory => none
  | .postgres =>
    if run.fits = false then some "value too long for type character varying"
    else if (1 ≤ run.repetitions ∧ run.repetitions ≤ 20) ∧ reasonPresent run.reason = true then none
    else some "new row for relation \"benchmark_run\" violates check constraint"

def BenchWorld.createRun (b : Backend) (w : BenchWorld) (run : BenchRun) : Except RunError ℕ × BenchWorld :=
  if (runRefusal run b).isSome then (.error (.unavailable ((runRefusal run b).getD "")), w)
  else if w.runs.any (fun r => r.running && r.cluster == run.cluster) then (.error .activeRunExists, w)
  else (.ok w.runs.length, { w with runs := w.runs ++ [run] })

/-- `active`: in Postgres those of the last fifty runs that are RUNNING -/
def BenchWorld.active (b : Backend) (w : BenchWorld) : List BenchRun :=
  match b with
  | .memory => w.runs.filter (·.running)
  | .postgres => (w.runs.reverse.take 50).filter (·.running)

/-- the row of a new schedule, if it passes the checks of the table -/
def NewSchedule.row (new : NewSchedule) (id : ℕ) : Option Schedule :=
  if h : 0 < new.fields.intervalMinutes ∧ (1 ≤ new.fields.repetitions ∧ new.fields.repetitions ≤ 50) ∧
      reasonPresent new.fields.reason = true then
    some ⟨id, new.fields.name, new.querySet, new.fields.clusters, new.fields.repetitions, new.label, new.fields.reason,
      new.fields.intervalMinutes, new.nextRunAt, true, none, 0, none, none, new.createdBy, h.1, h.2.1, h.2.2⟩
  else none

def BenchWorld.createSchedule (b : Backend) (w : BenchWorld) (new : NewSchedule) : Except ScheduleError Schedule × BenchWorld :=
  if w.schedules.any (fun r => r.name == new.fields.name) then
    (.error (if b = .memory then .duplicate else .unavailable "duplicate key value violates unique constraint"), w)
  else
    match new.row w.schedules.length with
    | some row => (.ok row, { w with schedules := w.schedules ++ [row] })
    | none => (.error (.unavailable "new row for relation \"benchmark_schedule\" violates check constraint"), w)

/-- `changes`: what is not in it stays -/
def Schedule.record (row : Schedule) (outcome : FireOutcome) : Schedule :=
  { row with
    lastRunAt := some outcome.lastRunAt
    lastOutcome := some outcome.lastOutcome
    consecutiveFailures := outcome.consecutiveFailures.getD row.consecutiveFailures
    enabled := if outcome.pausedReason = none then row.enabled else false
    pausedReason := outcome.pausedReason.orElse fun _ => row.pausedReason }

/-- an operation on the sets, and what is left of the world -/
def BenchWorld.editSets {α : Type} (w : BenchWorld) (r : Except SetError (α × Sets)) : Except SetError α × BenchWorld :=
  match r with
  | .ok (a, sets) => (.ok a, { w with sets := sets })
  | .error e => (.error e, w)

/-- who answers, once the runs that have ended are settled -/
def serveSettled (b : Backend) (o : Weather) : (e : BenchAct) → BenchWorld → e.Answer × BenchWorld
  | .now, w => (o.now, w)
  | .getSet key, w => o.fault.strike SetError.unavailable w (.ok (b.get w.sets key), w)
  | .saveSet key title description, w =>
    o.fault.strike SetError.unavailable w (w.editSets (.ok ((), b.saveSet w.sets key title description)))
  | .deleteSet key, w => o.fault.strike SetError.unavailable w (w.editSets (.ok (b.deleteSet w.sets key)))
  | .saveQuery key q, w =>
    o.fault.strike SetError.unavailable w (w.editSets ((b.saveQuery w.sets key q).map fun sets => ((), sets)))
  | .deleteQuery key name, w => o.fault.strike SetError.unavailable w (w.editSets (b.deleteQuery w.sets key name))
  | .active, w => o.fault.strike id w (.ok (w.active b), w)
  | .guard _, w => (o.guard, w)
  | .createRun run, w => o.fault.strike RunError.unavailable w (w.createRun b run)
  | .startRunner _, w => o.fault.strike id w (.ok (), w)
  | .createSchedule new, w => o.fault.strike ScheduleError.unavailable w (w.createSchedule b new)
  | .updateSchedule id outcome, w => o.fault.strike ScheduleError.unavailable w
      (.ok (), { w with schedules := w.schedules.map fun row => if row.id = id then row.record outcome else row })

def serve (b : Backend) (o : Weather) (e : BenchAct) (w : BenchWorld) : e.Answer × BenchWorld :=
  serveSettled b o e (w.settle o.ended)

end TrinoManagement.Bench
