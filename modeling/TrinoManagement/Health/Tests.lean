/-
The health test catalogue, `tms/health/tests.py`, H-01 to H-09: can this cluster actually run queries?

A missing input is UNKNOWN, never GOOD; BAD and CONCERNING carry a remedy. A test returns its result together with the
exception it raised, if any: the engine catches it.

- `h05_no_queries`: with no query completed H-05 is UNKNOWN.
- `h08_inactive`: with the backend inactive H-08 is CONCERNING.
-/
import Mathlib.Tactic
import TrinoManagement.Collector.Snapshot
import TrinoManagement.Core.Number
import TrinoManagement.Health.States

namespace TrinoManagement.Health

open TrinoManagement.Collector

def queryManagerMbean : String := "trino.execution:name=QueryManager"
def memoryMbean : String := "java.lang:type=Memory"
def clusterMemoryMbean : String := "trino.memory:name=ClusterMemoryManager"
def nodeManagerMbean : String := "trino.node:name=CoordinatorNodeManager"

structure HealthResult where
  testId : String
  name : String
  state : State
  observedValue : Value
  threshold : Value
  advice : String
deriving DecidableEq

/-- everything a test may read; a snapshot may be missing or untrusted -/
structure HealthContext where
  clusterName : String
  expectedWorkers : ℤ
  thresholds : Value
  info : Option InfoSnapshot
  jmx : Option JmxSnapshot
  queries : Option QueriesSnapshot
  coordinatorCountedInActiveNodes : Bool
  gatewayBackends : Option (List Value)
  previousOomKills : Option ℤ

namespace HealthContext

variable (ctx : HealthContext)

/-- what cannot be read as a float is the default -/
def threshold (key : String) (default : ℚ) : Except PyError ℚ := do
  if ctx.thresholds.has key then
    let value ← (ctx.thresholds.get key).toFloat
    pure (value.getD default)
  else pure default

/-- `ctx.mbean(object_name)`, `None` for anything but a dict -/
def mbean (objectName : String) : Value :=
  match ctx.jmx with
  | none => .none
  | some s =>
    let value := (s.payload.get "mbeans").get objectName
    if value.isDict then value else .none

/-- `ctx.attribute` -/
def attributeOf (objectName name : String) : Value := (ctx.mbean objectName).get name

def number (objectName name : String) : Except PyError (Option ℚ) :=
  let value := ctx.attributeOf objectName name
  match value.number with
  | none => .ok none
  | some _ => value.toFloat

end HealthContext

def unknown (testId name reason : String) : HealthResult := ⟨testId, name, .unknown, .none, .none, reason⟩

/-- `a or b` for texts -/
def orElseText (a : Option String) (b : String) : String := if a.getD "" ≠ "" then a.getD "" else b

/-- UNKNOWN for tests whose MBean could not be read, with the collector's advice if it had any -/
def jmxUnavailable (testId name : String) (ctx : HealthContext) : HealthResult :=
  unknown testId name (orElseText (ctx.jmx.bind (·.advice))
    ("Could not read the JMX metric. Check that tms-svc has system_information: read in rules.json, and that the " ++
      "coordinator is reachable."))

/-- the state of a value held against its two thresholds -/
def grade (value concerning bad : ℚ) : State :=
  if bad ≤ value then .bad else if concerning ≤ value then .concerning else .good

/-! ## The tests -/

section Tests

variable (ctx : HealthContext)

def h01CoordinatorResponsive : Except PyError HealthResult :=
  let name := "Coordinator responsiveness"
  .ok <| match ctx.info with
  | none => unknown "H-01" name "No data collected yet."
  | some info =>
    if info.trustworthy = false then
      ⟨"H-01", name, .bad, .str "unreachable", .none, orElseText info.advice
        ("The coordinator is not responding. Check its systemd unit and logs — this cluster cannot accept new " ++
          "queries.")⟩
    else ⟨"H-01", name, .good, .str "responsive", .none, ""⟩

def h02StartupComplete : Except PyError HealthResult :=
  let name := "Startup complete"
  .ok <| match ctx.info with
  | none => unknown "H-02" name "Could not read coordinator info."
  | some s =>
    if s.trustworthy = false then unknown "H-02" name "Could not read coordinator info."
    else
      let info := s.payload.get "info"
      if info.has "starting" = false then unknown "H-02" name "The /v1/info response has no `starting` field."
      else if (info.get "starting").truthy then
        ⟨"H-02", name, .concerning, .str "starting", .none,
          "The coordinator is still starting — catalogs may still be loading. If this persists for more than a few " ++
            "minutes, suspect a catalog configuration error."⟩
      else ⟨"H-02", name, .good, .str "started", .none, ""⟩

/-- workers that are out on purpose -/
def plannedOut : Except PyError ℤ := do
  let draining ← ctx.number nodeManagerMbean "DrainingNodeCount"
  let drained ← ctx.number nodeManagerMbean "DrainedNodeCount"
  let shuttingDown ← ctx.number nodeManagerMbean "ShuttingDownNodeCount"
  pure (([draining, drained, shuttingDown].filterMap id).map truncate).sum

/-- unplanned missing workers only -/
def h03WorkerRegistration : Except PyError HealthResult := do
  let name := "Worker registration"
  match ← ctx.number nodeManagerMbean "ActiveNodeCount" with
  | none => pure (jmxUnavailable "H-03" name ctx)
  | some active =>
    let activeWorkers := truncate active - if ctx.coordinatorCountedInActiveNodes then 1 else 0
    let planned ← plannedOut ctx
    let expected := ctx.expectedWorkers
    let unplanned := max 0 (expected - activeWorkers - planned)
    let badPct ← ctx.threshold "missing_workers_pct_bad" 20
    let badThreshold := max 1 (← percentOf expected badPct)
    let observed := Value.dict [("active_workers", .int activeWorkers), ("expected_workers", .int expected),
      ("planned_out", .int planned), ("unplanned_missing", .int unplanned)]
    if unplanned = 0 then pure ⟨"H-03", name, .good, observed, .int expected, ""⟩
    else
      let plannedNote := if planned ≠ 0 then " " ++ toString planned ++ " of those are in a planned shutdown." else ""
      let capacityPct := if expected ≠ 0 then truncate (roundFloat (100 * activeWorkers / expected)) else 0
      pure ⟨"H-03", name, if badThreshold ≤ unplanned then .bad else .concerning, observed, .int expected,
        "Only " ++ toString activeWorkers ++ " of " ++ toString expected ++ " workers are active (" ++
          toString unplanned ++ " missing outside any planned drain). Check the systemd unit and discovery config on " ++
          "the workers that have not joined. Cluster capacity is at " ++ toString capacityPct ++ "%." ++ plannedNote⟩

def h04HeapUsage : Except PyError HealthResult := do
  let name := "Coordinator heap"
  let usage := ctx.attributeOf memoryMbean "HeapMemoryUsage"
  if usage.isDict = false then pure (jmxUnavailable "H-04" name ctx)
  else
    match (usage.get "used").numeric, (usage.get "max").numeric with
    | some used, some maximum =>
      if maximum ≤ 0 then
        pure (unknown "H-04" name "The JVM reports no heap maximum (-1). Check jvm.config.")
      else
        -- exact here, as in H-05; the code rounds to the nearest float
        let pct := 100 * used / maximum
        let concerning ← ctx.threshold "heap_used_pct_concerning" 80
        let bad ← ctx.threshold "heap_used_pct_bad" 90
        let state := grade pct concerning bad
        pure ⟨"H-04", name, state, .float (roundTo 1 pct), .float bad,
          if state ≠ .good then
            "Coordinator heap is at " ++ fixed 0 pct ++ "%. GC pressure slows every query. Check concurrent query " ++
              "count; if this persists, consider a resource-group concurrency limit or more heap."
          else ""⟩
    | _, _ => pure (unknown "H-04" name "Could not read used/max from HeapMemoryUsage.")

/-- failures as a share of the queries that completed -/
def h05QueryFailureRate : Except PyError HealthResult := do
  let name := "Query failure rate (5m)"
  match ← ctx.number queryManagerMbean "FailedQueries.FiveMinute.Count",
      ← ctx.number queryManagerMbean "CompletedQueries.FiveMinute.Count" with
  | some failed, some completed =>
    if completed ≤ 0 then
      -- no traffic is not health: it may itself be the incident
      pure (unknown "H-05" name ("No queries completed in the last 5 minutes, so there is no failure rate to " ++
        "compute. Traffic stopping is itself worth investigating."))
    else
      let pct := min (100 * failed / completed) 100
      let concerning ← ctx.threshold "failure_rate_pct_concerning" 5
      let bad ← ctx.threshold "failure_rate_pct_bad" 20
      let state := grade pct concerning bad
      pure ⟨"H-05", name, state, .float (roundTo 1 pct), .float bad,
        if state ≠ .good then
          fixed 1 pct ++ "% of queries failed in the last 5 minutes. Read this with H-06 (internal failures) to tell " ++
            "user SQL errors from engine problems."
        else ""⟩
  | _, _ => pure (jmxUnavailable "H-05" name ctx)

def h06InternalFailures : Except PyError HealthResult := do
  let name := "Internal failures (5m)"
  match ← ctx.number queryManagerMbean "InternalFailures.FiveMinute.Count" with
  | none => pure (jmxUnavailable "H-06" name ctx)
  | some internal =>
    let count := truncate internal
    let concerning ← ctx.threshold "internal_failures_concerning" 1
    let bad ← ctx.threshold "internal_failures_bad" 5
    let state := grade count concerning bad
    pure ⟨"H-06", name, state, .int count, .float bad,
      if state ≠ .good then
        toString count ++ " internal errors in the last 5 minutes. These are engine or infrastructure faults, not user " ++
          "SQL. Check coordinator and worker logs."
      else ""⟩

/-- what H-07 leaves in `ctx.current_oom_kills`; a counter it could not read leaves nothing -/
def currentOomKills : Option ℤ :=
  match ctx.number clusterMemoryMbean "QueriesKilledDueToOutOfMemory" with
  | .ok total => total.map truncate
  | .error _ => none

/-- a cumulative counter, judged on the delta; a decrease is a restart -/
def h07OomKills : Except PyError HealthResult := do
  let name := "Out-of-memory kills"
  match ← ctx.number clusterMemoryMbean "QueriesKilledDueToOutOfMemory" with
  | none => pure (jmxUnavailable "H-07" name ctx)
  | some total =>
    let current := truncate total
    match ctx.previousOomKills with
    | none => pure ⟨"H-07", name, .good, .dict [("total", .int current), ("delta", .none)], .none, ""⟩
    | some previous =>
      let delta := max 0 (current - previous)
      let concerning ← ctx.threshold "oom_kills_concerning" 1
      let bad ← ctx.threshold "oom_kills_bad" 3
      let state := grade delta concerning bad
      pure ⟨"H-07", name, state, .dict [("total", .int current), ("delta", .int delta)], .float bad,
        if state ≠ .good then
          toString delta ++ " queries were killed for running out of memory. Something large is squeezing the cluster " ++
            "— check the top memory consumers in Live Queries."
        else ""⟩

/-- the first backend joined to the cluster, or of its name where no join was recorded -/
def gatewayEntry (backends : List Value) : Option Value :=
  backends.find? fun b => b.isDict && (decide (b.get "cluster" = .str ctx.clusterName) ||
    (!b.has "cluster" && decide (b.get "name" = .str ctx.clusterName)))

def h08GatewayRegistration : Except PyError HealthResult :=
  let name := "Gateway backend registration"
  .ok <| match ctx.gatewayBackends with
  | none => unknown "H-08" name "Could not read Gateway backend list."
  | some backends =>
    match gatewayEntry ctx backends with
    | none =>
      ⟨"H-08", name, .bad, .str "not registered", .none,
        "This cluster is not in the Gateway backend list, so no new queries will be routed to it. Check the Gateway " ++
          "configuration."⟩
    | some entry =>
      if (entry.get "active").truthy = false then
        ⟨"H-08", name, .concerning, .str "inactive", .none,
          "This cluster is deactivated in the Gateway. Ignore this if it is deliberate (maintenance); otherwise no new " ++
            "queries reach it."⟩
      else ⟨"H-08", name, .good, .str "active", .none, ""⟩

/-- the mismatch the collector recorded between an empty list and JMX -/
def h09PermissionSelfCheck : Except PyError HealthResult :=
  let name := "Query-list permission"
  .ok <| match ctx.queries with
  | none => unknown "H-09" name "No query snapshot collected yet."
  | some queries =>
    if queries.trustworthy then ⟨"H-09", name, .good, .str "consistent", .none, ""⟩
    else
      ⟨"H-09", name, .unknown, (queries.collectionError.map Value.str).getD .none, .none, orElseText queries.advice
        "The query list cannot be trusted. Check the tms-svc account's queries grant in rules.json."⟩

end Tests

/-! ## The catalogue -/

/-- sorted by id, as the engine goes through it -/
def allTests : List (String × (HealthContext → Except PyError HealthResult)) :=
  [("H-01", h01CoordinatorResponsive), ("H-02", h02StartupComplete), ("H-03", h03WorkerRegistration),
    ("H-04", h04HeapUsage), ("H-05", h05QueryFailureRate), ("H-06", h06InternalFailures), ("H-07", h07OomKills),
    ("H-08", h08GatewayRegistration), ("H-09", h09PermissionSelfCheck)]

/-- only meaningful when the Gateway adapter is on -/
def gatewayTests : List String := ["H-08"]

/-! ## Two verdicts -/

section Verdicts

variable {ctx : HealthContext}

/-- no traffic is UNKNOWN, whatever failed -/
theorem h05_no_queries {failed completed : ℚ}
    (hfailed : ctx.number queryManagerMbean "FailedQueries.FiveMinute.Count" = .ok (some failed))
    (hcompleted : ctx.number queryManagerMbean "CompletedQueries.FiveMinute.Count" = .ok (some completed))
    (hnone : completed ≤ 0) : ∃ result, h05QueryFailureRate ctx = .ok result ∧ result.state = .unknown := by
  unfold h05QueryFailureRate
  rw [hfailed, hcompleted]
  simp only [bind, Except.bind]
  rw [if_pos hnone]
  exact ⟨_, rfl, rfl⟩

/-- a deactivated backend is CONCERNING, deliberate or not -/
theorem h08_inactive {backends : List Value} {entry : Value} (hb : ctx.gatewayBackends = some backends)
    (hentry : gatewayEntry ctx backends = some entry) (hinactive : (entry.get "active").truthy = false) :
    ∃ result, h08GatewayRegistration ctx = .ok result ∧ result.state = .concerning := by
  refine ⟨_, rfl, ?_⟩
  simp only [hb, hentry, if_pos hinactive]

end Verdicts

end TrinoManagement.Health
