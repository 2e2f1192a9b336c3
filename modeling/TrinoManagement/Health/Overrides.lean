/-
Health test overrides, from the request that sets one to the evaluation that reads it: `update_health_test` and
`update_health_rollup` of `tms/api/services.py`, the table of `tms/collector/postgres.py`, and the collector's evaluation,
`CollectorService._evaluate_health` and `HealthWriter.evaluate`.

- `updateHealthTest`, `updateHealthRollup`: programs over the effects `Act`. `saveHealthOverride`: the upsert.
- `CollectorConfig.reading`: what the collector evaluates on. The overrides reach the engine, and only there.
- `Site`, `step`: requests and evaluations in any order on one table.
-/
import Mathlib.Tactic
import TrinoManagement.Core.Audit
import TrinoManagement.Core.Dict
import TrinoManagement.Core.Prog
import TrinoManagement.Core.Run
import TrinoManagement.Health.Transitions
import TrinoManagement.Ops.Service

namespace TrinoManagement.Overrides

open TrinoManagement.Audit TrinoManagement.Collector TrinoManagement.Health
open TrinoManagement.Prog (perform)
open TrinoManagement.Service (Exn)

/-! ## The table -/

/-- a row of `health_test_override`; thresholds that are NULL are `none` -/
structure Row where
  cluster : String
  testId : String
  enabled : Bool
  thresholds : Value
  updatedBy : String
deriving DecidableEq

/-- `save_health_override`: `COALESCE` keeps the half that is not given -/
def saveHealthOverride (table : List Row) (cluster testId : String) (enabled : Option Bool) (thresholds : Value)
    (updatedBy : String) : List Row :=
  let given := if thresholds.truthy then some thresholds else none
  if table.any fun row => row.cluster = cluster ∧ row.testId = testId then
    table.map fun row =>
      if row.cluster = cluster ∧ row.testId = testId then
        { row with enabled := enabled.getD row.enabled, thresholds := given.getD row.thresholds, updatedBy := updatedBy }
      else row
  else table ++ [⟨cluster, testId, enabled.getD true, given.getD .none, updatedBy⟩]

/-- `load_health_overrides` -/
def loadHealthOverrides (table : List Row) (cluster : String) : Value :=
  .dict ((table.filter fun row => row.cluster = cluster).map fun row =>
    (row.testId, .dict [("enabled", .bool row.enabled), ("thresholds", row.thresholds.orEmptyDict)]))

/-! ## The requests -/

structure AuditEntry where
  actor : String
  roles : List String
  actionType : String
  targetKind : String
  targetId : String
  targetCluster : String
  reason : String
  outcome : AuditOutcome
  errorMessage : Option String
  details : Option Value
deriving DecidableEq

inductive Act where
  | auditWritable
  /-- a failed write is logged and swallowed -/
  | auditWrite (entry : AuditEntry)
  | save (cluster testId : String) (enabled : Option Bool) (thresholds : Value) (updatedBy : String)

@[reducible] def Act.Answer : Act → Type
  | .auditWritable => Bool
  | .auditWrite _ => Unit
  | .save .. => Except Exn Unit

abbrev M (α : Type) := Prog Act Act.Answer Exn α

/-- an audited change of one override, after the checks that are the request's own -/
def changeOverride (principal : Principal) (cluster actionType targetKind targetId forbidden : String)
    (reason : Option String) (details : Value) (testId : String) (enabled : Option Bool) (thresholds : Value) : M Unit := do
  let entry (clean : String) (outcome : AuditOutcome) (errorMessage : Option String) (details : Option Value) : AuditEntry :=
    ⟨principal.username, principal.roles, actionType, targetKind, targetId, cluster, clean, outcome, errorMessage, details⟩
  if principal.can manageHealth = false then
    perform (Act.auditWrite (entry ((reason.bind normaliseReason).getD "(reason not supplied)") .failure
      (some ("403: " ++ principal.username ++ " lacks manage_health")) none))
    throw (.forbidden forbidden)
  else
    match reason.bind normaliseReason with
    | none => throw (.reasonRequired reasonRequiredMessage)
    | some clean =>
      let writable : Bool ← perform Act.auditWritable
      if writable then
        match ← perform (Act.save cluster testId enabled thresholds principal.username) with
        | .error e =>
          perform (Act.auditWrite (entry clean .failure (some (e.className ++ ": " ++ e.text)) (some details)))
          throw e
        | .ok () => perform (Act.auditWrite (entry clean .success none (some details)))
      else
        throw (.auditUnavailable ("audit store is unavailable; refusing to perform " ++ actionType ++ " on " ++ targetId))

def optionalBool (b : Option Bool) : Value := (b.map Value.bool).getD .none

def updateHealthTest (clusters : List String) (principal : Principal) (cluster testId : String) (reason : Option String)
    (enabled : Option Bool) (thresholds : Value) : M Unit :=
  if cluster ∉ clusters then throw (.notFound ("Unknown cluster: " ++ cluster))
  else if enabled = none ∧ thresholds.truthy = false then
    throw (.invalidRequest "Specify either enabled or thresholds.")
  else
    changeOverride principal cluster (if thresholds.truthy then "HEALTH_THRESHOLD_CHANGE" else "HEALTH_TEST_TOGGLE")
      "health_test" testId "You do not have permission to change health tests." reason
      (.dict [("enabled", optionalBool enabled), ("thresholds", thresholds)]) testId enabled thresholds

/-- silences the roll-up apart from its tests -/
def updateHealthRollup (clusters : List String) (principal : Principal) (cluster : String) (enabled : Bool)
    (reason : Option String) : M Unit :=
  if cluster ∉ clusters then throw (.notFound ("Unknown cluster: " ++ cluster))
  else
    changeOverride principal cluster "HEALTH_ROLLUP_TOGGLE" "cluster" cluster
      "You do not have permission to change the roll-up." reason (.dict [("enabled", .bool enabled)]) rollupKey
      (some enabled) .none

/-! ## Who answers -/

/-- what the database does with a statement -/
inductive SaveAnswer where
  | applied
  | refused (message : String)
  /-- the connection is lost after the statement took effect -/
  | appliedThenRaised (message : String)

structure Oracle where
  writable : Bool
  save : SaveAnswer

instance : Inhabited Oracle := ⟨⟨true, .applied⟩⟩

def handle (o : Oracle) : (e : Act) → List Row → e.Answer × List Row
  | .auditWritable, table => (o.writable, table)
  | .auditWrite _, table => ((), table)
  | .save cluster testId enabled thresholds updatedBy, table =>
    let saved := saveHealthOverride table cluster testId enabled thresholds updatedBy
    match o.save with
    | .applied => (.ok (), saved)
    | .refused message => (.error (.client "OperationalError" message), table)
    | .appliedThenRaised message => (.error (.client "OperationalError" message), saved)

/-! ## The collector -/

/-- the part of the configuration that health evaluation reads -/
structure CollectorConfig where
  clusters : List String
  expectedWorkers : List (String × ℕ)
  thresholds : Dict Value
  staleThreshold : ℚ
  coordinatorCounted : Bool

/-- one round of `_evaluate_health`: what the repository and the Gateway poller give it -/
structure Visit where
  cluster : String
  now : ℚ
  info : Option InfoSnapshot
  jmx : Option JmxSnapshot
  queries : Option QueriesSnapshot
  backends : Option (List Value)
  overridesLoaded : Bool

namespace CollectorConfig

variable (cfg : CollectorConfig)

/-- `_expected_workers` -/
def workersOf (cluster : String) : ℤ := (cfg.expectedWorkers.lookup cluster).getD 0

/-- nothing collected yet, or one input too old -/
def staleAt (v : Visit) : Bool :=
  (v.info.isNone && v.jmx.isNone && v.queries.isNone) ||
    v.info.any (fun s => s.isStale v.now cfg.staleThreshold) || v.jmx.any (fun s => s.isStale v.now cfg.staleThreshold) ||
    v.queries.any (fun s => s.isStale v.now cfg.staleThreshold)

/-- the context `HealthWriter.evaluate` builds: the thresholds are the configured ones -/
def context (v : Visit) : HealthContext :=
  ⟨v.cluster, cfg.workersOf v.cluster, .dict cfg.thresholds, v.info, v.jmx, v.queries, cfg.coordinatorCounted, v.backends,
    none⟩

/-- overrides that cannot be loaded are none -/
def reading (table : List Row) (v : Visit) : Reading :=
  ⟨cfg.context v, v.now, cfg.staleAt v, if v.overridesLoaded then loadHealthOverrides table v.cluster else .dict []⟩

end CollectorConfig

/-! ## Requests and evaluations in any order -/

/-- a request to `update_health_test` -/
structure TestRequest where
  principal : Principal
  cluster : String
  testId : String
  reason : Option String
  enabled : Option Bool
  thresholds : Value

def TestRequest.prog (r : TestRequest) (cfg : CollectorConfig) : M Unit :=
  updateHealthTest cfg.clusters r.principal r.cluster r.testId r.reason r.enabled r.thresholds

/-- the table, and the collector's engine -/
structure Site where
  table : List Row
  monitor : Monitor

inductive Label where
  | updateTest (r : TestRequest) (oracles : List Oracle)
  | updateRollup (principal : Principal) (cluster : String) (enabled : Bool) (reason : Option String)
      (oracles : List Oracle)
  | evaluate (v : Visit)

def step (cfg : CollectorConfig) (s : Site) : Label → Site
  | .updateTest r os => { s with table := (Prog.run handle os (r.prog cfg) s.table).2 }
  | .updateRollup p cluster enabled reason os =>
    { s with table := (Prog.run handle os (updateHealthRollup cfg.clusters p cluster enabled reason) s.table).2 }
  | .evaluate v => { s with monitor := (s.monitor.read (cfg.reading s.table v)).2 }

def run (cfg : CollectorConfig) (s : Site) (labels : List Label) : Site := Run.run (step cfg) s labels

/-- the request returned -/
def Accepted (cfg : CollectorConfig) (s : Site) (r : TestRequest) (os : List Oracle) : Prop :=
  (Prog.run handle os (r.prog cfg) s.table).1.isOk = true

instance (cfg : CollectorConfig) (s : Site) (r : TestRequest) (os : List Oracle) : Decidable (Accepted cfg s r os) := by
  unfold Accepted; infer_instance

/-- the evaluation of a visit, and its results -/
def evaluation (cfg : CollectorConfig) (s : Site) (v : Visit) : ClusterHealth := s.monitor.evaluation (cfg.reading s.table v)

end TrinoManagement.Overrides
