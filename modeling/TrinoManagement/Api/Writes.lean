/-
Who may write: how each write operation of the services begins, for a caller who has the capability it asks for and for one
who has not.

- `WriteOperation`: the operations, each with what it reads before it is refused. `capability`, `forbiddenMessage`.
- `attempt`: an operation whose rest is whatever it does for those who may.
- `refusal`: what it does for those who may not; `attempt_refused`: nothing else.
-/
import Mathlib.Tactic
import TrinoManagement.Api.Guard

namespace TrinoManagement.Writes

open TrinoManagement.Audit TrinoManagement.Guard
open TrinoManagement.Prog (perform)
open TrinoManagement.Service (Exn)

/-! ## Operations -/

inductive GroupWrite where
  | update | create | delete | createSelector | deleteSelector | revert
deriving DecidableEq, Repr

inductive RestartStep where
  | start | forceDrain | restart | markRestarted | complete | abort
deriving DecidableEq, Repr

inductive NodeWrite where
  | add | remove | scan
deriving DecidableEq, Repr

inductive ConfigWrite where
  | create | update | delete | deploy
deriving DecidableEq, Repr

inductive CatalogWrite where
  | create | save | delete | deploy
deriving DecidableEq, Repr

inductive BenchWrite where
  | start | startMany | abort | saveSet | createSet | deleteSet | saveQuery | deleteQuery
deriving DecidableEq, Repr

inductive ScheduleWrite where
  | create | setEnabled | delete
deriving DecidableEq, Repr

/-- the write operations of the services -/
inductive WriteOperation where
  | killQuery (cluster queryId : String)
  /-- `thresholds` are there, and not empty -/
  | updateHealthTest (cluster testId : String) (enabled : Option Bool) (thresholds : Bool)
  | updateHealthRollup (cluster : String)
  | exportAudit
  | resourceGroups (write : GroupWrite)
  | restart (step : RestartStep)
  | startJob
  | shutdownNode
  | nodeList (write : NodeWrite)
  | config (write : ConfigWrite)
  | catalog (write : CatalogWrite)
  | benchmark (write : BenchWrite)
  | schedule (write : ScheduleWrite)
deriving DecidableEq, Repr

namespace WriteOperation

def capability : WriteOperation → String
  | killQuery .. => "kill_query"
  | exportAudit => "export_audit"
  | _ => manageHealth

/-- the text of `Forbidden` -/
def forbiddenMessage (principal : Principal) : WriteOperation → String
  | killQuery .. => "You do not have permission to kill queries."
  | updateHealthTest .. => "You do not have permission to change health tests."
  | updateHealthRollup _ => "You do not have permission to change the roll-up."
  | exportAudit => "You do not have permission to export the audit log."
  | resourceGroups _ => "Your role does not include " ++ manageHealth ++ " (roles: " ++
      (if principal.roles = [] then "none" else ", ".intercalate principal.roles) ++ ")."
  | restart _ => "You do not have permission to restart a cluster."
  | startJob => "You do not have permission to run fleet jobs."
  | shutdownNode => "You do not have permission to shut down a node."
  | nodeList _ => "Changing the node list is restricted to administrators."
  | config _ => "Changing or deploying configuration is restricted to administrators."
  | catalog _ => "Changing or deploying a catalog is restricted to administrators."
  | benchmark _ | schedule _ => "Only administrators can start a benchmark."

/-- what a recorded refusal is about; most operations record none -/
def refusalTarget : WriteOperation → Option Target
  | killQuery cluster queryId => some ⟨"QUERY_KILL", "query", queryId, some cluster⟩
  | updateHealthTest cluster testId _ thresholds =>
    some ⟨if thresholds then "HEALTH_THRESHOLD_CHANGE" else "HEALTH_TEST_TOGGLE", "health_test", testId, some cluster⟩
  | updateHealthRollup cluster => some ⟨"HEALTH_ROLLUP_TOGGLE", "cluster", cluster, some cluster⟩
  | exportAudit => some ⟨"AUDIT_EXPORT", "cluster", "*", none⟩
  | _ => none

/-- what is checked before the capability is -/
def earlier (clusters : List String) : WriteOperation → Option Exn
  | killQuery cluster _ | updateHealthRollup cluster =>
    if cluster ∈ clusters then none else some (.notFound ("Unknown cluster: " ++ cluster))
  | updateHealthTest cluster _ enabled thresholds =>
    if cluster ∉ clusters then some (.notFound ("Unknown cluster: " ++ cluster))
    else if enabled = none ∧ thresholds = false then some (.invalidRequest "Specify either enabled or thresholds.")
    else none
  | _ => none

end WriteOperation

/-! ## Attempts -/

section Attempt

variable {E : Type} {R : E → Type} {α : Type}

/-- the check of the capability, with a record of the refusal where the operation keeps one -/
def requireCapability (op : WriteOperation) (principal : Principal) (reason : Option String) : M E R Unit :=
  if principal.can op.capability then pure ()
  else
    match op.refusalTarget with
    | some target => do
      recordRefusal principal target reason ("403: " ++ principal.username ++ " lacks " ++ op.capability)
      throw (.forbidden (op.forbiddenMessage principal))
    | none => throw (.forbidden (op.forbiddenMessage principal))

/-- an operation; `rest` is what it does for those who may -/
def attempt (clusters : List String) (op : WriteOperation) (principal : Principal) (reason : Option String) (rest : M E R α) :
    M E R α := do
  refuse (op.earlier clusters)
  requireCapability op principal reason
  rest

/-- the record of a refusal -/
def refusalEntry (op : WriteOperation) (principal : Principal) (reason : Option String) (target : Target) :
    Drafts.AuditEntry :=
  entryOf principal target ((normaliseReason (reason.getD "")).getD "(reason not supplied)") .failure
    (some ("403: " ++ principal.username ++ " lacks " ++ op.capability))

/-- all that an operation does for those who may not -/
def refusal (clusters : List String) (op : WriteOperation) (principal : Principal) (reason : Option String) : M E R α :=
  match op.earlier clusters with
  | some e => throw e
  | none =>
    match op.refusalTarget with
    | some target => .act (Act.write (refusalEntry op principal reason target)) fun _ =>
        throw (.forbidden (op.forbiddenMessage principal))
    | none => throw (.forbidden (op.forbiddenMessage principal))

/-- **A refused operation does nothing else**, whatever its rest would do. -/
theorem attempt_refused {clusters : List String} {op : WriteOperation} {principal : Principal} {reason : Option String}
    {rest : M E R α} (h : principal.can op.capability = false) :
    attempt clusters op principal reason rest = refusal clusters op principal reason := by
  unfold attempt refusal requireCapability
  rw [if_neg (by rw [h]; decide)]
  cases op.earlier clusters with
  | some e => rfl
  | none =>
    cases op.refusalTarget with
    | some target => rfl
    | none => rfl

end Attempt

end TrinoManagement.Writes
