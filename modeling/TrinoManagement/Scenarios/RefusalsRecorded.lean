/-
Are refused writes on record? Every operation of the services, for a caller without its capability.

The record is the call site's to make, and four of the call sites make it.
- `RefusedOnRecord`: Forbidden, no other effect, and one more record, of a failure.
- `refused_on_record`: it holds exactly of the four, if what they check first passes.
- `health_refused`, `kill_refused`, `restart_refused`, `drafts_refused`, `bench_refused`, `schedules_refused`,
  `shutdown_refused`, `nodes_refused`, `job_refused`: the modelled services are refused as their operations are.
- `deploy_unrecorded`: a refused deployment leaves no record.
-/
import Mathlib.Tactic
import TrinoManagement.Api.Kill
import TrinoManagement.Api.Writes
import TrinoManagement.Bench.ScheduleService
import TrinoManagement.Config.CatalogService
import TrinoManagement.Config.EditService
import TrinoManagement.Fleet.Jobs
import TrinoManagement.Fleet.NodeService
import TrinoManagement.Fleet.Service
import TrinoManagement.Health.Overrides

namespace TrinoManagement.Writes

open TrinoManagement.Audit TrinoManagement.Guard
open TrinoManagement.Drafts (AuditEntry)
open TrinoManagement.Service (Exn)

/-! ## The record of a refusal -/

section Record

variable {E : Type} {R : E → Type} {α O S : Type} [Inhabited O] {h : O → (e : E) → S → R e × S}

/-- a refusal as it should be -/
structure RefusedOnRecord (principal : Principal) (before : Site S) (x : Except Exn α) (after : Site S) : Prop where
  forbidden : ∃ m, x = .error (.forbidden m)
  untouched : after.service = before.service
  recorded : ∃ entry, after.log = before.log ++ [entry] ∧ entry.outcome = .failure ∧ entry.actor = principal.username

/-- the operation records its refusals, and what it checks first passes -/
def Recorded (clusters : List String) : WriteOperation → Prop
  | .killQuery cluster _ | .updateHealthRollup cluster => cluster ∈ clusters
  | .updateHealthTest cluster _ enabled thresholds => cluster ∈ clusters ∧ (enabled ≠ none ∨ thresholds = true)
  | .exportAudit => True
  | _ => False

theorem recorded_iff {clusters : List String} {op : WriteOperation} :
    Recorded clusters op ↔ op.earlier clusters = none ∧ ∃ target, op.refusalTarget = some target := by
  cases op with
  | updateHealthTest cluster testId enabled thresholds =>
    by_cases hcluster : cluster ∈ clusters
    · cases enabled <;> cases thresholds <;> simp [Recorded, WriteOperation.earlier, WriteOperation.refusalTarget, hcluster]
    · simp [Recorded, WriteOperation.earlier, hcluster]
  | _ => simp [Recorded, WriteOperation.earlier, WriteOperation.refusalTarget]

/-- nothing is recorded where the log is as it was -/
theorem log_unchanged {principal : Principal} {site : Site S} {x : Except Exn α} : ¬RefusedOnRecord principal site x site := by
  intro hrefused
  obtain ⟨entry, hlog, -⟩ := hrefused.recorded
  have hlength := congrArg List.length hlog
  rw [List.length_append, List.length_singleton] at hlength
  omega

/-- **Which refusals are on record**: those of the four operations that keep one, once their earlier checks have passed.
Whatever an operation does for those who may, whatever its service, and whatever the weather but for the audit store. -/
theorem refused_on_record {clusters : List String} {op : WriteOperation} {principal : Principal} {reason : Option String}
    {rest : M E R α} {os : List (Oracle O)} {site : Site S} (hlacks : principal.can op.capability = false)
    (hwritable : ∀ o ∈ os, o.writable = true) :
    RefusedOnRecord principal site (Prog.run (handle h) os (attempt clusters op principal reason rest) site).1
        (Prog.run (handle h) os (attempt clusters op principal reason rest) site).2 ↔ Recorded clusters op := by
  rw [attempt_refused hlacks, recorded_iff]
  unfold refusal
  cases hearlier : op.earlier clusters with
  | some e =>
    constructor
    · intro hrefused
      exact absurd hrefused log_unchanged
    · intro hrecorded
      cases hrecorded.1
  | none =>
    cases htarget : op.refusalTarget with
    | none =>
      constructor
      · intro hrefused
        exact absurd hrefused log_unchanged
      · intro hrecorded
        obtain ⟨_, target, htarget'⟩ := hrecorded
        cases htarget'
    | some target =>
      have hheard : (os.headD default).writable = true := by
        cases os with
        | nil => rfl
        | cons o os => exact hwritable o List.mem_cons_self
      have hsite : (handle h (os.headD default) (.write (refusalEntry op principal reason target)) site).2 =
          { site with log := site.log ++ [refusalEntry op principal reason target] } := by
        simp only [handle, hheard, if_true]
      constructor
      · intro _
        exact ⟨rfl, target, rfl⟩
      · intro _
        change RefusedOnRecord principal site (.error _) (handle h _ _ site).2
        rw [hsite]
        exact ⟨⟨_, rfl⟩, rfl, _, rfl, rfl, rfl⟩

end Record

/-! ## The services -/

section Services

variable {principal : Principal}

/-- the program has no effect, and raises what the operation raises -/
def Refused {E : Type} {R : E → Type} {α : Type} (principal : Principal) (op : WriteOperation) (p : Prog E R Exn α) : Prop :=
  p = throw (.forbidden (op.forbiddenMessage principal))

/-- **Benchmarks and schedules** -/
theorem bench_refused (h : principal.can manageHealth = false) (lib : Bench.Lib) (cfg : Bench.BenchConfig) :
    (∀ cluster querySet reason repetitions label id,
      Refused principal (.benchmark .start) (Bench.start lib cfg principal cluster querySet reason repetitions label id)) ∧
    (∀ key title description reason,
      Refused principal (.benchmark .saveSet) (Bench.saveSet lib principal key title description reason)) ∧
    (∀ key title description name statement reason,
      Refused principal (.benchmark .createSet) (Bench.createSet lib principal key title description name statement reason)) ∧
    (∀ key reason, Refused principal (.benchmark .deleteSet) (Bench.deleteSet lib principal key reason)) ∧
    (∀ key name title statement reason position original, Refused principal (.benchmark .saveQuery)
      (Bench.saveQuery lib principal key name title statement reason position original)) ∧
    (∀ key name reason, Refused principal (.benchmark .deleteQuery) (Bench.deleteQuery lib principal key name reason)) := by
  refine ⟨?_, ?_, ?_, ?_, ?_, ?_⟩ <;> intros <;> exact requireAdmin_refused h _ _

theorem schedules_refused (h : principal.can manageHealth = false) (lib : Bench.Lib) (cfg : Bench.BenchConfig) :
    (∀ name querySet clusters interval reason repetitions label startsAt, Refused principal (.schedule .create)
      (Bench.createSchedule lib cfg principal name querySet clusters interval reason repetitions label startsAt)) ∧
    (∀ available id enabled reason,
      Refused principal (.schedule .setEnabled) (Bench.setScheduleEnabled principal available id enabled reason)) := by
  refine ⟨?_, ?_⟩ <;> intros <;> exact requireAdmin_refused h _ _

/-- **Node shutdown** -/
theorem shutdown_refused (h : principal.can manageHealth = false) (cfg : Fleet.FleetConfig) (cluster host : String)
    (reason : Option String) :
    Refused principal .shutdownNode (Fleet.shutdownNode cfg principal cluster host reason) := requireAdmin_refused h _ _

/-- **The node list** -/
theorem nodes_refused (h : principal.can manageHealth = false) (lib : Nodes.Library) (cfg : Nodes.NodeListConfig) :
    (∀ cluster host address role reason,
      Refused principal (.nodeList .add) (Nodes.add lib cfg principal cluster host address role reason)) ∧
    (∀ cluster host reason, Refused principal (.nodeList .remove) (Nodes.remove cfg principal cluster host reason)) ∧
    (∀ cluster seenAt, Refused principal (.nodeList .scan) (Nodes.scan lib cfg principal cluster seenAt)) := by
  refine ⟨?_, ?_, ?_⟩ <;> intros <;> exact requireAdmin_refused h _ _

/-- **Fleet jobs** -/
theorem job_refused (h : principal.can manageHealth = false) (repr : String → String) (clusters : List String)
    (runner : Option FleetJobs.JobRunner) (cluster key : String) (parameters : Dict Value) (reason : Option String) :
    Refused principal .startJob (FleetJobs.startJob repr clusters runner principal cluster key parameters reason) :=
  requireAdmin_refused h _ _

/-- **Kills**: what is checked first, one record, and nothing else -/
theorem kill_refused (h : principal.can "kill_query" = false) (cfg : Kill.KillConfig) (cluster queryId : String)
    (reason : Option String) (requestId : String) :
    Kill.killQuery cfg principal cluster queryId reason requestId =
      refusal cfg.clusters (.killQuery cluster queryId) principal reason := attempt_refused h

/-- **Config and catalog changes, and their deployments** -/
theorem drafts_refused (h : principal.can manageHealth = false) (cfg : Drafts.Config) (py : CatalogService.Python)
    (letters : ConfigEdit.Letters) (encode : EditService.Encoding) :
    (∀ name connector properties reason notes,
      Refused principal (.catalog .create) (CatalogService.create py principal name connector properties reason notes)) ∧
    (∀ id connector properties reason notes,
      Refused principal (.catalog .save) (CatalogService.save py principal id connector properties reason notes)) ∧
    (∀ id reason, Refused principal (.catalog .delete) (CatalogService.delete principal id reason)) ∧
    (∀ id cluster reason action,
      Refused principal (.catalog .deploy) (CatalogService.deploy py cfg principal id cluster reason action)) ∧
    (∀ title role entries notes reason,
      Refused principal (.config .create) (EditService.create letters principal title role entries notes reason)) ∧
    (∀ id title role entries notes reason,
      Refused principal (.config .update) (EditService.update letters principal id title role entries notes reason)) ∧
    (∀ id reason, Refused principal (.config .delete) (EditService.delete principal id reason)) ∧
    (∀ id cluster reason,
      Refused principal (.config .deploy) (EditService.deploy letters encode cfg principal id cluster reason)) := by
  have hrefused : ∀ {F α : Type} (message : String) (rest : Drafts.M F α),
      (Drafts.requireAdmin principal message >>= fun _ => rest) = throw (.forbidden message) := by
    intro F α message rest
    rw [Drafts.requireAdmin, if_neg (by rw [h]; decide)]
    rfl
  refine ⟨?_, ?_, ?_, ?_, ?_, ?_, ?_, ?_⟩ <;> intros <;> exact hrefused _ _

/-- **The restart sequence** -/
theorem restart_refused (h : principal.can manageHealth = false) (cfg : Service.Config) :
    (∀ cluster reason, Refused principal (.restart .start) (Service.start cfg principal cluster reason)) ∧
    (∀ id reason, Refused principal (.restart .forceDrain) (Service.forceDrain cfg principal id reason)) ∧
    (∀ id, Refused principal (.restart .restart) (Service.restart cfg principal id)) ∧
    (∀ id, Refused principal (.restart .markRestarted) (Service.markRestarted cfg principal id)) ∧
    (∀ id, Refused principal (.restart .complete) (Service.complete cfg principal id)) ∧
    (∀ id note, Refused principal (.restart .abort) (Service.abort cfg principal id note)) := by
  refine ⟨?_, ?_, ?_, ?_, ?_, ?_⟩ <;> intros <;> exact Service.requireAdmin_refused h _

/-- **Health overrides**: past the earlier checks, one record of a failure and nothing else -/
theorem health_refused (h : principal.can manageHealth = false) {clusters : List String} {cluster : String}
    (hcluster : cluster ∈ clusters) :
    (∀ testId reason enabled thresholds, enabled ≠ none ∨ thresholds.truthy = true → ∃ entry,
      entry.outcome = .failure ∧ entry.actor = principal.username ∧
        Overrides.updateHealthTest clusters principal cluster testId reason enabled thresholds =
          .act (.auditWrite entry) fun _ => throw (.forbidden
            ((WriteOperation.updateHealthTest cluster testId enabled thresholds.truthy).forbiddenMessage principal))) ∧
    (∀ enabled reason, ∃ entry, entry.outcome = .failure ∧ entry.actor = principal.username ∧
      Overrides.updateHealthRollup clusters principal cluster enabled reason =
        .act (.auditWrite entry) fun _ => throw (.forbidden
          ((WriteOperation.updateHealthRollup cluster).forbiddenMessage principal))) := by
  constructor
  · intro testId reason enabled thresholds hgiven
    unfold Overrides.updateHealthTest Overrides.changeOverride
    rw [if_neg (not_not.2 hcluster), if_neg (by intro hnone; simp [hnone] at hgiven), if_pos h]
    exact ⟨_, rfl, rfl, rfl⟩
  · intro enabled reason
    unfold Overrides.updateHealthRollup Overrides.changeOverride
    rw [if_neg (not_not.2 hcluster), if_pos h]
    exact ⟨_, rfl, rfl, rfl⟩

end Services

/-! ## A viewer -/

def jane : Principal := ⟨"jane", ["viewer"]⟩

/-- a service with nothing to it -/
def idle : Unit → (e : Empty) → Unit → Empty × Unit := fun _ e _ => (e, ())

/-- a call by a viewer that would return at once -/
def viewerCall (op : WriteOperation) : Except Exn Unit × Site Unit :=
  Prog.run (handle idle) [] (attempt ["a"] op jane (some "urgent") (pure () : M Empty (fun _ => Empty) Unit)) ⟨(), []⟩

theorem refused_on_record_kill : Recorded ["a"] (.killQuery "a" "q1") ∧
    RefusedOnRecord jane ⟨(), []⟩ (viewerCall (.killQuery "a" "q1")).1 (viewerCall (.killQuery "a" "q1")).2 :=
  ⟨List.mem_singleton_self _, (refused_on_record rfl (List.forall_mem_nil _)).2 (List.mem_singleton_self _)⟩

/-- **A refused deployment** leaves no record. -/
theorem deploy_unrecorded : viewerCall (.catalog .deploy) =
    (.error (.forbidden "Changing or deploying a catalog is restricted to administrators."), ⟨(), []⟩) := rfl

end TrinoManagement.Writes
