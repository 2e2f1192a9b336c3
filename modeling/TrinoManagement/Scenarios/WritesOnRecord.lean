/-
No write without a record: the services behind the audit guard, each write of theirs between the guard's question to the store
and the record of how it ended.

- `OnRecord`: in every run, and by the trace of what it did in order. `onRecord_of_accounted`: the rules of `Accounted` are
  enough.
- one lemma a program; its terms say which of its effects are writes and what its records are about.
- `writes_on_record`: all of them.
-/
import Mathlib.Tactic
import TrinoManagement.Api.Brackets
import TrinoManagement.Api.Kill
import TrinoManagement.Bench.ScheduleService
import TrinoManagement.Core.Words
import TrinoManagement.Fleet.Jobs
import TrinoManagement.Fleet.NodeService
import TrinoManagement.Fleet.Service

namespace TrinoManagement.Guard

open TrinoManagement.Audit
open TrinoManagement.Service (Exn)
open TrinoManagement.Text (strip)
open TrinoManagement.Trace (traced traced_adds)

variable {E : Type} {R : E → Type} {α : Type} {T : Terms E} {p : M E R α}

/-! ## In every run -/

/-- whatever the stores and the world answer: every write has its question before it and its record after it, a program that
returns has no failure on record, and a store that takes every record holds just these -/
structure OnRecord (T : Terms E) (p : M E R α) {O S : Type} [Inhabited O] (H : O → (e : E) → S → R e × S)
    (os : List (Oracle O)) (site : Site S) : Prop where
  bracketed : Bracketed T (traced seen (handle H) os p site).2.2
  clean : ∀ a, (traced seen (handle H) os p site).1 = .ok a → Clean (traced seen (handle H) os p site).2.2
  log : (default : Oracle O).writable = true → (∀ o ∈ os, o.writable = true) →
    (traced seen (handle H) os p site).2.1.log = site.log ++ recordsIn (traced seen (handle H) os p site).2.2

/-- in every run, under every handler of the service's own effects -/
def AlwaysOnRecord (T : Terms E) (p : M E R α) : Prop :=
  ∀ (O S : Type) [Inhabited O] (H : O → (e : E) → S → R e × S) (os : List (Oracle O)) (site : Site S), OnRecord T p H os site

theorem onRecord_of_accounted (h : Accounted T p) : AlwaysOnRecord T p :=
  fun _ _ _ _ _ _ => ⟨(traced_adds h).1, (traced_adds h).2, traced_log⟩

end TrinoManagement.Guard

namespace TrinoManagement.Scenarios

open TrinoManagement.Audit TrinoManagement.Guard
open TrinoManagement.Service (Exn)
open TrinoManagement.Text (strip)

variable {principal : Principal} {cluster : String} {reason : Option String}

/-! ## Queries and nodes -/

theorem accounted_killQuery {cfg : Kill.KillConfig} {queryId requestId : String} :
    Accounted (Kill.killTerms principal cluster queryId reason)
      (Kill.killQuery cfg principal cluster queryId reason requestId) := by
  refine accounted_bind accounted_refuse fun _ => accounted_bind ?_ fun _ => ?_
  · unfold Writes.requireCapability
    split_ifs
    · exact accounted_pure
    · exact accounted_refusal (T := Kill.killTerms principal cluster queryId reason)
  · cases cfg.clients.lookup cluster with
    | none => exact accounted_throw
    | some client =>
      refine accounted_rethrow (accounted_bind (accounted_audited rfl ?_) fun _ => accounted_pure)
      exact Trace.adds_mono (does_embed (Kill.adds_killQuery client queryId _)) fun _ _ ⟨es, hes, _⟩ => ⟨es, hes, trivial⟩

/-- the request to the node is the write -/
def shutdownTerms (principal : Principal) (cluster host : String) (reason : Option String) : Terms Fleet.FleetAct where
  writes
    | .beginShutdown _ => true
    | .loadFleet _ => false
  principal := principal
  reason := reason
  about := (· = ⟨"NODE_SHUTDOWN", "node", host, some cluster⟩)

theorem accounted_shutdownNode {cfg : Fleet.FleetConfig} {host : String} :
    Accounted (shutdownTerms principal cluster host reason) (Fleet.shutdownNode cfg principal cluster host reason) := by
  refine accounted_bind accounted_refuse fun _ => accounted_bind accounted_refuse fun _ => ?_
  refine accounted_bind accounted_refuse fun _ => accounted_bind ?_ fun record => ?_
  · refine accounted_bind (accounted_read rfl) fun answer => accounted_bind accounted_lift fun snapshot => ?_
    cases Fleet.recordOf snapshot host with
    | none => exact accounted_throw
    | some record => exact accounted_pure
  · refine accounted_bind accounted_refuse fun _ => accounted_bind accounted_refuse fun _ => ?_
    refine accounted_bind accounted_lift fun url => ?_
    refine accounted_bind (accounted_audited rfl ?_) fun _ => accounted_pure
    exact plain_bind (plain_op _) fun _ => plain_lift

/-! ## The node list -/

/-- everything but reading is a write -/
def nodeTerms (principal : Principal) (cluster host reason : String) : Terms Nodes.NodeAct where
  writes
    | .list _ | .queryNodes _ => false
    | .insert _ | .touch .. | .remove .. | .writeTemporary .. | .replace _ => true
  principal := principal
  reason := some reason
  about := (· = Nodes.target cluster (strip host))

theorem plain_writeInventory {path : String} : Plain (Nodes.writeInventory cluster path) := by
  refine plain_bind (plain_bind (plain_op _) fun _ => plain_lift) fun listing => ?_
  refine plain_bind (plain_op _) fun _ => plain_bind plain_lift fun _ => ?_
  exact plain_bind (plain_op _) fun _ => plain_lift

/-- a node is listed under the stripped host -/
theorem validate_host {lib : Nodes.Library} {host address role : String} {known : List String} {entry : Nodes.Entry}
    (h : Nodes.validate lib cluster host address role known = .ok entry) : entry.host = strip host := by
  unfold Nodes.validate at h
  dsimp only at h
  by_cases hknown : known ≠ [] ∧ strip cluster ∉ known
  · rw [if_pos hknown] at h
    cases h
  · rw [if_neg hknown] at h
    cases hrole : Nodes.roles.lookup (lib.lower (strip role)) with
    | none =>
      rw [hrole] at h
      cases h
    | some found =>
      rw [hrole] at h
      dsimp only at h
      split_ifs at h with hempty hhost haddress hname
      · obtain rfl := Except.ok.inj h
        rfl
      · obtain rfl := Except.ok.inj h
        rfl

theorem accounted_add {lib : Nodes.Library} {cfg : Nodes.NodeListConfig} {host address role reason : String} :
    Accounted (nodeTerms principal cluster host reason) (Nodes.add lib cfg principal cluster host address role reason) := by
  refine accounted_bind accounted_refuse fun _ => accounted_bind accounted_lift fun path => ?_
  cases hvalidate : Nodes.validate lib cluster host address role cfg.clusters with
  | error message => exact accounted_throw
  | ok entry =>
    have htarget : Nodes.target cluster entry.host = Nodes.target cluster (strip host) := by rw [validate_host hvalidate]
    refine accounted_audited (T := nodeTerms principal cluster host reason) htarget ?_
    refine plain_bind (plain_op _) fun answer => plain_bind plain_lift fun row => ?_
    exact plain_bind plain_writeInventory fun _ => plain_pure

theorem accounted_remove {cfg : Nodes.NodeListConfig} {host reason : String} :
    Accounted (nodeTerms principal cluster host reason) (Nodes.remove cfg principal cluster host reason) := by
  refine accounted_bind accounted_refuse fun _ => accounted_bind accounted_lift fun path => ?_
  refine accounted_bind (accounted_audited (T := nodeTerms principal cluster host reason) rfl ?_) fun _ => accounted_pure
  refine plain_bind (plain_op _) fun answer => plain_bind plain_lift fun removed => ?_
  exact plain_bind plain_refuse fun _ => plain_writeInventory

/-! ## Jobs -/

/-- the row, its outcome and the thread; a line of its output is none -/
def jobTerms (principal : Principal) (cluster key : String) (reason : Option String) : Terms FleetJobs.JobAct where
  writes
    | .create _ | .launch .. | .stream .. | .finish .. => true
    | .appendOutput .. => false
  principal := principal
  reason := reason
  about := (· = FleetJobs.jobTarget cluster key)

theorem accounted_startJob {repr : String → String} {clusters : List String} {runner : Option FleetJobs.JobRunner} {key : String}
    {parameters : Dict Value} : Accounted (jobTerms principal cluster key reason)
      (FleetJobs.startJob repr clusters runner principal cluster key parameters reason) := by
  refine accounted_bind accounted_refuse fun _ => accounted_bind accounted_refuse fun _ => ?_
  refine accounted_bind accounted_refuse fun _ => ?_
  cases runner with
  | none => exact accounted_throw
  | some runner =>
    refine accounted_bind accounted_lift fun job => accounted_bind accounted_lift fun cleaned => ?_
    refine accounted_bind (accounted_audited (T := jobTerms principal cluster key reason) rfl ?_) fun started => ?_
    · refine plain_bind (plain_op _) fun answer => plain_bind plain_lift fun id => plain_bind ?_ fun command => plain_pure
      unfold FleetJobs.launch
      split
      · exact plain_bind (plain_op _) fun answer => plain_bind plain_lift fun _ => plain_pure
      · exact plain_bind (plain_op _) fun _ => plain_throw
      · exact plain_bind (plain_op _) fun _ => plain_throw
    · exact accounted_bind (accounted_read rfl) fun _ => accounted_pure

/-! ## Benchmarks -/

/-- a run, a query set and a schedule are written; what is asked of the stores, the guard and the clock is read -/
def benchWrites : Bench.BenchAct → Bool
  | .now | .getSet _ | .active | .guard _ => false
  | .saveSet .. | .deleteSet _ | .saveQuery .. | .deleteQuery .. | .createRun _ | .startRunner _ | .createSchedule _
    | .updateSchedule .. => true

def runTerms (principal : Principal) (cluster querySet : String) (reason : Option String) : Terms Bench.BenchAct :=
  ⟨benchWrites, principal, reason, (· = ⟨"BENCHMARK_RUN", "cluster", cluster ++ ":" ++ querySet, some cluster⟩)⟩

/-- a set, or one query of it -/
def setTerms (principal : Principal) (about : Target → Prop) (reason : Option String) : Terms Bench.BenchAct :=
  ⟨benchWrites, principal, reason, about⟩

def scheduleTerms (E : Type) (writes : E → Bool) (principal : Principal) (reason : Option String) (name : String → Prop) : Terms E :=
  ⟨writes, principal, reason, fun t => ∃ n, name n ∧ t = ⟨"BENCHMARK_SCHEDULE_CHANGE", "benchmark_query_set", n, none⟩⟩

section Bench

variable {lib : Bench.Lib} {cfg : Bench.BenchConfig} {key name title description querySet : String} {about : Target → Prop}

theorem accounted_clusterOr404 {T : Terms Bench.BenchAct} : Accounted T (Bench.clusterOr404 cfg cluster) := accounted_refuse

theorem accounted_setOr404 {T : Terms Bench.BenchAct} (h : T.writes (.getSet key) = false) : Accounted T (Bench.setOr404 lib key) := by
  refine accounted_bind (accounted_read h) fun answer => accounted_bind accounted_lift fun found => ?_
  cases found with
  | none => exact accounted_throw
  | some found => exact accounted_pure

theorem accounted_notWhileRunning {T : Terms Bench.BenchAct} (h : T.writes .active = false) :
    Accounted T (Bench.notWhileRunning lib key) :=
  accounted_bind (accounted_read h) fun _ => accounted_refuse

theorem accounted_refuseQuery {T : Terms Bench.BenchAct} {sql : List Char} : Accounted T (Bench.refuseQuery lib name sql) :=
  accounted_bind accounted_refuse fun _ => accounted_refuse

theorem accounted_start {repetitions : Value} {label : Option String} {scheduleId : Option ℕ} :
    Accounted (runTerms principal cluster querySet reason)
      (Bench.start lib cfg principal cluster querySet reason repetitions label scheduleId) := by
  refine accounted_bind accounted_refuse fun _ => accounted_bind accounted_clusterOr404 fun _ => ?_
  refine accounted_bind (accounted_setOr404 rfl) fun declared => accounted_bind accounted_lift fun n => ?_
  refine accounted_bind (accounted_read rfl) fun answer => accounted_bind accounted_lift fun guard => ?_
  refine accounted_audited (T := runTerms principal cluster querySet reason) rfl ?_
  refine plain_bind (plain_op _) fun answer => plain_bind plain_lift fun id => ?_
  exact plain_bind (plain_op _) fun answer => plain_bind plain_lift fun _ => plain_pure

theorem accounted_saveSet (h : about (Bench.changeTarget key)) :
    Accounted (setTerms principal about reason) (Bench.saveSet lib principal key title description reason) := by
  refine accounted_bind accounted_refuse fun _ => accounted_bind accounted_refuse fun _ => ?_
  refine accounted_bind (accounted_notWhileRunning rfl) fun _ => ?_
  exact accounted_audited (T := setTerms principal about reason) h (plain_bind (plain_op _) fun _ => plain_lift)

theorem accounted_deleteSet (h : about (Bench.changeTarget key)) :
    Accounted (setTerms principal about reason) (Bench.deleteSet lib principal key reason) := by
  refine accounted_bind accounted_refuse fun _ => accounted_bind (accounted_setOr404 rfl) fun _ => ?_
  refine accounted_bind (accounted_notWhileRunning rfl) fun _ => accounted_bind ?_ fun _ => accounted_pure
  exact accounted_audited (T := setTerms principal about reason) h (plain_bind (plain_op _) fun _ => plain_lift)

theorem accounted_saveQuery {statement : List Char} {position : ℤ} {originalName : Option String}
    (h : about (Bench.changeTarget (key ++ "." ++ name))) : Accounted (setTerms principal about reason)
      (Bench.saveQuery lib principal key name title statement reason position originalName) := by
  refine accounted_bind accounted_refuse fun _ => accounted_bind (accounted_setOr404 rfl) fun found => ?_
  refine accounted_bind accounted_refuseQuery fun _ => accounted_bind accounted_refuse fun _ => ?_
  refine accounted_bind (accounted_notWhileRunning rfl) fun _ => accounted_rethrow ?_
  exact accounted_audited (T := setTerms principal about reason) h (plain_bind (plain_op _) fun _ => plain_lift)

theorem accounted_createSet {statement : List Char} (hset : about (Bench.changeTarget key))
    (hquery : about (Bench.changeTarget (key ++ "." ++ name))) : Accounted (setTerms principal about reason)
      (Bench.createSet lib principal key title description name statement reason) := by
  refine accounted_bind accounted_refuse fun _ => accounted_bind accounted_refuse fun _ => ?_
  refine accounted_bind accounted_refuseQuery fun _ => accounted_bind (accounted_read rfl) fun answer => ?_
  refine accounted_bind accounted_lift fun existing => accounted_bind accounted_refuse fun _ => ?_
  exact accounted_bind (accounted_saveSet hset) fun _ => accounted_saveQuery hquery

theorem accounted_deleteQuery (h : about (Bench.changeTarget (key ++ "." ++ name))) :
    Accounted (setTerms principal about reason) (Bench.deleteQuery lib principal key name reason) := by
  refine accounted_bind accounted_refuse fun _ => accounted_bind (accounted_setOr404 rfl) fun _ => ?_
  refine accounted_bind (accounted_notWhileRunning rfl) fun _ => ?_
  refine accounted_bind (accounted_rethrow ?_) fun removed => accounted_refuse
  exact accounted_audited (T := setTerms principal about reason) h (plain_bind (plain_op _) fun _ => plain_lift)

end Bench

/-! ## Schedules -/

/-- two reasons with one normal form are one to the guard -/
theorem audited_congr {E α : Type} {R : E → Type} {target : Target} {reason reason' : Option String} {p : M E R α}
    (h : normaliseReason (reason.getD "") = normaliseReason (reason'.getD "")) :
    audited principal target reason p = audited principal target reason' p := by
  unfold audited
  rw [h]

theorem validate_fields {name : String} {intervalMinutes repetitions : Value} {clusters : List String}
    {fields : Bench.ScheduleFields} (h : Bench.validate name intervalMinutes repetitions clusters reason = .ok fields) :
    fields.name = strip name ∧ fields.reason = strip (reason.getD "") := by
  unfold Bench.validate at h
  dsimp only at h
  split_ifs at h with hname hlong hblank hchosen
  · obtain ⟨interval, -, h⟩ := bind_eq_ok.1 h
    obtain ⟨reps, -, h⟩ := bind_eq_ok.1 h
    cases h
  · obtain ⟨interval, -, h⟩ := bind_eq_ok.1 h
    obtain ⟨reps, -, h⟩ := bind_eq_ok.1 h
    obtain rfl := Except.ok.inj h
    exact ⟨rfl, rfl⟩

theorem accounted_createSchedule {lib : Bench.Lib} {cfg : Bench.BenchConfig} {name querySet : String} {clusters : List String}
    {intervalMinutes repetitions : Value} {label : Option String} {startsAt : Option ℤ} :
    Accounted (scheduleTerms Bench.BenchAct benchWrites principal reason (· = strip name))
      (Bench.createSchedule lib cfg principal name querySet clusters intervalMinutes reason repetitions label startsAt) := by
  refine accounted_bind accounted_refuse fun _ => ?_
  cases hvalidate : Bench.validate name intervalMinutes repetitions clusters reason with
  | error message => exact accounted_throw
  | ok fields =>
    obtain ⟨hname, hreason⟩ := validate_fields hvalidate
    have hclusters : ∀ chosen, Accounted (scheduleTerms Bench.BenchAct benchWrites principal reason (· = strip name))
        (Bench.clustersOr404 cfg chosen) := by
      intro chosen
      induction chosen with
      | nil => exact accounted_pure
      | cons cluster rest ih => exact accounted_bind accounted_clusterOr404 fun _ => ih
    have hnormal : normaliseReason ((some fields.reason).getD "") = normaliseReason (reason.getD "") := by
      rw [Option.getD_some, hreason, normaliseReason_strip]
    change Accounted _ (Bench.setOr404 lib querySet >>= _)
    refine accounted_bind (accounted_setOr404 rfl) fun _ => accounted_bind (hclusters _) fun _ => ?_
    refine accounted_bind (accounted_read rfl) fun utcnow => ?_
    rw [audited_congr hnormal]
    refine accounted_audited (T := scheduleTerms Bench.BenchAct benchWrites principal reason (· = strip name)) ⟨_, hname, rfl⟩ ?_
    exact plain_bind (plain_op _) fun _ => plain_lift

/-- switching -/
def switchWrites : Bench.SwitchAct → Bool
  | .get _ | .now => false
  | .update .. => true

def dropWrites : Bench.DropAct → Bool
  | .get _ => false
  | .delete _ => true

theorem accounted_setScheduleEnabled {available enabled : Bool} {id : ℕ} :
    Accounted (scheduleTerms Bench.SwitchAct switchWrites principal reason fun _ => True)
      (Bench.setScheduleEnabled principal available id enabled reason) := by
  refine accounted_bind accounted_refuse fun _ => accounted_bind accounted_refuse fun _ => ?_
  refine accounted_bind (accounted_read rfl) fun answer => accounted_bind accounted_lift fun found => ?_
  cases found with
  | none => exact accounted_throw
  | some row =>
    refine accounted_bind ?_ fun changes => ?_
    · unfold Bench.switchChanges
      split_ifs
      · exact accounted_bind (accounted_read rfl) fun _ => accounted_pure
      · exact accounted_pure
    · refine accounted_audited (T := scheduleTerms Bench.SwitchAct switchWrites principal reason fun _ => True)
        ⟨_, trivial, rfl⟩ ?_
      exact plain_bind (plain_op _) fun _ => plain_lift

theorem accounted_deleteSchedule {available : Bool} {id : ℕ} :
    Accounted (scheduleTerms Bench.DropAct dropWrites principal reason fun _ => True)
      (Bench.deleteSchedule principal available id reason) := by
  refine accounted_bind accounted_refuse fun _ => accounted_bind accounted_refuse fun _ => ?_
  refine accounted_bind (accounted_read rfl) fun answer => accounted_bind accounted_lift fun found => ?_
  cases found with
  | none => exact accounted_throw
  | some row =>
    refine accounted_audited (T := scheduleTerms Bench.DropAct dropWrites principal reason fun _ => True) ⟨_, trivial, rfl⟩ ?_
    exact plain_bind (plain_op _) fun _ => plain_lift

/-! ## All of them -/

/-- **No write without a record.** Killing a query, shutting a node down, changing the node list, starting a job or a benchmark,
and changing query sets and schedules: in every run, whatever is asked for and whatever answers, each write comes after the audit
store said that it is writable and before a record of how it ended, which names the caller, the caller's reason and what was done;
and a call that returns has no failure on record. -/
theorem writes_on_record (principal : Principal) (cluster : String) (reason : Option String) :
    (∀ cfg queryId requestId, AlwaysOnRecord (Kill.killTerms principal cluster queryId reason)
      (Kill.killQuery cfg principal cluster queryId reason requestId)) ∧
    (∀ cfg host, AlwaysOnRecord (shutdownTerms principal cluster host reason)
      (Fleet.shutdownNode cfg principal cluster host reason)) ∧
    (∀ lib cfg host address role why, AlwaysOnRecord (nodeTerms principal cluster host why)
      (Nodes.add lib cfg principal cluster host address role why)) ∧
    (∀ cfg host why, AlwaysOnRecord (nodeTerms principal cluster host why) (Nodes.remove cfg principal cluster host why)) ∧
    (∀ repr clusters runner key parameters, AlwaysOnRecord (jobTerms principal cluster key reason)
      (FleetJobs.startJob repr clusters runner principal cluster key parameters reason)) ∧
    (∀ lib cfg querySet repetitions label scheduleId, AlwaysOnRecord (runTerms principal cluster querySet reason)
      (Bench.start lib cfg principal cluster querySet reason repetitions label scheduleId)) ∧
    (∀ lib key title description, AlwaysOnRecord (setTerms principal (· = Bench.changeTarget key) reason)
      (Bench.saveSet lib principal key title description reason)) ∧
    (∀ lib key title description name statement, AlwaysOnRecord
      (setTerms principal (fun t => t = Bench.changeTarget key ∨ t = Bench.changeTarget (key ++ "." ++ name)) reason)
      (Bench.createSet lib principal key title description name statement reason)) ∧
    (∀ lib key, AlwaysOnRecord (setTerms principal (· = Bench.changeTarget key) reason)
      (Bench.deleteSet lib principal key reason)) ∧
    (∀ lib key name title statement position originalName, AlwaysOnRecord
      (setTerms principal (· = Bench.changeTarget (key ++ "." ++ name)) reason)
      (Bench.saveQuery lib principal key name title statement reason position originalName)) ∧
    (∀ lib key name, AlwaysOnRecord (setTerms principal (· = Bench.changeTarget (key ++ "." ++ name)) reason)
      (Bench.deleteQuery lib principal key name reason)) ∧
    (∀ lib cfg name querySet clusters intervalMinutes repetitions label startsAt, AlwaysOnRecord
      (scheduleTerms Bench.BenchAct benchWrites principal reason (· = strip name))
      (Bench.createSchedule lib cfg principal name querySet clusters intervalMinutes reason repetitions label startsAt)) ∧
    (∀ available enabled id, AlwaysOnRecord (scheduleTerms Bench.SwitchAct switchWrites principal reason fun _ => True)
      (Bench.setScheduleEnabled principal available id enabled reason)) ∧
    ∀ available id, AlwaysOnRecord (scheduleTerms Bench.DropAct dropWrites principal reason fun _ => True)
      (Bench.deleteSchedule principal available id reason) := by
  refine ⟨?_, ?_, ?_, ?_, ?_, ?_, ?_, ?_, ?_, ?_, ?_, ?_, ?_, ?_⟩
  · exact fun _ _ _ => onRecord_of_accounted accounted_killQuery
  · exact fun _ _ => onRecord_of_accounted accounted_shutdownNode
  · exact fun _ _ _ _ _ _ => onRecord_of_accounted accounted_add
  · exact fun _ _ _ => onRecord_of_accounted accounted_remove
  · exact fun _ _ _ _ _ => onRecord_of_accounted accounted_startJob
  · exact fun _ _ _ _ _ _ => onRecord_of_accounted accounted_start
  · exact fun _ _ _ _ => onRecord_of_accounted (accounted_saveSet rfl)
  · exact fun _ _ _ _ _ _ => onRecord_of_accounted (accounted_createSet (.inl rfl) (.inr rfl))
  · exact fun _ _ => onRecord_of_accounted (accounted_deleteSet rfl)
  · exact fun _ _ _ _ _ _ _ => onRecord_of_accounted (accounted_saveQuery rfl)
  · exact fun _ _ _ => onRecord_of_accounted (accounted_deleteQuery rfl)
  · exact fun _ _ _ _ _ _ _ _ _ => onRecord_of_accounted accounted_createSchedule
  · exact fun _ _ _ => onRecord_of_accounted accounted_setScheduleEnabled
  · exact fun _ _ => onRecord_of_accounted accounted_deleteSchedule

end TrinoManagement.Scenarios
