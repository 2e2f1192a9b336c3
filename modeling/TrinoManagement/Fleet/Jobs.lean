/-
Fleet jobs, `tms/fleet/jobs.py` and the `start_job` of `tms/fleet/service.py`: playbooks that an administrator has declared,
with whole numbers for parameters.

- `JobParameter`: its bounds are in order by construction; `clean` is what makes a number of what was submitted.
- `JobDefinition`: its playbook is an absolute path. `buildJobs`: the definitions of a configuration.
- `buildCommand`: the command line of a run. `command_declared`: it runs the playbook that the configuration declares.
- `startJob`: the checks, the row, and the thread; `work` is the thread.
-/
import Mathlib.Tactic
import TrinoManagement.Api.Guard
import TrinoManagement.Core.Dict
import TrinoManagement.Core.Number
import TrinoManagement.Jobs.Runs

namespace TrinoManagement.FleetJobs

open TrinoManagement.Audit TrinoManagement.Guard
open TrinoManagement.Jobs (Outcome RunState)
open TrinoManagement.Service (Exn)
open TrinoManagement.Text (blank)

/-! ## Declarations -/

/-- `raise` of a `JobError`, with its text -/
abbrev Checked (α : Type) := Except String α

structure JobParameter where
  name : String
  label : String
  minimum : ℤ
  maximum : ℤ
  default : ℤ
  ordered : minimum ≤ maximum
deriving DecidableEq

/-- `int(str(raw).strip())`; the text of anything but an int and a str is no number -/
def wholeNumber : Value → Option ℤ
  | .int n => some n
  | .str s => intOfString s
  | _ => none

/-- one line of `parameters`; what is missing has a default -/
structure RawParameter where
  label : Option String
  min : Option ℤ
  max : Option ℤ
  default : Option ℤ
deriving DecidableEq, Repr

structure RawJob where
  playbook : Option String
  title : Option String
  description : Option String
  parameters : Dict RawParameter
  timeoutSeconds : Option ℚ
deriving DecidableEq, Repr

/-- `a or b` -/
def orElse (text : Option String) (other : String) : String := if text.getD "" = "" then other else text.getD ""

section Declarations

variable (repr : String → String) (capitalize : String → String)

/-- `JobParameter.__init__` -/
def JobParameter.init (name : String) (spec : RawParameter) : Checked JobParameter :=
  let minimum := spec.min.getD 1
  let maximum := spec.max.getD 10
  if h : maximum < minimum then
    .error ("parameter " ++ repr name ++ ": min " ++ toString minimum ++ " is above max " ++ toString maximum)
  else .ok ⟨name, orElse spec.label name, minimum, maximum, spec.default.getD minimum, not_lt.1 h⟩

def JobParameter.clean (p : JobParameter) (raw : Value) : Checked ℤ :=
  match wholeNumber raw with
  | none => .error (p.label ++ " must be a whole number.")
  | some value =>
    if p.minimum ≤ value ∧ value ≤ p.maximum then .ok value
    else .error (p.label ++ " must be between " ++ toString p.minimum ++ " and " ++ toString p.maximum ++ ".")

/-- `os.path.isabs` -/
def isAbs (path : String) : Bool := path.toList.head? == some '/'

structure JobDefinition where
  key : String
  title : String
  description : String
  playbook : String
  parameters : List JobParameter
  timeoutSeconds : ℚ
  absolute : isAbs playbook = true
deriving DecidableEq

/-- `JobDefinition.__init__` -/
def JobDefinition.init (key : String) (raw : RawJob) (parameters : List JobParameter) : Checked JobDefinition :=
  if h : isAbs (raw.playbook.getD "") = true then
    .ok ⟨key, orElse raw.title (capitalize (key.map fun c => if c = '_' then ' ' else c)), raw.description.getD "",
      raw.playbook.getD "", parameters, raw.timeoutSeconds.getD 1800, h⟩
  else .error ("fleet.jobs." ++ key ++ ".playbook must be an absolute path")

/-- every declared parameter, and nothing that was not declared -/
def JobDefinition.clean (job : JobDefinition) (submitted : Dict Value) : Checked (Dict ℤ) :=
  (job.parameters.mapM fun (p : JobParameter) => (p.clean ((submitted.lookup p.name).getD (.int p.default))).map (p.name, ·)).map Dict.ofPairs

/-- `sorted(d.items())` -/
def sortedItems {α : Type} (d : Dict α) : List (String × α) := d.insertionSort fun a b => a.1 ≤ b.1

/-- `build_jobs` -/
def buildJobs (raw : Dict RawJob) : Checked (Dict JobDefinition) :=
  ((sortedItems raw).mapM fun ((key, entry) : String × RawJob) => do
    let parameters ← (sortedItems entry.parameters).mapM fun (name, spec) => JobParameter.init repr name spec
    let job ← JobDefinition.init capitalize key entry parameters
    pure (key, job)).map Dict.ofPairs

/-! ## Commands -/

/-- what a `JobRunner` is made from -/
structure JobRunner where
  jobs : Dict JobDefinition
  clusterInventories : Dict String
  binary : String

variable (runner : JobRunner)

def JobRunner.definition (key : String) : Checked JobDefinition :=
  match runner.jobs.lookup key with
  | some job => .ok job
  | none => .error ("unknown job " ++ repr key)

/-- `name=value` -/
def extraVar (p : String × ℤ) : List String := ["--extra-vars", p.1 ++ "=" ++ toString p.2]

/-- `build_command` -/
def JobRunner.buildCommand (key cluster : String) (parameters : Dict ℤ) : Checked (List String) := do
  let job ← runner.definition repr key
  match runner.clusterInventories.lookup cluster with
  | none => .error ("cluster " ++ repr cluster ++ " has no configured inventory, so TMS will not target it")
  | some inventory =>
    pure ([runner.binary, "--inventory", inventory, job.playbook] ++ (sortedItems parameters).flatMap extraVar)

section Declared

variable {repr capitalize runner} {raw : Dict RawJob} {jobs : Dict JobDefinition} {key cluster : String} {job : JobDefinition}

theorem isAbs_declared {playbook : Option String} (h : isAbs (playbook.getD "") = true) : playbook = some (playbook.getD "") := by
  cases playbook with
  | none => exact absurd h (by decide)
  | some path => rfl

theorem init_playbook {entry : RawJob} {parameters : List JobParameter}
    (h : JobDefinition.init capitalize key entry parameters = .ok job) : entry.playbook = some job.playbook := by
  unfold JobDefinition.init at h
  split_ifs at h with habsolute
  obtain rfl := Except.ok.inj h
  exact isAbs_declared habsolute

/-- a job is the configuration's, under its key -/
theorem buildJobs_declared (h : buildJobs repr capitalize raw = .ok jobs) (hjob : jobs.lookup key = some job) :
    ∃ entry, (key, entry) ∈ raw ∧ entry.playbook = some job.playbook := by
  obtain ⟨pairs, hpairs, rfl⟩ := map_eq_ok.1 h
  rw [Dict.lookup_ofPairs] at hjob
  have hmem : (key, job) ∈ pairs := List.mem_reverse.1 (Assoc.mem_of_lookup hjob)
  obtain ⟨⟨key', entry⟩, hentry, hmade⟩ := (mapM_elements hpairs).2 _ hmem
  obtain ⟨parameters, -, hmade⟩ := bind_eq_ok.1 hmade
  obtain ⟨job', hinit, hpair⟩ := bind_eq_ok.1 hmade
  obtain ⟨rfl, rfl⟩ := Prod.mk.inj (Except.ok.inj hpair)
  exact ⟨entry, (List.perm_insertionSort _ raw).mem_iff.1 hentry, init_playbook hinit⟩

/-- **A command** runs the playbook that is declared under the key, by an absolute path, on the cluster's inventory. -/
theorem command_declared (h : buildJobs repr capitalize raw = .ok runner.jobs) {parameters : Dict ℤ} {command : List String}
    (hcommand : runner.buildCommand repr key cluster parameters = .ok command) : ∃ entry playbook inventory,
      (key, entry) ∈ raw ∧ entry.playbook = some playbook ∧ isAbs playbook = true ∧
      runner.clusterInventories.lookup cluster = some inventory ∧
      command = [runner.binary, "--inventory", inventory, playbook] ++ (sortedItems parameters).flatMap extraVar := by
  obtain ⟨job, hjob, hcommand⟩ := bind_eq_ok.1 hcommand
  cases hinventory : runner.clusterInventories.lookup cluster with
  | none =>
    rw [hinventory] at hcommand
    cases hcommand
  | some inventory =>
    rw [hinventory] at hcommand
    obtain rfl := Except.ok.inj hcommand
    have hfound : runner.jobs.lookup key = some job := by
      unfold JobRunner.definition at hjob
      cases hlookup : runner.jobs.lookup key with
      | none =>
        rw [hlookup] at hjob
        cases hjob
      | some job' =>
        rw [hlookup] at hjob
        rw [Except.ok.inj hjob]
    obtain ⟨entry, hentry, hplaybook⟩ := buildJobs_declared h hfound
    exact ⟨entry, job.playbook, inventory, hentry, hplaybook, job.absolute, rfl, rfl⟩

end Declared

end Declarations

/-- what `stream_command` returns -/
structure CommandResult where
  timedOut : Bool
  error : Option String
  rc : Option ℤ
deriving DecidableEq, Repr

theorem failed_ended : RunState.failed ≠ .running := by decide

theorem succeeded_ended : RunState.succeeded ≠ .running := by decide

/-- what the runner's result means for the run row -/
def outcome (result : CommandResult) : Outcome :=
  if result.timedOut then ⟨.failed, failed_ended, none, some ("The playbook was still running when the timeout " ++
    "expired and was killed. Whatever it had already done on the nodes has been done.")⟩
  else if result.error.getD "" ≠ "" then ⟨.failed, failed_ended, none, result.error⟩
  else if result.rc = some 0 then ⟨.succeeded, succeeded_ended, some 0, none⟩
  else ⟨.failed, failed_ended, result.rc, some ("The playbook exited with code " ++ (result.rc.map toString).getD "None" ++ ".")⟩

/-! ## Starting -/

/-- a row of `fleet_job_run` as it is inserted -/
structure NewRun where
  cluster : String
  job : String
  actor : String
  roles : List String
  reason : Option String
  parameters : Dict ℤ
deriving DecidableEq

inductive CreateError where
  | activeJobExists
  | unavailable (message : String)
deriving DecidableEq, Repr

inductive JobAct where
  | create (run : NewRun)
  /-- the thread that runs the command -/
  | launch (id : ℕ) (command : List String) (timeoutSeconds : ℚ)
  /-- `stream_command` in that thread: the lines it handed on, and its result or the text of an exception -/
  | stream (command : List String) (timeoutSeconds : ℚ)
  | finish (id : ℕ) (outcome : Outcome)
  | appendOutput (id : ℕ) (message level : String)

@[reducible] def JobAct.Answer : JobAct → Type
  | .create _ => Except CreateError ℕ
  | .launch .. => Except String Unit
  | .stream .. => List String × Except String CommandResult
  | .finish .. | .appendOutput .. => Unit

abbrev JobM (α : Type) := M JobAct JobAct.Answer α

def CreateError.exn (cluster : String) : CreateError → Exn
  | .activeJobExists => .invalidRequest ("A job is already running on " ++ cluster ++ ". Two playbooks writing the same " ++
      "inventory at once is not a conflict anyone can untangle afterwards.")
  | .unavailable m => .upstreamUnavailable ("Cannot record this job, so it will not be started: " ++ m)

section Start

variable (repr : String → String)

/-- `JobRunner.start`, and what its caller does with a `JobError` -/
def launch (runner : JobRunner) (key cluster : String) (cleaned : Dict ℤ) (id : ℕ) : JobM (List String) :=
  match runner.definition repr key, runner.buildCommand repr key cluster cleaned with
  | .ok job, .ok command => do
    lift (.client "RuntimeError") (← op (.launch id command job.timeoutSeconds))
    pure command
  | .error message, _ | _, .error message => do
    op (JobAct.finish id ⟨.failed, failed_ended, none, some message⟩)
    throw (.invalidRequest message)

/-- `_start_job_audited`, the part under the guard -/
def jobBody (runner : JobRunner) (principal : Principal) (cluster key : String) (cleaned : Dict ℤ) (reason : Option String) :
    JobM (ℕ × List String) := do
  let id ← lift (CreateError.exn cluster) (← op (.create ⟨cluster, key, principal.username, principal.roles, reason, cleaned⟩))
  let command ← launch repr runner key cluster cleaned id
  pure (id, command)

def jobTarget (cluster key : String) : Target := ⟨"FLEET_JOB_RUN", "cluster", cluster ++ ":" ++ key, some cluster⟩

/-- `start_job`; `runner` is `none` where no job is configured -/
def startJob (clusters : List String) (runner : Option JobRunner) (principal : Principal) (cluster key : String)
    (parameters : Dict Value) (reason : Option String) : JobM ℕ := do
  requireAdmin principal "You do not have permission to run fleet jobs."
  refuse (if cluster ∈ clusters then none else some (.notFound ("Unknown cluster: " ++ cluster)))
  refuse (if blank (reason.getD "") then some (.invalidRequest "A reason is required to run a job.") else none)
  match runner with
  | none => throw (.invalidRequest "Fleet jobs are not configured (fleet.jobs).")
  | some runner => do
    let job ← lift .invalidRequest (runner.definition repr key)
    let cleaned ← lift .invalidRequest (job.clean parameters)
    let (id, command) ← audited principal (jobTarget cluster key) reason
      (jobBody repr runner principal cluster key cleaned reason)
    op (JobAct.appendOutput id ("Running " ++ " ".intercalate command) "info")
    pure id

end Start

/-! ## The thread -/

/-- `store.append_output` for each line -/
def appendLines (id : ℕ) : List String → JobM Unit
  | [] => pure ()
  | line :: lines => do
    op (JobAct.appendOutput id line "output")
    appendLines id lines

/-- what is handed to `on_finish` -/
def ending : Except String CommandResult → Outcome
  | .error text => ⟨.failed, failed_ended, none, some text⟩
  | .ok result => outcome result

/-- `work` of `JobRunner.start` -/
def work (id : ℕ) (command : List String) (timeoutSeconds : ℚ) : JobM Unit := do
  let answer ← op (JobAct.stream command timeoutSeconds)
  appendLines id answer.1
  op (JobAct.finish id (ending answer.2))

end TrinoManagement.FleetJobs
