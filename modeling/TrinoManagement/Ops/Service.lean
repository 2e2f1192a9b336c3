/-
Driving the restart sequence, `tms/ops/service.py`. `Ops.Sequence` decides what may happen; the programs here make it
happen: deactivating in the Gateway, reading the running query count, running the restart, reactivating.

Each operation is a program over the effects `Act`, in the order the source performs them. Python mutates one
`StoredSequence`; here it is passed on explicitly, so what an `except` branch sees of it is what the source's sees.
-/
import Mathlib.Tactic
import TrinoManagement.Collector.GatewayPoller
import TrinoManagement.Core.Audit
import TrinoManagement.Core.Prog
import TrinoManagement.Ops.Repository

namespace TrinoManagement.Service

open TrinoManagement.Audit TrinoManagement.Collector TrinoManagement.Repository TrinoManagement.Sequence
open TrinoManagement.Text (blank Reason)
open TrinoManagement.Prog (perform)

/-! ## Effects -/

/-- what an executor says of a restart -/
inductive ExecState where
  | pendingOperator | running | succeeded | failed | unknown
deriving DecidableEq, Repr

/-- every exception that can leave an operation, with its text -/
inductive Exn where
  | forbidden (message : String)
  | notFound (message : String)
  | invalidRequest (message : String)
  | upstreamUnavailable (message : String)
  | activeSequenceExists (message : String)
  | sequenceUnavailable (message : String)
  | reasonRequired (message : String)
  | auditUnavailable (message : String)
  | sequence (raised : Raised)
  /-- an exception of a client: its class and its text -/
  | client (className message : String)
deriving DecidableEq, Repr

/-- `str(exc)` -/
def Exn.text : Exn → String
  | .forbidden m | .notFound m | .invalidRequest m | .upstreamUnavailable m | .activeSequenceExists m
  | .sequenceUnavailable m | .reasonRequired m | .auditUnavailable m | .client _ m
  | .sequence (.sequenceError m) | .sequence (.stepBlocked m) => m
  | .sequence .typeError => "'>' not supported between instances of 'NoneType' and 'int'"

/-- `type(exc).__name__` -/
def Exn.className : Exn → String
  | .forbidden _ => "Forbidden"
  | .notFound _ => "NotFound"
  | .invalidRequest _ => "InvalidRequest"
  | .upstreamUnavailable _ => "UpstreamUnavailable"
  | .activeSequenceExists _ => "ActiveSequenceExists"
  | .sequenceUnavailable _ => "SequenceUnavailable"
  | .reasonRequired _ => "ReasonRequired"
  | .auditUnavailable _ => "AuditUnavailable"
  | .sequence (.sequenceError _) => "SequenceError"
  | .sequence (.stepBlocked _) => "StepBlocked"
  | .sequence .typeError => "TypeError"
  | .client c _ => c

/-- everything an operation does outside its own memory -/
inductive Act where
  | now
  | load (id : ℕ)
  | insert (sequence : RestartSequence) (roles : List String)
  | save (stored : StoredSequence) (forceReason : Option String)
  | loadQueries (cluster : String)
  | loadHealth (cluster : String)
  | loadGateway
  | probe (nodeEnvironment : String)
  | auditWritable
  | auditWrite (record : AuditRecord)
  | preflight (cluster : String)
  | setActive (backend : String) (active : Bool)
  | execStart (cluster : String) (id : ℕ)
  | execStatus (cluster : String) (id : ℕ)
  | linesSince (id shown : ℕ)
  | execResult (id : ℕ)
deriving DecidableEq

/-- the answer to an effect; a failed audit write is logged and swallowed, so it answers nothing -/
@[reducible] def Act.Answer : Act → Type
  | .now => ℚ
  | .load _ => Except Exn (Option StoredSequence)
  | .insert .. => Except Exn ℕ
  | .save .. => Except Exn Unit
  | .loadQueries _ => Except Exn (Option QueriesSnapshot)
  | .loadHealth _ => Except Exn (Option HealthSnapshot)
  | .loadGateway => Except Exn (Option GatewaySnapshot)
  | .probe _ => Option Bool × String
  | .auditWritable => Bool
  | .auditWrite _ => Unit
  | .preflight _ => Except Exn Unit
  | .setActive .. => Except Exn Unit
  | .execStart .. => Except Exn ExecState
  | .execStatus .. => ExecState
  | .linesSince .. => List String
  | .execResult _ => Option String

abbrev M (α : Type) := Prog Act Act.Answer Exn α

/-- an answer that may be an exception -/
def lift {α : Type} : Except Exn α → M α
  | .ok a => pure a
  | .error e => throw e

/-- the deployment: what `RestartService.__init__` is given, less the stores behind the effects -/
structure Config where
  clusters : List ClusterConfig
  gateway : Bool
  configStore : Bool
  automated : Bool
deriving DecidableEq, Repr

/-- `config.cluster(name)` -/
def Config.cluster (cfg : Config) (name : String) : Option ClusterConfig := cfg.clusters.find? (·.name = name)

/-! ## Helpers -/

section Helpers

variable (cfg : Config) (principal : Principal)

def requireAdmin : M Unit :=
  if principal.can manageHealth then pure () else throw (.forbidden "You do not have permission to restart a cluster.")

theorem requireAdmin_refused {α : Type} {principal : Principal} (h : principal.can manageHealth = false) (rest : M α) :
    (requireAdmin principal >>= fun _ => rest) = throw (.forbidden "You do not have permission to restart a cluster.") := by
  rw [requireAdmin, if_neg (by rw [h]; decide)]
  rfl

def clusterOr404 (cluster : String) : M Unit :=
  match cfg.cluster cluster with
  | some _ => pure ()
  | none => throw (.notFound ("Unknown cluster: " ++ cluster))

def loadOr404 (id : ℕ) : M StoredSequence := do
  match ← lift (← perform (Act.load id)) with
  | some stored => pure stored
  | none => throw (.notFound ("No such restart sequence: " ++ toString id))

/-- a method of the sequence; the caller keeps the object whether or not the method raised -/
def attempt (stored : StoredSequence) (method : RestartSequence → ℚ → Outcome) :
    M (StoredSequence × Except Raised Unit) := do
  let t ← perform Act.now
  let r := method stored.sequence t
  pure ({ stored with sequence := r.1 }, r.2)

/-- a method whose exception nothing here catches -/
def invoke (stored : StoredSequence) (method : RestartSequence → ℚ → Outcome) : M StoredSequence := do
  match ← attempt stored method with
  | (stored, .ok ()) => pure stored
  | (_, .error e) => throw (.sequence e)

/-- a method whose exception becomes a refused request -/
def invokeOrRefuse (stored : StoredSequence) (method : RestartSequence → ℚ → Outcome) : M StoredSequence := do
  match ← attempt stored method with
  | (stored, .ok ()) => pure stored
  | (_, .error e) => throw (.invalidRequest (Exn.sequence e).text)

/-- `repository.save`; what it saved counts as persisted only if it did not raise -/
def save (stored : StoredSequence) (forceReason : Option String) : M StoredSequence := do
  lift (← perform (Act.save stored forceReason))
  pure stored.markPersisted

/-- `repository.create`: the row, then a save of its events -/
def create (sequence : RestartSequence) : M StoredSequence := do
  let id ← lift (← perform (Act.insert sequence principal.roles))
  save ⟨id, sequence, 0, none, none⟩ none

/-- `_audited`: refuses without a reason or a writable store, then records how the body ended -/
def audited {α : Type} (cluster reason : String) (body : M α) : M α :=
  match normaliseReason reason with
  | none => throw (.reasonRequired reasonRequiredMessage)
  | some clean => do
    let writable : Bool ← perform Act.auditWritable
    if writable then
      let record (outcome : AuditOutcome) (errorMessage : Option String) : Act :=
        .auditWrite ⟨principal.username, principal.roles, cluster, clean, outcome, errorMessage⟩
      let a ← tryCatch body fun e => do
        perform (record .failure (some (e.className ++ ": " ++ e.text)))
        throw e
      perform (record .success none)
      pure a
    else
      throw (.auditUnavailable ("audit store is unavailable; refusing to perform CLUSTER_RESTART on " ++ cluster))

/-- `running` of `_observe`: a snapshot that cannot be trusted counts nothing -/
def observedRunning (snapshot : Option QueriesSnapshot) : Option ℤ :=
  match snapshot with
  | some s => if s.trustworthy then some s.live else none
  | none => none

/-- `health` of `_observe` -/
def observedHealth (snapshot : Option HealthSnapshot) : Option String := snapshot.map (·.payload.rollupState.name)

/-- `_observe_config_store`: asked only while draining or drained -/
def observeConfigStore (stored : StoredSequence) : M StoredSequence :=
  if cfg.configStore = false then pure stored
  else if stored.sequence.state ∉ [State.draining, State.drained] then pure stored
  else
    match cfg.cluster stored.sequence.cluster with
    | none => pure stored
    | some cluster => do
      let probe ← perform (Act.probe cluster.nodeEnvironment)
      invoke stored fun s t => s.observeConfigStore t probe.1 probe.2

/-- what a reading does to the sequence in memory -/
def takeReading (running : Option ℤ) (health : Option String) (s : RestartSequence) (t : ℚ) : Outcome :=
  match running, health with
  | some n, _ => s.observe t (some n) health
  | none, some h => ({ s with healthState := some h }, .ok ())
  | none, none => (s, .ok ())

/-- `_observe`: re-read the cluster before any decision that depends on it -/
def observe (stored : StoredSequence) : M StoredSequence := do
  let queries ← lift (← perform (Act.loadQueries stored.sequence.cluster))
  let health ← lift (← perform (Act.loadHealth stored.sequence.cluster))
  let stored ← invoke stored (takeReading (observedRunning queries) (observedHealth health))
  observeConfigStore cfg stored

def recordLines (stored : StoredSequence) : List String → M StoredSequence
  | [] => pure stored
  | line :: rest => do
    let stored ← invoke stored fun s t => s.log t line levelOutput
    recordLines stored rest

def playbookFailed (cluster detail : String) : String :=
  "The restart playbook failed" ++ (if detail ≠ "" then ": " ++ detail else "") ++ ". " ++ cluster ++
    " is drained and still receiving no queries — nothing was restarted. Abort to put it back in rotation, then " ++
    "start again once the cause is fixed."

def lostSight (cluster : String) : String :=
  "TMS lost sight of the restart of " ++ cluster ++ " (it was restarted while the playbook was running). Check the " ++
    "cluster yourself before continuing."

/-- `_poll_executor`: pull an automated restart's progress into the log; only a finished playbook advances -/
def pollExecutor (stored : StoredSequence) : M StoredSequence :=
  if stored.sequence.state ≠ .restarting ∨ cfg.automated = false then pure stored
  else do
    let shown := stored.sequence.history.countP fun event => event.level == levelOutput
    let stored ← recordLines stored (← perform (Act.linesSince stored.id shown))
    match ← perform (Act.execStatus stored.sequence.cluster stored.id) with
    | .succeeded =>
      let stored ← invoke stored fun s t => s.log t "Playbook finished successfully." levelInfo
      invoke stored fun s t => s.markRestarted t
    | .failed =>
      let detail ← perform (Act.execResult stored.id)
      invoke stored fun s t => s.log t (playbookFailed s.cluster (detail.getD "")) levelError
    | .unknown => invoke stored fun s t => s.log t (lostSight s.cluster) levelWarn
    | _ => pure stored

/-- the first backend of the stored join mapped to the cluster -/
def resolve (snapshot : Option GatewaySnapshot) (cluster : String) : Option String :=
  match snapshot.bind (·.payload) with
  | some p => (p.backends.find? fun b => b.cluster = some cluster).map (·.name)
  | none => none

/-- `_backend_name` -/
def backendName (cluster : String) : M String := do
  match resolve (← lift (← perform Act.loadGateway)) cluster with
  | some name => pure name
  | none => throw (.upstreamUnavailable ("No Gateway backend is matched to cluster " ++ cluster ++
      ". TMS will not guess which backend to deactivate."))

/-- `_set_gateway_active` -/
def setGatewayActive (cluster : String) (active : Bool) : M Unit :=
  if cfg.gateway = false then
    throw (.upstreamUnavailable ("The Gateway integration is off, so TMS cannot stop traffic to this cluster. A " ++
      "restart without stopping intake would kill running queries."))
  else do
    lift (← perform (Act.setActive (← backendName cluster) active))

end Helpers

/-! ## Read side -/

/-- the payload of an answer, less the executor's description -/
structure View where
  stored : StoredSequence
  steps : List (State × String × RestartSequence.StepStatus)
  automated : Bool
  executorState : Option ExecState
  durationMs : Option ℚ

/-- `_elapsed_ms`: to now while it is still running -/
def elapsedMs (startedAt finishedAt : Option ℚ) (now : ℚ) : Option ℚ :=
  startedAt.map fun start => max 0 ((finishedAt.getD now - start) * 1000)

/-- what a poll could notice changing -/
def fingerprint (stored : StoredSequence) : State × Option ℤ × Option String × ℕ :=
  (stored.sequence.state, stored.sequence.runningQueries, stored.sequence.healthState, stored.sequence.history.length)

section Operations

variable (cfg : Config) (principal : Principal)

/-- `_payload` -/
def view (stored : StoredSequence) : M View := do
  let executorState ←
    if stored.sequence.state = .restarting ∧ cfg.automated = true then do
      let state ← perform (Act.execStatus stored.sequence.cluster stored.id)
      pure (some state)
    else pure none
  let now ← perform Act.now
  pure ⟨stored, stored.sequence.steps, cfg.automated, executorState,
    elapsedMs stored.startedAt stored.finishedAt now⟩

def get (id : ℕ) : M View := do
  view cfg (← observe cfg (← loadOr404 id))

/-! ## Write side -/

def couldNotStop (e : Exn) : String := "Could not stop traffic: " ++ e.text

/-- step 1: stop new queries reaching the cluster -/
def start (cluster reason : String) : M View := do
  requireAdmin principal
  clusterOr404 cfg cluster
  if h : blank reason = false then
    tryCatch (do lift (← perform (Act.preflight cluster))) fun e => throw (.invalidRequest e.text)
    let sequence := RestartSequence.initial cluster (Reason.ofString reason h) principal.username
    let stored ← tryCatch (create principal sequence) fun e =>
      match e with
      | .activeSequenceExists m => throw (.invalidRequest m)
      | .sequenceUnavailable m =>
        throw (.upstreamUnavailable ("Cannot record the restart, so TMS will not start one: " ++ m))
      | e => throw e
    tryCatch (audited principal cluster reason (setGatewayActive cfg cluster false)) fun e => do
      -- the source's comment: traffic was never stopped, so there is nothing to restore
      let stored ← invoke stored fun s t => s.log t (couldNotStop e) levelError
      let stored ← invoke stored fun s t => s.beginAbort t "Nothing was changed."
      let stored ← invoke stored fun s t => s.finishAbort t
      let _ ← save stored none
      throw e
    let stored ← invoke stored fun s t => s.begin t
    let stored ← observe cfg stored
    let stored ← save stored none
    get cfg stored.id
  else throw (.invalidRequest "A reason is required to restart a cluster.")

/-- re-observe and drive the live view; written only if something changed -/
def refresh (id : ℕ) : M View := do
  let stored ← loadOr404 id
  let before := fingerprint stored
  let stored ← observe cfg stored
  let stored ← pollExecutor cfg stored
  let stored ← if fingerprint stored ≠ before then save stored none else pure stored
  view cfg stored

def forceDrain (id : ℕ) (overrideReason : String) : M View := do
  requireAdmin principal
  let stored ← loadOr404 id
  let stored ← observe cfg stored
  let stored ← invokeOrRefuse stored fun s t => s.forceDrained t overrideReason
  let _ ← audited principal stored.sequence.cluster overrideReason (save stored (some overrideReason))
  get cfg id

def pendingOperatorNote (cluster : String) : String :=
  "TMS is NOT restarting " ++ cluster ++ " — restart it yourself now, then confirm below. Nothing is happening " ++
    "automatically."

/-- step 4: only reachable once the cluster is empty -/
def restart (id : ℕ) : M View := do
  requireAdmin principal
  let stored ← loadOr404 id
  let stored ← observe cfg stored
  let stored ← invokeOrRefuse stored fun s t => s.confirmDrained t
  let stored ← invokeOrRefuse stored fun s t => s.markRestarting t
  let state ← audited principal stored.sequence.cluster stored.sequence.reason.text do
    lift (← perform (Act.execStart stored.sequence.cluster stored.id))
  let stored ←
    if state = .pendingOperator then invoke stored fun s t => s.log t (pendingOperatorNote s.cluster) levelWarn
    else invoke stored fun s t => s.log t "Running the restart playbook." levelInfo
  let _ ← save stored none
  get cfg id

def markRestarted (id : ℕ) : M View := do
  requireAdmin principal
  let stored ← loadOr404 id
  let stored ← invokeOrRefuse stored fun s t => s.markRestarted t
  let stored ← observe cfg stored
  let _ ← save stored none
  get cfg id

/-- steps 5 and 6: health first, then traffic -/
def complete (id : ℕ) : M View := do
  requireAdmin principal
  let stored ← loadOr404 id
  let stored ← observe cfg stored
  match ← attempt stored fun s t => s.confirmHealthy t with
  | (stored, .error (.stepBlocked m)) =>
    let _ ← save stored none
    throw (.invalidRequest m)
  | (_, .error e) => throw (.invalidRequest (Exn.sequence e).text)
  | (stored, .ok ()) =>
    audited principal stored.sequence.cluster stored.sequence.reason.text
      (setGatewayActive cfg stored.sequence.cluster true)
    let stored ← invoke stored fun s t => s.complete t
    let _ ← save stored none
    get cfg id

def couldNotRestore (cluster : String) (e : Exn) : String :=
  "Could not restore traffic: " ++ e.text ++ ". " ++ cluster ++ " is still receiving no queries - reactivate it in the " ++
    "Gateway."

/-- abort restores traffic: it is not "stop", it is "put it back" -/
def abort (id : ℕ) (note : String) : M View := do
  requireAdmin principal
  let stored ← loadOr404 id
  let stored ← invokeOrRefuse stored fun s t => s.beginAbort t note
  let stored ← save stored none
  tryCatch
    (audited principal stored.sequence.cluster (if note ≠ "" then note else stored.sequence.reason.text)
      (setGatewayActive cfg stored.sequence.cluster true)) fun e => do
      -- the sequence stays in ABORTING: it is still holding traffic back
      let message := couldNotRestore stored.sequence.cluster e
      let stored ← invoke stored fun s t => s.log t message levelError
      let _ ← save stored none
      throw (.upstreamUnavailable message)
  let stored ← invoke stored fun s t => s.finishAbort t
  let _ ← save stored none
  get cfg id

end Operations

/-! ## Requests -/

/-- a request to the service -/
inductive Op where
  | start (principal : Principal) (cluster reason : String)
  | refresh (id : ℕ)
  | forceDrain (principal : Principal) (id : ℕ) (overrideReason : String)
  | restart (principal : Principal) (id : ℕ)
  | markRestarted (principal : Principal) (id : ℕ)
  | complete (principal : Principal) (id : ℕ)
  | abort (principal : Principal) (id : ℕ) (note : String)
deriving DecidableEq, Repr

def Op.prog (cfg : Config) : Op → M View
  | .start p cluster reason => Service.start cfg p cluster reason
  | .refresh id => Service.refresh cfg id
  | .forceDrain p id reason => Service.forceDrain cfg p id reason
  | .restart p id => Service.restart cfg p id
  | .markRestarted p id => Service.markRestarted cfg p id
  | .complete p id => Service.complete cfg p id
  | .abort p id note => Service.abort cfg p id note

/-- the role check lets the request past; a refresh has none -/
def Op.admitted : Op → Bool
  | .refresh _ => true
  | .start p .. | .forceDrain p .. | .restart p _ | .markRestarted p _ | .complete p _ | .abort p .. => p.can manageHealth

/-- a request that the role check refuses does nothing -/
theorem prog_refused {cfg : Config} {op : Op} (h : op.admitted = false) :
    op.prog cfg = throw (.forbidden "You do not have permission to restart a cluster.") := by
  cases op with
  | refresh id => cases h
  | start p cluster reason => exact requireAdmin_refused h _
  | forceDrain p id reason => exact requireAdmin_refused h _
  | restart p id => exact requireAdmin_refused h _
  | markRestarted p id => exact requireAdmin_refused h _
  | complete p id => exact requireAdmin_refused h _
  | abort p id note => exact requireAdmin_refused h _

end TrinoManagement.Service
