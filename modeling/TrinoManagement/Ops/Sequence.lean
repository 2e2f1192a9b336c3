/-
The safe restart sequence, `tms/ops/sequence.py`: one restart of one cluster as a state machine that holds no clients
and does no I/O. Callers feed it observations and it decides what may happen next.

An operation takes the sequence and the clock reading its log line gets, and returns the sequence together with the
exception it raised, if any: what was assigned before the exception stays assigned, so error atomicity is something to
prove (`Ops.SequenceOrder`), not something the model assumes.

`drain_timeout_seconds` is not modelled: no method reads it.
-/
import Mathlib.Tactic
import TrinoManagement.Core.Text

namespace TrinoManagement.Sequence

open TrinoManagement.Text

/-! ## States -/

inductive State where
  | pending | draining | drained | restarting | verifying | completed | aborting | aborted
deriving DecidableEq, Repr

/-- the stored spelling -/
def State.name : State → String
  | .pending => "PENDING"
  | .draining => "DRAINING"
  | .drained => "DRAINED"
  | .restarting => "RESTARTING"
  | .verifying => "VERIFYING"
  | .completed => "COMPLETED"
  | .aborting => "ABORTING"
  | .aborted => "ABORTED"

def terminal : List State := [.completed, .aborted]

/-- states in which the cluster is deactivated and therefore taking no traffic -/
def trafficStopped : List State := [.draining, .drained, .restarting, .verifying, .aborting]

def stepOrder : List State := [.pending, .draining, .drained, .restarting, .verifying, .completed]

def levelInfo : String := "info"
def levelWarn : String := "warn"
def levelError : String := "error"
def levelOutput : String := "output"
def allowedLevels : List String := [levelInfo, levelWarn, levelError, levelOutput]

/-- the action taken to leave the state; the states off the checklist have none -/
def checklistLabels : State → String
  | .pending => "Stop new queries reaching it, in the Gateway"
  | .draining => "Wait for every running query to finish"
  | .drained => "Confirm the cluster is empty"
  | .restarting => "Restart it"
  | .verifying => "Verify health is GOOD"
  | .completed => "Put it back in rotation"
  | .aborting => ""
  | .aborted => ""

/-! ## The record -/

/-- one line of the progress log -/
structure Entry where
  at_ : ℚ
  state : State
  level : String
  message : String
deriving DecidableEq, Repr

/-- what a method may raise; `StepBlocked` is a subclass of `SequenceError` -/
inductive Raised where
  | sequenceError (message : String)
  | stepBlocked (message : String)
  | typeError
deriving DecidableEq, Repr

structure RestartSequence where
  cluster : String
  reason : Reason
  actor : String
  state : State
  history : List Entry
  runningQueries : Option ℤ
  healthState : Option String
  /-- tri-state: `none` means TMS has not been told, which is not the same as fine -/
  configStoreReady : Option Bool
  configStoreDetail : String
deriving DecidableEq, Repr

/-- the sequence after a call, and the exception if one was raised -/
abbrev Outcome := RestartSequence × Except Raised Unit

def blankReasonMessage : String := "a reason is required to restart a cluster"

/-- a sequence at its start -/
def RestartSequence.initial (cluster : String) (reason : Reason) (actor : String) : RestartSequence :=
  ⟨cluster, reason, actor, .pending, [], none, none, none, ""⟩

/-- `RestartSequence.__init__` -/
def RestartSequence.new (cluster reason actor : String) : Except Raised RestartSequence :=
  if h : blank reason = false then .ok (.initial cluster (Reason.ofString reason h) actor)
  else .error (.sequenceError blankReasonMessage)

/-- the wording that depends on whether one query is meant -/
def plural (n : ℤ) (one many : String) : String := if n = 1 then one else many

namespace RestartSequence

variable (s : RestartSequence) (now : ℚ)

/-! ## Helpers -/

/-- the line `log` appends once the level is accepted -/
def append (message level : String) : RestartSequence :=
  { s with history := s.history ++ [⟨now, s.state, level, message⟩] }

def log (message level : String) : Outcome :=
  if level ∈ allowedLevels then (s.append now message level, .ok ())
  else (s, .error (.sequenceError ("unknown log level: '" ++ level ++ "'")))

/-- `_record` -/
def record (step : State) (note : String) : Outcome :=
  if note ≠ "" then { s with state := step }.log now note levelInfo else ({ s with state := step }, .ok ())

/-- `history[-1]["level"] = level` -/
def relevelLast (level : String) : RestartSequence :=
  { s with history := s.history.modifyLast fun e => { e with level := level } }

/-- the exception of `_require` -/
def cannot (allowed : List State) : Outcome :=
  (s, .error (.sequenceError ("cannot do that from " ++ s.state.name ++ " (expected " ++
    String.intercalate " or " (allowed.map State.name) ++ ")")))

def isTerminal : Bool := decide (s.state ∈ terminal)

theorem log_of_allowed {level : String} (message : String) (h : level ∈ allowedLevels) :
    s.log now message level = (s.append now message level, .ok ()) := if_pos h

@[simp] theorem log_info (message : String) :
    s.log now message levelInfo = (s.append now message levelInfo, .ok ()) := if_pos (by decide)

@[simp] theorem log_warn (message : String) :
    s.log now message levelWarn = (s.append now message levelWarn, .ok ()) := if_pos (by decide)

/-- `_record` never raises: it sets the state and adds at most its own note -/
theorem record_eq (step : State) (note : String) : s.record now step note =
    ({ s with state := step, history := s.history ++ if note ≠ "" then [⟨now, step, levelInfo, note⟩] else [] },
      .ok ()) := by
  unfold record
  split_ifs <;> simp [append]

/-! ## Transitions -/

/-- step 1: the cluster has been deactivated in the Gateway -/
def begin : Outcome :=
  if s.state ∉ [State.pending] then s.cannot [.pending] else
  s.record now .draining ("Blocking new queries to " ++ s.cluster ++ " in the Gateway.")

/-- feed in what the collector currently sees; a count of `none` cannot be compared with 0 -/
def observe (running : Option ℤ) (health : Option String) : Outcome :=
  let previous := s.runningQueries
  let s := { s with runningQueries := running, healthState := health.orElse fun _ => s.healthState }
  if s.state = .draining ∧ running = some 0 then
    s.record now .drained ("All running queries have finished. " ++ s.cluster ++ " is empty.")
  else if s.state = .draining then
    match running with
    | none => (s, .error .typeError)
    | some n =>
      -- progress, not a state change, and only when the count changed
      if n > 0 ∧ running ≠ previous then
        s.log now ("Waiting for " ++ toString n ++ " running quer" ++ plural n "y" "ies" ++
          " to finish.") levelInfo
      else (s, .ok ())
  else (s, .ok ())

/-- feed in whether Trino's resource group store can serve this cluster -/
def observeConfigStore (ready : Option Bool) (detail : String) : Outcome :=
  let previous := s.configStoreReady
  let s := { s with configStoreReady := ready, configStoreDetail := detail }
  if detail ≠ "" ∧ ready ≠ none ∧ ready ≠ previous then
    s.log now detail (if ready = some false then levelWarn else levelInfo)
  else (s, .ok ())

/-- step 2/3: intake stopped and the cluster is empty -/
def confirmDrained : Outcome :=
  if s.state ∉ [State.draining, State.drained] then s.cannot [.draining, .drained] else
  match s.runningQueries with
  | none => (s, .error (.stepBlocked "no observation yet - TMS has not seen this cluster's query count"))
  | some n =>
    if n > 0 then
      (s, .error (.stepBlocked (toString n ++ " quer" ++ plural n "y is" "ies are" ++
        " still running. Restarting now would kill " ++ plural n "it" "them" ++ ".")))
    else s.record now .drained ("Confirmed: no queries are running on " ++ s.cluster ++ ".")

/-- proceed with queries still running -/
def forceDrained (overrideReason : String) : Outcome :=
  if s.state ∉ [State.draining, State.drained] then s.cannot [.draining, .drained] else
  if blank overrideReason then
    (s, .error (.sequenceError "forcing past a non-empty cluster requires its own reason"))
  else
    let killed := s.runningQueries.getD 0
    let r := s.record now .drained ("FORCED past the drain with " ++ toString killed ++ " quer" ++
      plural killed "y" "ies" ++ " still running. They will be killed by the restart. Reason: " ++
      strip overrideReason)
    match r.2 with
    | .ok () => (r.1.relevelLast levelWarn, .ok ())
    | .error e => (r.1, .error e)

/-- `config_store_detail`, or the fallback when the probe gave none -/
def storeAdvice : String :=
  if s.configStoreDetail ≠ "" then s.configStoreDetail else "Trino's resource group store is not usable."

/-- step 4 begins; blocked when the resource group store cannot serve this cluster -/
def markRestarting : Outcome :=
  if s.state ∉ [State.drained] then s.cannot [.drained] else
  if s.configStoreReady = some false then
    (s, .error (.stepBlocked (s.cluster ++ " would not start again: " ++ s.storeAdvice)))
  else s.record now .restarting ("Bringing " ++ s.cluster ++ " down and back up.")

def markRestarted : Outcome :=
  if s.state ∉ [State.restarting] then s.cannot [.restarting] else
  s.record now .verifying (s.cluster ++ " restarted. Checking health before restoring traffic.")

/-- `health_state or "unknown"` -/
def healthText : String :=
  match s.healthState with
  | some h => if h ≠ "" then h else "unknown"
  | none => "unknown"

/-- step 5: health must be good before traffic returns -/
def confirmHealthy : Outcome :=
  if s.state ∉ [State.verifying] then s.cannot [.verifying] else
  if s.healthState ≠ some "GOOD" then
    (s, .error (.stepBlocked ("health is " ++ s.healthText ++
      " - traffic is not restored until it is GOOD")))
  else s.log now "Health is GOOD." levelInfo

/-- step 6: the cluster has been reactivated in the Gateway -/
def complete : Outcome :=
  if s.state ∉ [State.verifying] then s.cannot [.verifying] else
  if s.healthState ≠ some "GOOD" then
    (s, .error (.stepBlocked ("refusing to restore traffic while health is " ++ s.healthText)))
  else s.record now .completed (s.cluster ++ " is back in rotation. Traffic restored.")

/-- `note or "Aborting. ..."` -/
def abortNote (note : String) : String :=
  if note ≠ "" then note else "Aborting. Restoring traffic to " ++ s.cluster ++ " before stopping."

def beginAbort (note : String) : Outcome :=
  if s.isTerminal then (s, .error (.sequenceError "this sequence has already finished")) else
  let r := s.record now .aborting (s.abortNote note)
  match r.2 with
  | .ok () => (r.1.relevelLast levelWarn, .ok ())
  | .error e => (r.1, .error e)

/-- only reached once the cluster is active again -/
def finishAbort : Outcome :=
  if s.state ∉ [State.aborting] then s.cannot [.aborting] else
  s.record now .aborted ("Aborted. " ++ s.cluster ++ " is back in rotation.")

/-! ## What a call does: refused, or past its guard

A refused call leaves the whole record as it was; the exception is `observe` with a count it cannot compare. -/

section Cases

variable {s now}

theorem begin_cases : (∃ e, s.begin now = (s, .error e)) ∨
    (s.state = .pending ∧ ∃ h, s.begin now = ({ s with state := .draining, history := h }, .ok ())) := by
  unfold begin
  split_ifs with h
  · exact .inr ⟨by simpa using h, _, record_eq ..⟩
  · exact .inl ⟨_, rfl⟩

theorem confirmDrained_cases : (∃ e, s.confirmDrained now = (s, .error e)) ∨
    (s.state ∈ [State.draining, .drained] ∧ (∃ n ≤ 0, s.runningQueries = some n) ∧
      ∃ h, s.confirmDrained now = ({ s with state := .drained, history := h }, .ok ())) := by
  unfold confirmDrained
  split_ifs with h
  · split
    · exact .inl ⟨_, rfl⟩
    · rename_i n hn
      split_ifs with h0
      · exact .inl ⟨_, rfl⟩
      · exact .inr ⟨h, ⟨n, by omega, hn⟩, _, record_eq ..⟩
  · exact .inl ⟨_, rfl⟩

theorem forceDrained_cases {reason : String} : (∃ e, s.forceDrained now reason = (s, .error e)) ∨
    (s.state ∈ [State.draining, .drained] ∧ blank reason = false ∧
      ∃ h, s.forceDrained now reason = ({ s with state := .drained, history := h }, .ok ())) := by
  unfold forceDrained
  split_ifs with h hb
  · exact .inl ⟨_, rfl⟩
  · exact .inr ⟨h, by simpa using hb, _, by simp only [record_eq]; rfl⟩
  · exact .inl ⟨_, rfl⟩

theorem markRestarting_cases : (∃ e, s.markRestarting now = (s, .error e)) ∨
    (s.state = .drained ∧ s.configStoreReady ≠ some false ∧
      ∃ h, s.markRestarting now = ({ s with state := .restarting, history := h }, .ok ())) := by
  unfold markRestarting
  split_ifs with h hr
  · exact .inl ⟨_, rfl⟩
  · exact .inr ⟨by simpa using h, hr, _, record_eq ..⟩
  · exact .inl ⟨_, rfl⟩

theorem markRestarted_cases : (∃ e, s.markRestarted now = (s, .error e)) ∨
    (s.state = .restarting ∧ ∃ h, s.markRestarted now = ({ s with state := .verifying, history := h }, .ok ())) := by
  unfold markRestarted
  split_ifs with h
  · exact .inr ⟨by simpa using h, _, record_eq ..⟩
  · exact .inl ⟨_, rfl⟩

theorem confirmHealthy_cases : (∃ e, s.confirmHealthy now = (s, .error e)) ∨
    (s.state = .verifying ∧ s.healthState = some "GOOD" ∧
      ∃ h, s.confirmHealthy now = ({ s with history := h }, .ok ())) := by
  unfold confirmHealthy
  split_ifs with h hg
  · exact .inl ⟨_, rfl⟩
  · exact .inr ⟨by simpa using h, not_not.1 hg, _, log_info ..⟩
  · exact .inl ⟨_, rfl⟩

theorem complete_cases : (∃ e, s.complete now = (s, .error e)) ∨
    (s.state = .verifying ∧ s.healthState = some "GOOD" ∧
      ∃ h, s.complete now = ({ s with state := .completed, history := h }, .ok ())) := by
  unfold complete
  split_ifs with h hg
  · exact .inl ⟨_, rfl⟩
  · exact .inr ⟨by simpa using h, not_not.1 hg, _, record_eq ..⟩
  · exact .inl ⟨_, rfl⟩

theorem beginAbort_cases {note : String} : (∃ e, s.beginAbort now note = (s, .error e)) ∨
    (s.state ∉ terminal ∧ ∃ h, s.beginAbort now note = ({ s with state := .aborting, history := h }, .ok ())) := by
  unfold beginAbort
  split_ifs with h
  · exact .inl ⟨_, rfl⟩
  · exact .inr ⟨by simpa [isTerminal] using h, _, by simp only [record_eq]; rfl⟩

theorem finishAbort_cases : (∃ e, s.finishAbort now = (s, .error e)) ∨
    (s.state = .aborting ∧ ∃ h, s.finishAbort now = ({ s with state := .aborted, history := h }, .ok ())) := by
  unfold finishAbort
  split_ifs with h
  · exact .inr ⟨by simpa using h, _, record_eq ..⟩
  · exact .inl ⟨_, rfl⟩

theorem complete_ok (hs : s.state = .verifying) (hg : s.healthState = some "GOOD") :
    ∃ h, s.complete now = ({ s with state := .completed, history := h }, .ok ()) :=
  ⟨_, by simp only [complete, hs, hg, record_eq]; rfl⟩

theorem finishAbort_ok (hs : s.state = .aborting) :
    ∃ h, s.finishAbort now = ({ s with state := .aborted, history := h }, .ok ()) :=
  ⟨_, by simp only [finishAbort, hs, record_eq]; rfl⟩

theorem beginAbort_ok {note : String} (hs : s.state ∉ terminal) :
    ∃ h, s.beginAbort now note = ({ s with state := .aborting, history := h }, .ok ()) := by
  rcases @beginAbort_cases s now note with ⟨e, he⟩ | ⟨-, h, he⟩
  · simp [beginAbort, isTerminal, hs, record_eq] at he
  · exact ⟨h, he⟩

theorem confirmDrained_ok (hs : s.state ∈ [State.draining, .drained]) {n : ℤ} (hr : s.runningQueries = some n)
    (hn : n ≤ 0) : ∃ h, s.confirmDrained now = ({ s with state := .drained, history := h }, .ok ()) := by
  rcases @confirmDrained_cases s now with ⟨e, he⟩ | ⟨-, -, h, he⟩
  · simp [confirmDrained, hs, hr, not_lt.2 hn, record_eq] at he
  · exact ⟨h, he⟩

theorem markRestarting_ok (hs : s.state = .drained) (hr : s.configStoreReady ≠ some false) :
    ∃ h, s.markRestarting now = ({ s with state := .restarting, history := h }, .ok ()) := by
  rcases @markRestarting_cases s now with ⟨e, he⟩ | ⟨-, -, h, he⟩
  · simp [markRestarting, hs, hr, record_eq] at he
  · exact ⟨h, he⟩

/-- `log` changes nothing but the history -/
theorem log_cases {message level : String} : (∃ e, s.log now message level = (s, .error e)) ∨
    ∃ h, s.log now message level = ({ s with history := h }, .ok ()) := by
  unfold log
  split_ifs
  · exact .inr ⟨_, rfl⟩
  · exact .inl ⟨_, rfl⟩

/-- the state an observation leads to: an empty cluster ends the drain -/
def drainedBy (running : Option ℤ) : State → State
  | .draining => if running = some 0 then .drained else .draining
  | st => st

/-- an observation always takes effect; only a count that cannot be compared with 0 raises, and then logs nothing -/
theorem observe_cases {running : Option ℤ} {health : Option String} :
    ∃ h r, s.observe now running health =
      ({ s with state := drainedBy running s.state, history := h, runningQueries := running,
                healthState := health.orElse fun _ => s.healthState }, r) ∧
      (r = .ok () ∨ (running = none ∧ s.state = .draining ∧ h = s.history)) := by
  unfold observe
  dsimp only
  split_ifs with h1 h2
  · exact ⟨_, _, by rw [record_eq]; simp [drainedBy, h1.1, h1.2]; rfl, .inl rfl⟩
  · have hr : running ≠ some 0 := fun hr => h1 ⟨h2, hr⟩
    split
    · exact ⟨s.history, .error .typeError, by simp [drainedBy, h2], .inr ⟨rfl, h2, rfl⟩⟩
    · split_ifs
      · exact ⟨_, .ok (), by simp only [log_info, append, drainedBy, h2, if_neg hr]; rfl, .inl rfl⟩
      · exact ⟨s.history, .ok (), by simp only [drainedBy, h2, if_neg hr], .inl rfl⟩
  · have stays : drainedBy running s.state = s.state := by
      cases hs : s.state <;> simp_all [drainedBy]
    exact ⟨s.history, .ok (), by rw [stays], .inl rfl⟩

theorem observeConfigStore_cases {ready : Option Bool} {detail : String} :
    ∃ h, s.observeConfigStore now ready detail =
      ({ s with history := h, configStoreReady := ready, configStoreDetail := detail }, .ok ()) := by
  unfold observeConfigStore
  dsimp only
  split_ifs <;> exact ⟨_, by simp [append]; rfl⟩

end Cases

/-! ## View -/

inductive StepStatus where
  | done | current | pending | aborted
deriving DecidableEq, Repr

/-- the checklist rows: state, label, status -/
def steps : List (State × String × StepStatus) :=
  let current := stepOrder.findIdx? (· == s.state)
  stepOrder.mapIdx fun index step =>
    (step, checklistLabels step,
      if s.state ∈ [State.aborting, State.aborted] then .aborted
      else if s.state = .completed then .done
      else match current with
        | none => .pending
        | some c => if index < c then .done else if index = c then .current else .pending)

end RestartSequence

/-- a reason as an operator gives it -/
def Sample.upgrade : Text.Reason := ⟨"upgrade", by decide, by decide⟩

end TrinoManagement.Sequence
