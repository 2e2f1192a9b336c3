/-
Polling one coordinator, `tms/collector/poller.py`: four polls, each due on its own schedule, and the tick that runs the
due ones and stores what they found.

A failed request becomes a snapshot with a collection error. An answer of an unexpected shape may raise instead; the
polls before it stay stored, and the ones after it wait for the next tick.

- `summarise_state`: a row keeps the state it was given.
- `pollQueries_answered`: the inversion lemma of the queries poll: its counts, and whether its snapshot is to be trusted.
- `serveAll_inv`: what every due poll preserves, the whole tick does.
- `tick_queries`: the one query poll of a tick, and what it compared its list with.
-/
import Mathlib.Tactic
import TrinoManagement.Collector.Snapshot
import TrinoManagement.Collector.Units

namespace TrinoManagement.Collector

/-! ## The client -/

/-- a `TrinoClientError`: its class, text and remedy -/
structure ClientError where
  className : String
  message : String
  advice : String
deriving DecidableEq, Repr

/-- `"{}: {}".format(type(exc).__name__, exc)` -/
def ClientError.text (e : ClientError) : String := e.className ++ ": " ++ e.message

/-- `error.advice or None` -/
def ClientError.adviceOrNone (e : ClientError) : Option String := if e.advice ≠ "" then some e.advice else none

/-- the states `list_queries` asks for -/
def liveStates : List String :=
  ["QUEUED", "WAITING_FOR_RESOURCES", "DISPATCHING", "PLANNING", "STARTING", "RUNNING", "FINISHING"]

/-- the entries of a `/v1/query` answer that are dicts, and the answer's size -/
structure QueryListResult where
  queries : List Value
  responseBytes : ℕ
deriving DecidableEq

/-- what `collect_resource_groups` found -/
structure Collection where
  groups : List Value
  payload : Value
  error : Option String
  advice : Option String
deriving DecidableEq

/-! ## The poller -/

inductive SnapshotKind where
  | queries | jmx | info | resourceGroups
deriving DecidableEq, Repr

/-- what `ClusterPoller.__init__` is given, less its client, store and clocks -/
structure PollerConfig where
  clusterName : String
  baseQueryInterval : ℚ
  jmxInterval : ℚ
  infoInterval : ℚ
  queryTextMaxBytes : ℤ
  longRunningSeconds : ℚ
  responseBackoffBytes : ℤ
  responseBackoffInterval : ℚ
  jmxCrossCheckMaxAge : Option ℚ
  h09ConfirmPolls : ℤ
  resourceGroupInterval : Option ℚ
  /-- Python's `str` of a value that is not a string -/
  str : Value → String

structure Poller where
  /-- `_suspicious_polls` -/
  suspiciousPolls : ℕ
  queryInterval : ℚ
  nextDue : SnapshotKind → Option ℚ
  lastSuccess : SnapshotKind → Option ℚ

namespace PollerConfig

variable (cfg : PollerConfig)

/-- `jmx_cross_check_max_age` -/
def crossCheckMaxAge : ℚ := cfg.jmxCrossCheckMaxAge.getD (max cfg.baseQueryInterval 1)

/-- consecutive suspicious polls required before H-09 is believed -/
def confirmPolls : ℕ := (max 1 cfg.h09ConfirmPolls).toNat

/-- the poller as `__init__` leaves it; without an interval the resource groups are never due -/
def init : Poller where
  suspiciousPolls := 0
  queryInterval := cfg.baseQueryInterval
  nextDue
    | .resourceGroups => if cfg.resourceGroupInterval.getD 0 ≠ 0 then some 0 else none
    | _ => some 0
  lastSuccess _ := none

end PollerConfig

namespace Poller

variable (p : Poller)

/-- JMX comes before queries, so that the cross-check compares readings one round trip apart -/
def pollOrder : List SnapshotKind := [.jmx, .queries, .info, .resourceGroups]

def isDue (now : ℚ) (kind : SnapshotKind) : Bool :=
  match p.nextDue kind with
  | some due => decide (due ≤ now)
  | none => false

def dueKinds (now : ℚ) : List SnapshotKind := pollOrder.filter (p.isDue now)

def interval (cfg : PollerConfig) : SnapshotKind → ℚ
  | .queries => p.queryInterval
  | .jmx => cfg.jmxInterval
  | .info => cfg.infoInterval
  | .resourceGroups => cfg.resourceGroupInterval.getD 0

def reschedule (cfg : PollerConfig) (kind : SnapshotKind) (now : ℚ) : Poller :=
  { p with nextDue := Function.update p.nextDue kind (some (now + p.interval cfg kind)) }

/-- `self.last_success[kind] = self._clock()` -/
def succeed (kind : SnapshotKind) (now : ℚ) : Poller :=
  { p with lastSuccess := Function.update p.lastSuccess kind (some now) }

/-- back off when responses get large; recover only well below the trigger -/
def adaptInterval (cfg : PollerConfig) (responseBytes : ℕ) : Poller :=
  if cfg.responseBackoffBytes ≤ responseBytes then { p with queryInterval := cfg.responseBackoffInterval }
  else if (responseBytes : ℤ) < cfg.responseBackoffBytes / 2 then { p with queryInterval := cfg.baseQueryInterval }
  else p

@[simp] theorem suspiciousPolls_reschedule (cfg : PollerConfig) (kind : SnapshotKind) (now : ℚ) :
    (p.reschedule cfg kind now).suspiciousPolls = p.suspiciousPolls := rfl

@[simp] theorem suspiciousPolls_succeed (kind : SnapshotKind) (now : ℚ) :
    (p.succeed kind now).suspiciousPolls = p.suspiciousPolls := rfl

@[simp] theorem suspiciousPolls_adaptInterval (cfg : PollerConfig) (responseBytes : ℕ) :
    (p.adaptInterval cfg responseBytes).suspiciousPolls = p.suspiciousPolls := by
  unfold adaptInterval
  split_ifs <;> rfl

end Poller

/-! ## Summaries -/

/-- `RUNNING_STATES` -/
def runningStates : List String := ["RUNNING", "FINISHING"]

/-- `QUEUED_STATES` -/
def queuedStates : List String := ["QUEUED", "WAITING_FOR_RESOURCES"]

/-- `q["state"] in states` -/
def stateIn (states : List String) : Value → Bool
  | .str s => decide (s ∈ states)
  | _ => false

/-- `str(query_text)` for `query_text = raw.get("query") or ""` -/
def queryText (cfg : PollerConfig) (raw : Value) : String :=
  match raw.get "query" with
  | .str s => s
  | v => if v.truthy then cfg.str v else ""

/-- one BasicQueryInfo, reduced; `queryStats` and `session` must be dicts if they are there -/
def summariseQuery (cfg : PollerConfig) (raw : Value) : Except PyError QueryRow := do
  let stats := (raw.get "queryStats").orEmptyDict
  let session := (raw.get "session").orEmptyDict
  let elapsedMs ← parseDurationMs (← stats.callGet "elapsedTime")
  let preview := truncateUtf8 (queryText cfg raw) cfg.queryTextMaxBytes
  let resourceGroup := match raw.get "resourceGroupId" with
    | .list items => some items
    | _ => none
  let user ← session.callGet "user"
  let source ← session.callGet "source"
  let queuedMs ← parseDurationMs (← stats.callGet "queuedTime")
  let totalCpuMs ← parseDurationMs (← stats.callGet "totalCpuTime")
  let peakUserMemoryBytes ← parseDataSizeBytes (← stats.callGet "peakUserMemoryReservation")
  let physicalInputBytes ← parseDataSizeBytes (← stats.callGet "physicalInputDataSize")
  let progressPercentage ← stats.callGet "progressPercentage"
  let runningDrivers ← stats.callGet "runningDrivers"
  let queuedDrivers ← stats.callGet "queuedDrivers"
  let fullyBlocked ← stats.callGet "fullyBlocked"
  pure { queryId := raw.get "queryId", state := raw.get "state", user, source, resourceGroupId := resourceGroup
         elapsedMs, queuedMs, totalCpuMs, peakUserMemoryBytes, physicalInputBytes, progressPercentage, runningDrivers
         queuedDrivers, fullyBlocked, queryPreview := preview.1, queryTruncated := preview.2
         longRunning := match elapsedMs with
           | some ms => decide (cfg.longRunningSeconds * 1000 ≤ ms)
           | none => false }

def summary (rows : List QueryRow) : Summary where
  running := rows.countP fun q => stateIn runningStates q.state
  queued := rows.countP fun q => stateIn queuedStates q.state
  longRunning := rows.countP fun q => q.longRunning
  total := rows.length

/-! ### What a summary keeps -/

/-- whatever it returns is something `P` holds of -/
def Returns {α : Type} (P : α → Prop) (x : Except PyError α) : Prop := ∀ a, x = .ok a → P a

theorem returns_bind {α β : Type} {P : β → Prop} {x : Except PyError α} {f : α → Except PyError β}
    (h : ∀ a, x = .ok a → Returns P (f a)) : Returns P (x >>= f) := by
  intro b hb
  cases hx : x with
  | error e => rw [hx] at hb; cases hb
  | ok a => rw [hx] at hb; exact h a hx b hb

theorem returns_pure {α : Type} {P : α → Prop} {a : α} (h : P a) : Returns P (pure a) := by
  intro b hb
  cases hb
  exact h

/-- a row keeps the state it was given -/
theorem summarise_state (cfg : PollerConfig) (raw : Value) :
    Returns (fun row => row.state = raw.get "state") (summariseQuery cfg raw) := by
  unfold summariseQuery
  dsimp only
  repeat refine returns_bind fun _ _ => ?_
  exact returns_pure rfl

/-- one row an entry, in order -/
theorem summarise_all (cfg : PollerConfig) (raws : List Value) :
    Returns (fun rows => rows.map (·.state) = raws.map (·.get "state")) (raws.mapM (summariseQuery cfg)) := by
  induction raws with
  | nil => exact returns_pure rfl
  | cons raw raws ih =>
    rw [List.mapM_cons]
    refine returns_bind fun row hrow => returns_bind fun rows hrows => returns_pure ?_
    rw [List.map_cons, List.map_cons, summarise_state cfg raw row hrow, ih rows hrows]

/-- a query in a state the summary counts as running or queued -/
def counted (raw : Value) : Bool := stateIn runningStates (raw.get "state") || stateIn queuedStates (raw.get "state")

/-- running and queued are counted apart, so the sum is zero only if neither counts any -/
theorem counts_eq_zero {rows : List QueryRow} {raws : List Value}
    (h : rows.map (·.state) = raws.map (·.get "state")) :
    (summary rows).running + (summary rows).queued = 0 ↔ ∀ raw ∈ raws, counted raw = false := by
  have count : ∀ states, rows.countP (fun q => stateIn states q.state) =
      raws.countP fun raw => stateIn states (raw.get "state") := by
    intro states
    have := congrArg (List.countP (stateIn states)) h
    simpa [List.countP_map, Function.comp_def] using this
  simp only [summary, count, Nat.add_eq_zero_iff, List.countP_eq_zero, counted, Bool.or_eq_false_iff]
  constructor
  · intro ⟨hr, hq⟩ raw hraw
    exact ⟨by simpa using hr raw hraw, by simpa using hq raw hraw⟩
  · intro hall
    exact ⟨fun raw hraw => by simp [(hall raw hraw).1], fun raw hraw => by simp [(hall raw hraw).2]⟩

/-! ## Polls -/

/-- the clocks read while one kind is polled -/
structure PollClocks where
  /-- `utcnow()` for the snapshot -/
  collectedAt : ℚ
  /-- `_clock()` for `last_success` -/
  success : ℚ
  /-- `_clock()` in `_reschedule` -/
  rescheduled : ℚ
deriving DecidableEq, Repr

section Polls

variable (cfg : PollerConfig) (clocks : PollClocks) (p : Poller)

/-- `_failed_snapshot` -/
def failedSnapshot {π : Type} (payload : π) (e : ClientError) : Snapshot π :=
  ⟨cfg.clusterName, clocks.collectedAt, payload, some e.text, e.adviceOrNone⟩

def pollInfo (answer : Except ClientError Value) : InfoSnapshot × Poller :=
  match answer with
  | .error e => (failedSnapshot cfg clocks (.dict []) e, p)
  | .ok info => (⟨cfg.clusterName, clocks.collectedAt, .dict [("info", info)], none, none⟩, p.succeed .info clocks.success)

def queryManagerMbean : String := "trino.execution:name=QueryManager"

def jmxMbeans : List String :=
  ["trino.node:name=CoordinatorNodeManager", "java.lang:type=Memory", queryManagerMbean,
    "trino.memory:name=ClusterMemoryManager"]

/-- what a JMX poll has read so far -/
structure MbeanReads where
  mbeans : List (String × Value)
  errors : List (String × Value)
  advice : Option String

/-- a missing MBean is recorded and does not fail the others -/
def MbeanReads.read (r : MbeanReads) (objectName : String) : Except ClientError Value → MbeanReads
  | .ok attributes => { r with mbeans := r.mbeans ++ [(objectName, attributes)] }
  | .error e =>
    { r with errors := r.errors ++ [(objectName, .str e.text)], advice := r.advice.orElse fun _ => e.adviceOrNone }

def readMbeans (answers : String → Except ClientError Value) : MbeanReads :=
  jmxMbeans.foldl (fun r name => r.read name (answers name)) ⟨[], [], none⟩

def pollJmx (answers : String → Except ClientError Value) : JmxSnapshot × Poller :=
  let r := readMbeans answers
  if r.mbeans = [] then
    (⟨cfg.clusterName, clocks.collectedAt, .dict [("errors", .dict r.errors)], some "all MBean reads failed", r.advice⟩, p)
  else
    (⟨cfg.clusterName, clocks.collectedAt, .dict [("mbeans", .dict r.mbeans), ("errors", .dict r.errors)],
      if r.errors ≠ [] then
        some (toString r.errors.length ++ " of " ++ toString jmxMbeans.length ++ " MBeans unavailable")
      else none,
      r.advice⟩, p.succeed .jmx clocks.success)

/-- the message of a confirmed H-09 -/
def filteredMessage (running : ℤ) : String :=
  "query list is empty but JMX reports " ++ toString running ++
    " running queries - the list is most likely being filtered by access control"

def filteredAdvice : String :=
  "Check the tms-svc account's queries: view grant in rules.json. With file access control a denied list arrives as " ++
    "an empty list, not a 403."

/-- the count an empty list is held against: what JMX reported, unless it is absent or zero -/
def suspicion (queries : List Value) (jmxRunningQueries : Option ℤ) : Option ℤ :=
  if queries = [] then jmxRunningQueries.filter (· ≠ 0) else none

/-- the poller's counter after an answer: one more in a row, or none -/
def suspect (queries : List Value) (jmxRunningQueries : Option ℤ) : ℕ :=
  if (suspicion queries jmxRunningQueries).isSome then p.suspiciousPolls + 1 else 0

/-- the count to report once the suspicion has persisted long enough -/
def confirmed (queries : List Value) (jmxRunningQueries : Option ℤ) : Option ℤ :=
  (suspicion queries jmxRunningQueries).filter fun _ => cfg.confirmPolls ≤ suspect p queries jmxRunningQueries

def pollQueries (jmxRunningQueries : Option ℤ) (answer : Except ClientError QueryListResult) :
    Except PyError (QueriesSnapshot × Poller) :=
  match answer with
  | .error e => .ok (⟨failedSnapshot cfg clocks none e, fun h => by cases h⟩, p)
  | .ok result => do
    let queries ← result.queries.mapM (summariseQuery cfg)
    let trouble := confirmed cfg p result.queries jmxRunningQueries
    let p := { p with suspiciousPolls := suspect p result.queries jmxRunningQueries }.adaptInterval cfg result.responseBytes
    pure (⟨⟨cfg.clusterName, clocks.collectedAt, some ⟨queries, summary queries, result.responseBytes, p.queryInterval⟩,
        trouble.map filteredMessage, trouble.map fun _ => filteredAdvice⟩, fun _ => rfl⟩,
      if trouble = none then p.succeed .queries clocks.success else p)

def pollResourceGroups (collection : Collection) : Snapshot Value × Poller :=
  (⟨cfg.clusterName, clocks.collectedAt, collection.payload, collection.error, collection.advice⟩,
    if collection.groups ≠ [] then p.succeed .resourceGroups clocks.success else p)

theorem suspiciousPolls_pollInfo (answer : Except ClientError Value) :
    (pollInfo cfg clocks p answer).2.suspiciousPolls = p.suspiciousPolls := by
  cases answer <;> rfl

theorem suspiciousPolls_pollJmx (answers : String → Except ClientError Value) :
    (pollJmx cfg clocks p answers).2.suspiciousPolls = p.suspiciousPolls := by
  unfold pollJmx
  dsimp only
  split_ifs <;> rfl

theorem suspiciousPolls_pollResourceGroups (collection : Collection) :
    (pollResourceGroups cfg clocks p collection).2.suspiciousPolls = p.suspiciousPolls := by
  unfold pollResourceGroups
  dsimp only
  split_ifs <;> rfl

variable {cfg clocks p}

/-- what an answer leaves: counts of its own rows, and an error only past a confirmed suspicion -/
structure Answered (cfg : PollerConfig) (p : Poller) (running : Option ℤ) (raws : List Value) (s : QueriesSnapshot)
    (p' : Poller) : Prop where
  cluster : s.cluster = cfg.clusterName
  trustworthy : s.trustworthy = (confirmed cfg p raws running).isNone
  live : s.live = 0 ↔ ∀ raw ∈ raws, counted raw = false
  suspiciousPolls : p'.suspiciousPolls = suspect p raws running

theorem pollQueries_answered {running : Option ℤ} {result : QueryListResult} {s : QueriesSnapshot} {p' : Poller}
    (h : pollQueries cfg clocks p running (.ok result) = .ok (s, p')) : Answered cfg p running result.queries s p' := by
  revert h
  suffices Returns (fun x => Answered cfg p running result.queries x.1 x.2)
      (pollQueries cfg clocks p running (.ok result)) from this (s, p')
  refine returns_bind fun rows hrows => returns_pure ?_
  have hstates := summarise_all cfg result.queries rows hrows
  refine ⟨rfl, ?_, counts_eq_zero hstates, ?_⟩
  · simp [Snapshot.trustworthy]
  · dsimp only
    split_ifs <;> simp

end Polls

/-- `_last_jmx_running_queries`: only a stored reading that is recent enough, and a number -/
def lastJmxRunningQueries (cfg : PollerConfig) (now : ℚ) (jmx : Option JmxSnapshot) : Option ℤ :=
  match jmx with
  | none => none
  | some s =>
    if s.isStale now cfg.crossCheckMaxAge then none
    else ((s.payload.getPath ["mbeans", queryManagerMbean, "RunningQueries"]).number).map truncate

/-! ## The tick -/

inductive Produced where
  | queries (s : QueriesSnapshot)
  | jmx (s : JmxSnapshot)
  | info (s : InfoSnapshot)
  | resourceGroups (s : Snapshot Value)
deriving DecidableEq

def Produced.kind : Produced → SnapshotKind
  | .queries _ => .queries
  | .jmx _ => .jmx
  | .info _ => .info
  | .resourceGroups _ => .resourceGroups

/-- the query lists among the snapshots of a tick -/
def queryLists (produced : List Produced) : List QueriesSnapshot :=
  produced.filterMap fun
    | .queries s => some s
    | _ => none

/-- what one tick meets: its clocks, the coordinator's answers, and the store -/
structure Round where
  /-- `_clock()` in `due_kinds` -/
  now : ℚ
  /-- `_wall_clock()` in the cross-check -/
  wall : ℚ
  clocks : SnapshotKind → PollClocks
  info : Except ClientError Value
  mbean : String → Except ClientError Value
  queries : Except ClientError QueryListResult
  resourceGroups : Except PyError Collection
  /-- `repository.load` raised -/
  loadRaises : Option PyError
  /-- `repository.save` stored the snapshot -/
  saves : SnapshotKind → Bool

/-- a tick under way: the poller, the stored JMX snapshot, what was produced and what of it was stored -/
structure Ticked where
  poller : Poller
  jmx : Option JmxSnapshot
  produced : List Produced
  saved : List Produced

/-- one due poll; an exception leaves the poller as it was -/
def poll (cfg : PollerConfig) (r : Round) (p : Poller) (jmx : Option JmxSnapshot) :
    SnapshotKind → Except PyError (Produced × Poller)
  | .info => .ok ((pollInfo cfg (r.clocks .info) p r.info).map .info id)
  | .jmx => .ok ((pollJmx cfg (r.clocks .jmx) p r.mbean).map .jmx id)
  | .resourceGroups => do
    let collection ← r.resourceGroups
    pure ((pollResourceGroups cfg (r.clocks .resourceGroups) p collection).map .resourceGroups id)
  | .queries =>
    match r.loadRaises with
    | some e => .error e
    | none =>
      (pollQueries cfg (r.clocks .queries) p (lastJmxRunningQueries cfg r.wall jmx) r.queries).map
        fun x => x.map .queries id

/-- `repository.save(snapshot)`, and `produced.append(snapshot)` -/
def Ticked.deliver (t : Ticked) (cfg : PollerConfig) (r : Round) (kind : SnapshotKind) (s : Produced) (p : Poller) : Ticked where
  poller := p.reschedule cfg kind (r.clocks kind).rescheduled
  jmx := match r.saves kind, s with
    | true, .jmx snapshot => some snapshot
    | _, _ => t.jmx
  produced := t.produced ++ [s]
  saved := if r.saves kind then t.saved ++ [s] else t.saved

/-- the due polls in order; an exception ends the tick -/
def serveAll (cfg : PollerConfig) (r : Round) : List SnapshotKind → Ticked → Ticked × Option PyError
  | [], t => (t, none)
  | kind :: kinds, t =>
    match poll cfg r t.poller t.jmx kind with
    | .error e => (t, some e)
    | .ok (s, p) => serveAll cfg r kinds (t.deliver cfg r kind s p)

def tick (cfg : PollerConfig) (r : Round) (p : Poller) (jmx : Option JmxSnapshot) : Ticked × Option PyError :=
  serveAll cfg r (p.dueKinds r.now) ⟨p, jmx, [], []⟩

/-! ### What a tick preserves -/

section Tick

variable {cfg : PollerConfig} {r : Round} {kind : SnapshotKind} {kinds kinds' : List SnapshotKind} {t : Ticked}

/-- **Tick rule.** What every due poll preserves, the tick does, and an exception on the way too. -/
theorem serveAll_inv (J : Ticked → Prop)
    (hpoll : ∀ kind ∈ kinds, ∀ t s p, J t → poll cfg r t.poller t.jmx kind = .ok (s, p) → J (t.deliver cfg r kind s p))
    (h : J t) : J (serveAll cfg r kinds t).1 := by
  induction kinds generalizing t with
  | nil => exact h
  | cons kind kinds ih =>
    rw [serveAll]
    cases hp : poll cfg r t.poller t.jmx kind with
    | error e => exact h
    | ok x =>
      obtain ⟨s, p⟩ := x
      have hnext := hpoll kind List.mem_cons_self t s p h hp
      exact ih (fun kind' hkind' => hpoll kind' (List.mem_cons_of_mem kind hkind')) hnext

/-- the polls after an exception are not run -/
theorem serveAll_append : serveAll cfg r (kinds ++ kinds') t =
    match serveAll cfg r kinds t with
    | (t', some e) => (t', some e)
    | (t', none) => serveAll cfg r kinds' t' := by
  induction kinds generalizing t with
  | nil => rfl
  | cons kind kinds ih =>
    rw [List.cons_append, serveAll, serveAll]
    cases hp : poll cfg r t.poller t.jmx kind with
    | error e => rfl
    | ok x => exact ih

/-- a poll produces its own kind -/
theorem poll_kind {p p' : Poller} {jmx : Option JmxSnapshot} {s : Produced} (h : poll cfg r p jmx kind = .ok (s, p')) :
    s.kind = kind := by
  cases kind with
  | info => cases h; rfl
  | jmx => cases h; rfl
  | resourceGroups =>
    revert h
    suffices Returns (fun x => x.1.kind = .resourceGroups) (poll cfg r p jmx .resourceGroups) from this (s, p')
    exact returns_bind fun collection _ => returns_pure rfl
  | queries =>
    simp only [poll] at h
    split at h
    · cases h
    · cases hq : pollQueries cfg (r.clocks .queries) p (lastJmxRunningQueries cfg r.wall jmx) r.queries with
      | error e => rw [hq] at h; cases h
      | ok x => rw [hq] at h; cases h; rfl

/-- a poll of another kind leaves the suspicion alone -/
theorem suspiciousPolls_poll (hkind : kind ≠ .queries) {p p' : Poller} {jmx : Option JmxSnapshot} {s : Produced}
    (h : poll cfg r p jmx kind = .ok (s, p')) : p'.suspiciousPolls = p.suspiciousPolls := by
  cases kind with
  | queries => exact absurd rfl hkind
  | info => cases h; exact suspiciousPolls_pollInfo ..
  | jmx => cases h; exact suspiciousPolls_pollJmx ..
  | resourceGroups =>
    revert h
    suffices Returns (fun x => x.2.suspiciousPolls = p.suspiciousPolls) (poll cfg r p jmx .resourceGroups) from
      this (s, p')
    exact returns_bind fun collection _ => returns_pure (suspiciousPolls_pollResourceGroups cfg ..)

/-- only a JMX poll stores a JMX snapshot -/
theorem jmx_deliver {s : Produced} (hs : s.kind ≠ .jmx) (p : Poller) : (t.deliver cfg r kind s p).jmx = t.jmx := by
  cases s with
  | jmx j => exact absurd rfl hs
  | _ => cases hsave : r.saves kind <;> simp [Ticked.deliver, hsave]

theorem queryLists_append_other {produced : List Produced} {s : Produced} (hs : s.kind ≠ .queries) :
    queryLists (produced ++ [s]) = queryLists produced := by
  cases s with
  | queries q => exact absurd rfl hs
  | _ => simp [queryLists]

theorem queryLists_append_queries {produced : List Produced} (q : QueriesSnapshot) :
    queryLists (produced ++ [.queries q]) = queryLists produced ++ [q] := by
  simp [queryLists]

/-- the suspicion and the query lists of a tick under way -/
structure Unpolled (n : ℕ) (lists saved : List QueriesSnapshot) (t : Ticked) : Prop where
  suspiciousPolls : t.poller.suspiciousPolls = n
  lists : queryLists t.produced = lists
  saved : queryLists t.saved = saved

/-- the other polls leave them alone -/
theorem unpolled_deliver {n : ℕ} {lists saved : List QueriesSnapshot} {s : Produced} {p : Poller} (hkind : kind ≠ .queries)
    (h : Unpolled n lists saved t) (hp : poll cfg r t.poller t.jmx kind = .ok (s, p)) :
    Unpolled n lists saved (t.deliver cfg r kind s p) := by
  have hs : s.kind ≠ .queries := by rw [poll_kind hp]; exact hkind
  refine ⟨?_, ?_, ?_⟩
  · exact (suspiciousPolls_poll hkind hp).trans h.suspiciousPolls
  · exact (queryLists_append_other hs).trans h.lists
  · simp only [Ticked.deliver]
    split_ifs
    · exact (queryLists_append_other hs).trans h.saved
    · exact h.saved

theorem unpolled_serveAll {n : ℕ} {lists saved : List QueriesSnapshot} (hkinds : SnapshotKind.queries ∉ kinds)
    (h : Unpolled n lists saved t) : Unpolled n lists saved (serveAll cfg r kinds t).1 := by
  refine serveAll_inv (Unpolled n lists saved) (fun kind hkind t s p ht hp => ?_) h
  exact unpolled_deliver (fun hk => hkinds (hk ▸ hkind)) ht hp

theorem jmx_serveAll (hkinds : SnapshotKind.jmx ∉ kinds) : (serveAll cfg r kinds t).1.jmx = t.jmx := by
  refine serveAll_inv (fun t' => t'.jmx = t.jmx) (fun kind hkind t' s p ht hp => ?_) rfl
  have hs : s.kind ≠ .jmx := by
    rw [poll_kind hp]
    exact fun hk => hkinds (hk ▸ hkind)
  exact (jmx_deliver hs p).trans ht

/-- **One query poll a tick**, at most: none was produced, or the one that was compared its list with the JMX reading
then stored, and nothing else touched the suspicion. -/
theorem tick_queries (cfg : PollerConfig) (r : Round) (p : Poller) (jmx : Option JmxSnapshot) :
    Unpolled p.suspiciousPolls [] [] (tick cfg r p jmx).1 ∨
    ∃ p₀ s p', p₀.suspiciousPolls = p.suspiciousPolls ∧
      pollQueries cfg (r.clocks .queries) p₀ (lastJmxRunningQueries cfg r.wall (tick cfg r p jmx).1.jmx) r.queries =
        .ok (s, p') ∧
      Unpolled p'.suspiciousPolls [s] (if r.saves .queries then [s] else []) (tick cfg r p jmx).1 := by
  have start : Unpolled p.suspiciousPolls [] [] ⟨p, jmx, [], []⟩ := ⟨rfl, rfl, rfl⟩
  by_cases hdue : p.isDue r.now .queries = true
  swap
  · refine .inl (unpolled_serveAll (fun hmem => hdue ?_) start)
    exact (List.mem_filter.1 hmem).2
  -- JMX, if due, comes before the queries, and the rest after them
  have hkinds : p.dueKinds r.now = [SnapshotKind.jmx].filter (p.isDue r.now) ++
      (.queries :: [SnapshotKind.info, .resourceGroups].filter (p.isDue r.now)) := by
    rw [Poller.dueKinds, Poller.pollOrder, ← List.filter_cons_of_pos hdue, ← List.filter_append]
    rfl
  have hbefore : SnapshotKind.queries ∉ [SnapshotKind.jmx].filter (p.isDue r.now) :=
    fun hmem => absurd (List.mem_filter.1 hmem).1 (by decide)
  have hafter : SnapshotKind.queries ∉ [SnapshotKind.info, .resourceGroups].filter (p.isDue r.now) ∧
      SnapshotKind.jmx ∉ [SnapshotKind.info, .resourceGroups].filter (p.isDue r.now) :=
    ⟨fun hmem => absurd (List.mem_filter.1 hmem).1 (by decide), fun hmem => absurd (List.mem_filter.1 hmem).1 (by decide)⟩
  have hfirst := @unpolled_serveAll cfg r _ ⟨p, jmx, [], []⟩ _ _ _ hbefore start
  rw [tick, hkinds, serveAll_append]
  generalize serveAll cfg r ([SnapshotKind.jmx].filter (p.isDue r.now)) ⟨p, jmx, [], []⟩ = before at hfirst
  obtain ⟨t, _ | e⟩ := before
  swap
  · exact .inl hfirst
  dsimp only at hfirst ⊢
  rw [serveAll]
  cases hload : r.loadRaises with
  | some e => exact .inl (by simpa [poll, hload] using hfirst)
  | none =>
    cases hpoll : pollQueries cfg (r.clocks .queries) t.poller (lastJmxRunningQueries cfg r.wall t.jmx) r.queries with
    | error e => exact .inl (by simpa [poll, hload, hpoll, Except.map] using hfirst)
    | ok x =>
      obtain ⟨s, p'⟩ := x
      have hserved : poll cfg r t.poller t.jmx .queries = .ok (.queries s, p') := by
        simp only [poll, hload, hpoll, Except.map, Prod.map, id]
      rw [hserved]
      have hdelivered : Unpolled p'.suspiciousPolls [s] (if r.saves .queries then [s] else [])
          (t.deliver cfg r .queries (.queries s) p') := by
        refine ⟨rfl, ?_, ?_⟩
        · simp only [Ticked.deliver, queryLists_append_queries, hfirst.lists, List.nil_append]
        · simp only [Ticked.deliver]
          split_ifs
          · rw [queryLists_append_queries, hfirst.saved, List.nil_append]
          · exact hfirst.saved
      refine .inr ⟨t.poller, s, p', hfirst.suspiciousPolls, ?_, unpolled_serveAll hafter.1 hdelivered⟩
      rw [jmx_serveAll hafter.2, jmx_deliver (by simp [Produced.kind])]
      exact hpoll

end Tick

end TrinoManagement.Collector
