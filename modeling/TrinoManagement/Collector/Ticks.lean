/-
Polling one coordinator, `tms/collector/poller.py`, with replies that may be any JSON: each read of a reply that can raise is
there, with the exception that it raises.

`Collector.tick` is the same tick over answers that are already values, for what is said of suspicions and stored lists.
The two share `PollerConfig`, the schedule, the intervals and the MBeans by name; no theorem ties the reads of one to the
other, so what is proved of either is about its own replies.
- `summariseQuery_ok`: the entries of a query list that a row can be made of.
-/
import Mathlib.Tactic
import TrinoManagement.Collector.GroupReads

namespace TrinoManagement.Ticks

open TrinoManagement.Collector
  (ClientError PollClocks Poller PollerConfig Snapshot SnapshotKind Summary durationToMs dataSizeToBytes matchUnits
    jmxMbeans queryManagerMbean filteredAdvice filteredMessage queuedStates runningStates)

/-! ## Units -/

/-- the float nearest to the value, infinite beyond the largest -/
def toPyFloat (q : ℚ) : PyFloat := if overflows q then .infinity false else .finite (roundFloat q)

/-- `parse_duration_ms` -/
def parseDurationMs : Json → Except Uncaught (Option PyFloat)
  | .int n => if overflows n then .error .overflowError else .ok (some (.finite n))
  | .float x => .ok (some x)
  | .str s => .ok do
    let text ← s.plain
    let (magnitude, unit) ← matchUnits durationToMs text
    pure (if overflows magnitude then .infinity false else toPyFloat (roundFloat magnitude * roundFloat unit))
  | _ => .ok none

/-- `parse_data_size_bytes`; `int` of an infinite float is no `ValueError`, and a unit is a power of two, so that one
rounding is all -/
def parseDataSizeBytes : Json → Except Uncaught (Option ℤ)
  | .int n => .ok (some n)
  | .float x => x.toInt.map some
  | .str s =>
    match s.plain.bind (matchUnits dataSizeToBytes) with
    | none => .ok none
    | some (magnitude, unit) => (toPyFloat (magnitude * unit)).toInt.map some
  | _ => .ok none

/-- `truncate_utf8` -/
def truncateUtf8 (text : PyText) (maxBytes : ℤ) : Except Uncaught (String × Bool) :=
  if maxBytes ≤ 0 then .ok ("", !text.isEmpty)
  else
    match text.plain with
    | none => .error .unicodeEncodeError
    | some text => .ok (Collector.truncateUtf8 text maxBytes)

/-! ## Summaries -/

structure QueryRow where
  queryId : Json
  state : Json
  user : Json
  source : Json
  resourceGroupId : Option (List Json)
  elapsedMs : Option PyFloat
  queuedMs : Option PyFloat
  totalCpuMs : Option PyFloat
  peakUserMemoryBytes : Option ℤ
  physicalInputBytes : Option ℤ
  progressPercentage : Json
  runningDrivers : Json
  queuedDrivers : Json
  fullyBlocked : Json
  queryPreview : String
  queryTruncated : Bool
  longRunning : Bool

/-- `q["state"] in states` -/
def stateIn (states : List String) : Json → Bool
  | .str s => decide (s ∈ states.map PyText.ofString)
  | _ => false

def summary (rows : List QueryRow) : Summary where
  running := rows.countP fun q => stateIn runningStates q.state
  queued := rows.countP fun q => stateIn queuedStates q.state
  longRunning := rows.countP fun q => q.longRunning
  total := rows.length

section Summaries

variable (str : Json → String) (cfg : PollerConfig)

/-- `str(raw.get("query") or "")` -/
def queryText (raw : Json) : PyText := if (raw.get "query").truthy then pyStr str (raw.get "query") else []

def summariseQuery (raw : Json) : Except Uncaught QueryRow := do
  let stats := (raw.get "queryStats").orEmptyDict
  let session := (raw.get "session").orEmptyDict
  let elapsedMs ← parseDurationMs (← stats.callGet "elapsedTime")
  let preview ← truncateUtf8 (queryText str raw) cfg.queryTextMaxBytes
  let resourceGroup := match raw.get "resourceGroupId" with
    | .list items => some items
    | _ => none
  let user ← session.callGet "user"
  let source ← session.callGet "source"
  let queuedMs ← parseDurationMs (← stats.callGet "queuedTime")
  let totalCpuMs ← parseDurationMs (← stats.callGet "totalCpuTime")
  let peakUserMemoryBytes ← parseDataSizeBytes (← stats.callGet "peakUserMemoryReservation")
  let physicalInputBytes ← parseDataSizeBytes (← stats.callGet "physicalInputDataSize")
  let progressPercentage ← stats.callGet "progressPercentage"
  let runningDrivers ← stats.callGet "runningDrivers"
  let queuedDrivers ← stats.callGet "queuedDrivers"
  let fullyBlocked ← stats.callGet "fullyBlocked"
  pure { queryId := raw.get "queryId", state := raw.get "state", user, source, resourceGroupId := resourceGroup
         elapsedMs, queuedMs, totalCpuMs, peakUserMemoryBytes, physicalInputBytes, progressPercentage, runningDrivers
         queuedDrivers, fullyBlocked, queryPreview := preview.1, queryTruncated := preview.2
         longRunning := match elapsedMs with
           | some ms => ms.ge (.finite (cfg.longRunningSeconds * 1000))
           | none => false }

/-! ### What a row can be made of -/

/-- the fields of `queryStats` that are read as durations -/
def durationFields : List String := ["elapsedTime", "queuedTime", "totalCpuTime"]

/-- the fields of `queryStats` that are read as sizes -/
def sizeFields : List String := ["peakUserMemoryReservation", "physicalInputDataSize"]

/-- neither NaN nor infinite, as a number or in a text with a unit -/
def SizeReadable : Json → Prop
  | .float x => ∃ q, x = .finite q
  | .str s => ∀ magnitude unit, s.plain.bind (matchUnits dataSizeToBytes) = some (magnitude, unit) →
      overflows (magnitude * unit) = false
  | _ => True

/-- what an entry of a query list has to be -/
structure QuerySummarisable (raw : Json) : Prop where
  stats : (raw.get "queryStats").DictOrNothing
  session : (raw.get "session").DictOrNothing
  durations : ∀ name ∈ durationFields, ((raw.get "queryStats").get name).FitsFloat
  sizes : ∀ name ∈ sizeFields, SizeReadable ((raw.get "queryStats").get name)
  text : 0 < cfg.queryTextMaxBytes → (queryText str raw).plain ≠ none

variable {str cfg}

theorem ok_parseDurationMs {v : Json} : Ok (parseDurationMs v) ↔ v.FitsFloat := by
  cases v with
  | int n => cases h : overflows n <;> simp [parseDurationMs, Ok, Json.FitsFloat, h]
  | _ => simp [parseDurationMs, Ok, Json.FitsFloat]

theorem ok_toInt_toPyFloat {q : ℚ} : Ok (toPyFloat q).toInt ↔ overflows q = false := by
  rw [ok_toInt, toPyFloat]
  cases overflows q <;> simp

theorem ok_parseDataSizeBytes {v : Json} : Ok (parseDataSizeBytes v) ↔ SizeReadable v := by
  cases v with
  | float x => exact ok_map.trans ok_toInt
  | str s =>
    unfold parseDataSizeBytes SizeReadable
    dsimp only
    cases s.plain.bind (matchUnits dataSizeToBytes) with
    | none => simp [Ok]
    | some m =>
      obtain ⟨magnitude, unit⟩ := m
      refine (ok_map.trans ok_toInt_toPyFloat).trans ⟨fun h magnitude' unit' heq => ?_, fun h => h magnitude unit rfl⟩
      cases heq
      exact h
  | _ => simp [parseDataSizeBytes, Ok, SizeReadable]

theorem ok_truncateUtf8 {text : PyText} {maxBytes : ℤ} :
    Ok (truncateUtf8 text maxBytes) ↔ (0 < maxBytes → text.plain ≠ none) := by
  unfold truncateUtf8
  split_ifs with hmax
  · simp [Ok, hmax]
  · cases text.plain <;> simp [Ok, not_le.1 hmax]

/-- **A row can be made** of a summarisable entry, and of no other. -/
theorem summariseQuery_ok {raw : Json} : Ok (summariseQuery str cfg raw) ↔ QuerySummarisable str cfg raw := by
  unfold summariseQuery
  dsimp only
  by_cases hstats : (raw.get "queryStats").DictOrNothing
  swap
  · rw [Json.callGet_error hstats, ok_error]
    exact ⟨False.elim, fun h => hstats h.stats⟩
  simp only [Json.callGet_ok hstats]
  by_cases hsession : (raw.get "session").DictOrNothing
  swap
  · simp only [Json.callGet_error hsession, then_eq]
    rw [ok_bind ok_parseDurationMs fun _ => ok_bind ok_truncateUtf8 fun _ => ok_error]
    exact ⟨fun h => h.2.2.elim, fun h => absurd h.session hsession⟩
  simp only [Json.callGet_ok hsession, then_eq]
  rw [ok_bind ok_parseDurationMs fun _ => ok_bind ok_truncateUtf8 fun _ => ok_bind ok_parseDurationMs fun _ =>
    ok_bind ok_parseDurationMs fun _ => ok_bind ok_parseDataSizeBytes fun _ => ok_bind ok_parseDataSizeBytes fun _ =>
    ok_pure _]
  constructor
  · rintro ⟨helapsed, htext, hqueued, hcpu, hmemory, hinput, -⟩
    exact ⟨hstats, hsession, by simp [durationFields, helapsed, hqueued, hcpu], by simp [sizeFields, hmemory, hinput], htext⟩
  · intro h
    have hdurations := h.durations
    have hsizes := h.sizes
    simp only [durationFields, sizeFields, List.forall_mem_cons, List.not_mem_nil, false_imp_iff, implies_true,
      and_true] at hdurations hsizes
    exact ⟨hdurations.1, h.text, hdurations.2.1, hdurations.2.2, hsizes.1, hsizes.2, trivial⟩

end Summaries

/-! ## Polls -/

/-- `{"mbeans": ..., "errors": ...}` -/
abbrev JmxSnapshot := Snapshot Json

structure QueriesPayload where
  queries : List QueryRow
  summary : Summary
  responseBytes : ℕ
  pollIntervalSeconds : ℚ

section Polls

variable (str : Json → String) (cfg : PollerConfig) (clocks : PollClocks) (p : Poller)

/-- the payload of a failed poll is `{}` -/
def failedSnapshot {π : Type} (payload : π) (e : ClientError) : Snapshot π :=
  ⟨cfg.clusterName, clocks.collectedAt, payload, some e.text, e.adviceOrNone⟩

def pollInfo (reply : Reply) : Except Uncaught (Snapshot Json × Poller) :=
  match getServerInfo reply with
  | .error (.client e) => .ok (failedSnapshot cfg clocks (.dict []) e, p)
  | .error (.raises e) => .error e
  | .ok info => .ok (⟨cfg.clusterName, clocks.collectedAt, .dict [(PyText.ofString "info", info)], none, none⟩,
      p.succeed .info clocks.success)

/-- one MBean of the loop -/
def readMbean (replies : String → Reply) (name : String) : Except Uncaught (String × Except ClientError Attributes) :=
  match getMbean str name (replies name) with
  | .error (.client e) => .ok (name, .error e)
  | .error (.raises e) => .error e
  | .ok attributes => .ok (name, .ok attributes)

/-- the MBeans that were read -/
def mbeansAmong (reads : List (String × Except ClientError Attributes)) : List (String × Attributes) :=
  reads.filterMap fun x => x.2.toOption.map (x.1, ·)

/-- and those that were not -/
def errorsAmong (reads : List (String × Except ClientError Attributes)) : List (String × ClientError) :=
  reads.filterMap fun
    | (name, .error e) => some (name, e)
    | (_, .ok _) => none

def errorFields (errors : List (String × ClientError)) : List (PyText × Json) :=
  errors.map fun x => (PyText.ofString x.1, .str (PyText.ofString x.2.text))

def pollJmx (replies : String → Reply) : Except Uncaught (JmxSnapshot × Poller) := do
  let reads ← jmxMbeans.mapM (readMbean str replies)
  let mbeans := (mbeansAmong reads).map fun x => (PyText.ofString x.1, Json.dict x.2)
  let errors := errorsAmong reads
  let advice := errors.findSome? fun x => x.2.adviceOrNone
  if mbeans.isEmpty then
    pure (⟨cfg.clusterName, clocks.collectedAt, .dict [(PyText.ofString "errors", .dict (errorFields errors))],
      some "all MBean reads failed", advice⟩, p)
  else
    pure (⟨cfg.clusterName, clocks.collectedAt,
      .dict [(PyText.ofString "mbeans", .dict mbeans), (PyText.ofString "errors", .dict (errorFields errors))],
      if errors ≠ [] then
        some (toString errors.length ++ " of " ++ toString jmxMbeans.length ++ " MBeans unavailable")
      else none,
      advice⟩, p.succeed .jmx clocks.success)

/-- the count an empty list is held against -/
def suspicion (queries : List Json) (jmxRunningQueries : Option ℤ) : Option ℤ :=
  if queries.isEmpty then jmxRunningQueries.filter (· ≠ 0) else none

def pollQueries (jmxRunningQueries : Option ℤ) (reply : Except Failure (Json × ℕ)) :
    Except Uncaught (Snapshot (Option QueriesPayload) × Poller) :=
  match listQueries reply with
  | .error (.client e) => .ok (failedSnapshot cfg clocks none e, p)
  | .error (.raises e) => .error e
  | .ok (raws, responseBytes) => do
    let queries ← raws.mapM (summariseQuery str cfg)
    let suspected := suspicion raws jmxRunningQueries
    let suspiciousPolls := if suspected.isSome then p.suspiciousPolls + 1 else 0
    let trouble := suspected.filter fun _ => cfg.confirmPolls ≤ suspiciousPolls
    let p := { p with suspiciousPolls := suspiciousPolls }.adaptInterval cfg responseBytes
    pure (⟨cfg.clusterName, clocks.collectedAt, some ⟨queries, summary queries, responseBytes, p.queryInterval⟩,
        trouble.map filteredMessage, trouble.map fun _ => filteredAdvice⟩,
      if trouble = none then p.succeed .queries clocks.success else p)

def pollResourceGroups (registry : Reply) (mbean : ℕ → Reply) : Except Uncaught (Snapshot Collection × Poller) := do
  let collection ← collect str registry mbean
  pure (⟨cfg.clusterName, clocks.collectedAt, collection, collection.error, collection.advice⟩,
    if collection.groups.isEmpty then p else p.succeed .resourceGroups clocks.success)

end Polls

/-- where the JMX snapshot has the number of running queries -/
def runningQueries (payload : Json) : Json := ((payload.get "mbeans").get queryManagerMbean).get "RunningQueries"

/-- `_last_jmx_running_queries` -/
def lastJmxRunningQueries (cfg : PollerConfig) (now : ℚ) (jmx : Option JmxSnapshot) : Except Uncaught (Option ℤ) :=
  match jmx with
  | none => .ok none
  | some s =>
    if s.isStale now cfg.crossCheckMaxAge then .ok none
    else
      match runningQueries s.payload with
      | .int n => .ok (some n)
      | .float x => x.toInt.map some
      | _ => .ok none

/-! ## The tick -/

inductive Produced where
  | queries (s : Snapshot (Option QueriesPayload))
  | jmx (s : JmxSnapshot)
  | info (s : Snapshot Json)
  | resourceGroups (s : Snapshot Collection)

def Produced.kind : Produced → SnapshotKind
  | .queries _ => .queries
  | .jmx _ => .jmx
  | .info _ => .info
  | .resourceGroups _ => .resourceGroups

/-- what one tick meets: its clocks, the coordinator's replies, and the store -/
structure Round where
  /-- `_clock()` in `due_kinds` -/
  now : ℚ
  /-- `_wall_clock()` in the cross-check -/
  wall : ℚ
  clocks : SnapshotKind → PollClocks
  info : Reply
  mbean : String → Reply
  /-- the reply to `/v1/query`, and its size -/
  queries : Except Failure (Json × ℕ)
  registry : Reply
  /-- the replies to the reads of the groups' MBeans, in order -/
  groupMbean : ℕ → Reply
  /-- `repository.load` raised -/
  loadRaises : Option Uncaught
  /-- `repository.save` stored the snapshot -/
  saves : SnapshotKind → Bool

/-- a tick under way: the poller, the stored JMX snapshot, and what was produced -/
structure Ticked where
  poller : Poller
  jmx : Option JmxSnapshot
  produced : List Produced

section Tick

variable (str : Json → String) (cfg : PollerConfig) (r : Round)

/-- one due poll; an exception leaves the poller as it was -/
def poll (p : Poller) (jmx : Option JmxSnapshot) : SnapshotKind → Except Uncaught (Produced × Poller)
  | .info => do
    let (s, p) ← pollInfo cfg (r.clocks .info) p r.info
    pure (.info s, p)
  | .jmx => do
    let (s, p) ← pollJmx str cfg (r.clocks .jmx) p r.mbean
    pure (.jmx s, p)
  | .resourceGroups => do
    let (s, p) ← pollResourceGroups str cfg (r.clocks .resourceGroups) p r.registry r.groupMbean
    pure (.resourceGroups s, p)
  | .queries =>
    match r.loadRaises with
    | some e => .error e
    | none => do
      let running ← lastJmxRunningQueries cfg r.wall jmx
      let (s, p) ← pollQueries str cfg (r.clocks .queries) p running r.queries
      pure (.queries s, p)

/-- `_reschedule`, `repository.save(snapshot)` and `produced.append(snapshot)` -/
def Ticked.deliver (t : Ticked) (kind : SnapshotKind) (s : Produced) (p : Poller) : Ticked where
  poller := p.reschedule cfg kind (r.clocks kind).rescheduled
  jmx := match r.saves kind, s with
    | true, .jmx snapshot => some snapshot
    | _, _ => t.jmx
  produced := t.produced ++ [s]

/-- the due polls in order; an exception ends the tick -/
def serveAll : List SnapshotKind → Ticked → Ticked × Option Uncaught
  | [], t => (t, none)
  | kind :: kinds, t =>
    match poll str cfg r t.poller t.jmx kind with
    | .error e => (t, some e)
    | .ok (s, p) => serveAll kinds (t.deliver cfg r kind s p)

def tick (p : Poller) (jmx : Option JmxSnapshot) : Ticked × Option Uncaught :=
  serveAll str cfg r (p.dueKinds r.now) ⟨p, jmx, []⟩

end Tick

end TrinoManagement.Ticks
