/-
When health is evaluated on what: the collector's intervals and the stale threshold as `build_config` accepts them,
`tms/core/config.py`, the tick of a cluster and the evaluation after it, `tms/collector/main.py` and
`tms/collector/health_writer.py`.

An evaluation reads the three stored snapshots. One of them too old makes the whole verdict stale.
- `buildCollector_ok`: what the accepted configurations have in common.
- `staleAt_eq_false`: not stale means that something is stored, and all of it is recent.
- `collectedAt_deliver`, `nextDue_deliver`: a poll that is stored is dated now, and due again one interval later.
-/
import Mathlib.Tactic
import TrinoManagement.Collector.Poller
import TrinoManagement.Core.Run
import TrinoManagement.Health.Overrides

namespace TrinoManagement.HealthWriter

open TrinoManagement.Collector
open TrinoManagement.Overrides (Visit)

/-! ## The collector's section -/

/-- `CollectorConfig` -/
structure CollectorSection where
  queryPollInterval : ℚ
  jmxPollInterval : ℚ
  infoPollInterval : ℚ
  staleThreshold : ℚ
  queryTextMaxBytes : ℤ
  responseBackoffBytes : ℤ
  responseBackoffInterval : ℚ
deriving DecidableEq, Repr

/-- a `ConfigError`, or whatever else a value raises that is no number -/
inductive Rejected where
  | config (message : String)
  | raised
deriving DecidableEq, Repr

/-- `collector_raw.get(key, default)`; a key that is there and null has no default -/
def setting (raw : Value) (key : String) (default : Value) : Value :=
  match raw with
  | .dict fields => (fields.lookup key).getD default
  | _ => default

/-- `float(v)` -/
def floatOf (v : Value) : Except Rejected ℚ :=
  match v.toFloat with
  | .ok (some q) => .ok q
  | _ => .error .raised

/-- `int(v)` -/
def intOf (v : Value) : Except Rejected ℤ :=
  match v.toInt with
  | some n => .ok n
  | none => .error .raised

def readCollector (raw : Value) : Except Rejected CollectorSection := do
  let queryPollInterval ← floatOf (setting raw "query_poll_interval_seconds" (.int 5))
  let jmxPollInterval ← floatOf (setting raw "jmx_poll_interval_seconds" (.int 15))
  let infoPollInterval ← floatOf (setting raw "info_poll_interval_seconds" (.int 30))
  let staleThreshold ← floatOf (setting raw "stale_threshold_seconds" (.int 30))
  let queryTextMaxBytes ← intOf (setting raw "query_text_max_bytes" (.int 4096))
  let responseBackoffBytes ← intOf (setting raw "response_backoff_bytes" (.int 5000000))
  let responseBackoffInterval ← floatOf (setting raw "response_backoff_interval_seconds" (.int 10))
  pure ⟨queryPollInterval, jmxPollInterval, infoPollInterval, staleThreshold, queryTextMaxBytes, responseBackoffBytes,
    responseBackoffInterval⟩

/-- `repr` writes a float into the message -/
def checkCollector (repr : ℚ → String) (c : CollectorSection) : Except Rejected CollectorSection :=
  if c.queryPollInterval ≤ 0 then .error (.config "collector.query_poll_interval_seconds must be positive")
  -- otherwise every snapshot would be stale the moment it is written
  else if c.staleThreshold < c.queryPollInterval then
    .error (.config ("collector.stale_threshold_seconds (" ++ repr c.staleThreshold ++ ") must be >= " ++
      "query_poll_interval_seconds (" ++ repr c.queryPollInterval ++ ")"))
  else .ok c

/-- the part of `build_config` about the collector; a section that is no dict has no `get` -/
def buildCollector (repr : ℚ → String) (raw : Value) : Except Rejected CollectorSection :=
  let collectorRaw := (raw.get "collector").orEmptyDict
  if collectorRaw.isDict = false then .error .raised else readCollector collectorRaw >>= checkCollector repr

theorem buildCollector_ok {repr : ℚ → String} {raw : Value} {c : CollectorSection} (h : buildCollector repr raw = .ok c) :
    0 < c.queryPollInterval ∧ c.queryPollInterval ≤ c.staleThreshold := by
  rw [buildCollector] at h
  split_ifs at h
  obtain ⟨c', -, hcheck⟩ := bind_eq_ok.1 h
  unfold checkCollector at hcheck
  split_ifs at hcheck with hpositive hthreshold
  cases hcheck
  exact ⟨not_le.1 hpositive, not_lt.1 hthreshold⟩

/-! ## A cluster of a deployment -/

/-- what else `build_pollers` and the health writer are given -/
structure Deployment where
  cluster : String
  longRunningSeconds : ℚ
  resourceGroupInterval : Option ℚ
  str : Value → String
  health : Overrides.CollectorConfig

def pollerConfig (c : CollectorSection) (d : Deployment) : PollerConfig where
  clusterName := d.cluster
  baseQueryInterval := c.queryPollInterval
  jmxInterval := c.jmxPollInterval
  infoInterval := c.infoPollInterval
  queryTextMaxBytes := c.queryTextMaxBytes
  longRunningSeconds := d.longRunningSeconds
  responseBackoffBytes := c.responseBackoffBytes
  responseBackoffInterval := c.responseBackoffInterval
  jmxCrossCheckMaxAge := none
  h09ConfirmPolls := 2
  resourceGroupInterval := d.resourceGroupInterval
  str := d.str

def healthConfig (c : CollectorSection) (d : Deployment) : Overrides.CollectorConfig :=
  { d.health with staleThreshold := c.staleThreshold }

/-! ## What is stored -/

/-- the three snapshots of the cluster that an evaluation loads -/
structure Inputs where
  info : Option InfoSnapshot
  jmx : Option JmxSnapshot
  queries : Option QueriesSnapshot

namespace Inputs

variable (i : Inputs)

/-- `repository.save` -/
def put : Produced → Inputs
  | .info s => { i with info := some s }
  | .jmx s => { i with jmx := some s }
  | .queries s => { i with queries := some s }
  | .resourceGroups _ => i

def putAll (produced : List Produced) : Inputs := produced.foldl put i

def collectedAt : SnapshotKind → Option ℚ
  | .info => i.info.map (·.collectedAt)
  | .jmx => i.jmx.map (·.collectedAt)
  | .queries => i.queries.map (·.collectedAt)
  | .resourceGroups => none

def visit (cluster : String) (now : ℚ) : Visit := ⟨cluster, now, i.info, i.jmx, i.queries, none, true⟩

end Inputs

/-- the kinds that a health evaluation reads -/
def monitored : List SnapshotKind := [.jmx, .queries, .info]

def Produced.collectedAt : Produced → ℚ
  | .info s => s.collectedAt
  | .jmx s => s.collectedAt
  | .queries s => s.collectedAt
  | .resourceGroups s => s.collectedAt

theorem collectedAt_put (i : Inputs) (s : Produced) {kind : SnapshotKind} (hkind : kind ∈ monitored) :
    (i.put s).collectedAt kind = if kind = s.kind then some (Produced.collectedAt s) else i.collectedAt kind := by
  cases s <;> fin_cases hkind <;> rfl

theorem putAll_snoc (i : Inputs) (produced : List Produced) (s : Produced) :
    i.putAll (produced ++ [s]) = (i.putAll produced).put s := by
  rw [Inputs.putAll, Inputs.putAll, List.foldl_append, List.foldl_cons, List.foldl_nil]

theorem any_isStale {α π : Type} (f : α → Snapshot π) (s : Option α) (now threshold : ℚ) :
    s.any (fun x => (f x).isStale now threshold) = false ↔
      ∀ t, s.map (fun x => (f x).collectedAt) = some t → now ≤ t + threshold := by
  cases s with
  | none => simp
  | some x =>
    simp only [Option.any_some, Snapshot.isStale, Option.map_some, Option.some.injEq, forall_eq', decide_eq_false_iff_not,
      not_lt, sub_le_iff_le_add']

/-- something is stored, and all of it is recent -/
theorem staleAt_eq_false (c : CollectorSection) (d : Deployment) (i : Inputs) (now : ℚ) :
    (healthConfig c d).staleAt (i.visit d.cluster now) = false ↔
      (∃ kind ∈ monitored, (i.collectedAt kind).isSome) ∧
        ∀ kind ∈ monitored, ∀ t, i.collectedAt kind = some t → now ≤ t + c.staleThreshold := by
  obtain ⟨info, jmx, queries⟩ := i
  have hsome : (info.isNone && jmx.isNone && queries.isNone) = false ↔
      ∃ kind ∈ monitored, ((⟨info, jmx, queries⟩ : Inputs).collectedAt kind).isSome = true := by
    cases info <;> cases jmx <;> cases queries <;> simp [monitored, Inputs.collectedAt]
  have hall : (∀ kind ∈ monitored, ∀ t, (⟨info, jmx, queries⟩ : Inputs).collectedAt kind = some t →
      now ≤ t + c.staleThreshold) ↔
      info.any (fun s => s.isStale now c.staleThreshold) = false ∧ jmx.any (fun s => s.isStale now c.staleThreshold) = false ∧
        queries.any (fun s => s.isStale now c.staleThreshold) = false := by
    have hinfo := any_isStale (fun s : InfoSnapshot => s) info now c.staleThreshold
    have hjmx := any_isStale (fun s : JmxSnapshot => s) jmx now c.staleThreshold
    have hqueries := any_isStale QueriesSnapshot.toSnapshot queries now c.staleThreshold
    rw [hinfo, hjmx, hqueries]
    simp only [monitored, List.forall_mem_cons]
    constructor
    · rintro ⟨hjmx, hqueries, hinfo, -⟩
      exact ⟨hinfo, hjmx, hqueries⟩
    · rintro ⟨hinfo, hjmx, hqueries⟩
      exact ⟨hjmx, hqueries, hinfo, fun kind hkind => absurd hkind List.not_mem_nil⟩
  rw [hall, ← hsome]
  simp only [Overrides.CollectorConfig.staleAt, Inputs.visit, healthConfig, Bool.or_eq_false_iff, and_assoc]

/-! ## Ticks and evaluations -/

/-- the poller, what is stored of its cluster, and which kinds have been polled; `now` is its clock's last reading -/
structure Watch where
  poller : Poller
  inputs : Inputs
  polled : List SnapshotKind
  now : ℚ

/-- one pass of `CollectorService.run` over the cluster -/
def round (cfg : PollerConfig) (w : Watch) (r : Round) : Watch :=
  let t := (tick cfg r w.poller w.inputs.jmx).1
  ⟨t.poller, w.inputs.putAll t.saved, w.polled ++ t.saved.map (·.kind), r.now⟩

/-- whether the evaluation after the tick is stale; an exception, or nothing due, and there is none -/
def evaluation (c : CollectorSection) (d : Deployment) (w : Watch) (r : Round) : Option Bool :=
  match tick (pollerConfig c d) r w.poller w.inputs.jmx with
  | (_, some _) => none
  | (t, none) =>
    if t.produced = [] then none
    else some ((healthConfig c d).staleAt ((w.inputs.putAll t.saved).visit d.cluster r.wall))

/-! ### What one poll does -/

section Poll

variable {cfg : PollerConfig} {r : Round} {kind kind' : SnapshotKind} {p p' : Poller} {jmx : Option JmxSnapshot}
  {s : Produced} {t : Ticked}

/-- a poll is dated, leaves the schedule alone, and may choose another interval for the queries -/
structure Polled (cfg : PollerConfig) (r : Round) (kind : SnapshotKind) (p : Poller) (s : Produced) (p' : Poller) :
    Prop where
  collectedAt : Produced.collectedAt s = (r.clocks kind).collectedAt
  nextDue : p'.nextDue = p.nextDue
  queryInterval : p'.queryInterval ∈ [p.queryInterval, cfg.baseQueryInterval, cfg.responseBackoffInterval]

theorem adaptInterval_mem (p : Poller) (cfg : PollerConfig) (responseBytes : ℕ) :
    (p.adaptInterval cfg responseBytes).queryInterval ∈
      [p.queryInterval, cfg.baseQueryInterval, cfg.responseBackoffInterval] := by
  unfold Poller.adaptInterval
  split_ifs <;> simp

theorem nextDue_adaptInterval (p : Poller) (cfg : PollerConfig) (responseBytes : ℕ) :
    (p.adaptInterval cfg responseBytes).nextDue = p.nextDue := by
  unfold Poller.adaptInterval
  split_ifs <;> rfl

theorem pollQueries_polled {clocks : PollClocks} {running : Option ℤ} {answer : Except ClientError QueryListResult}
    {q : QueriesSnapshot} (h : pollQueries cfg clocks p running answer = .ok (q, p')) :
    q.collectedAt = clocks.collectedAt ∧ p'.nextDue = p.nextDue ∧
      p'.queryInterval ∈ [p.queryInterval, cfg.baseQueryInterval, cfg.responseBackoffInterval] := by
  cases answer with
  | error e =>
    cases h
    exact ⟨rfl, rfl, List.mem_cons_self⟩
  | ok result =>
    revert h
    suffices Returns (fun x => x.1.collectedAt = clocks.collectedAt ∧ x.2.nextDue = p.nextDue ∧
        x.2.queryInterval ∈ [p.queryInterval, cfg.baseQueryInterval, cfg.responseBackoffInterval])
        (pollQueries cfg clocks p running (.ok result)) from this (q, p')
    refine returns_bind fun rows _ => returns_pure ⟨rfl, ?_, ?_⟩
    · dsimp only
      split_ifs
      · exact nextDue_adaptInterval ..
      · exact nextDue_adaptInterval ..
    · dsimp only
      split_ifs
      · exact adaptInterval_mem ..
      · exact adaptInterval_mem ..

theorem pollInfo_polled (clocks : PollClocks) (p : Poller) (answer : Except ClientError Value) :
    (pollInfo cfg clocks p answer).1.collectedAt = clocks.collectedAt ∧
      (pollInfo cfg clocks p answer).2.nextDue = p.nextDue ∧
      (pollInfo cfg clocks p answer).2.queryInterval = p.queryInterval := by
  cases answer <;> exact ⟨rfl, rfl, rfl⟩

theorem pollJmx_polled (clocks : PollClocks) (p : Poller) (answers : String → Except ClientError Value) :
    (pollJmx cfg clocks p answers).1.collectedAt = clocks.collectedAt ∧
      (pollJmx cfg clocks p answers).2.nextDue = p.nextDue ∧
      (pollJmx cfg clocks p answers).2.queryInterval = p.queryInterval := by
  unfold pollJmx
  dsimp only
  split_ifs <;> exact ⟨rfl, rfl, rfl⟩

theorem pollResourceGroups_polled (clocks : PollClocks) (p : Poller) (collection : Collection) :
    (pollResourceGroups cfg clocks p collection).1.collectedAt = clocks.collectedAt ∧
      (pollResourceGroups cfg clocks p collection).2.nextDue = p.nextDue ∧
      (pollResourceGroups cfg clocks p collection).2.queryInterval = p.queryInterval := by
  unfold pollResourceGroups
  dsimp only
  split_ifs <;> exact ⟨rfl, rfl, rfl⟩

/-- **What one poll does**, of whatever kind. -/
theorem poll_polled (h : poll cfg r p jmx kind = .ok (s, p')) : Polled cfg r kind p s p' := by
  cases kind with
  | info =>
    obtain ⟨hcollected, hdue, hinterval⟩ := @pollInfo_polled cfg (r.clocks .info) p r.info
    cases h
    exact ⟨hcollected, hdue, List.mem_cons.2 (.inl hinterval)⟩
  | jmx =>
    obtain ⟨hcollected, hdue, hinterval⟩ := @pollJmx_polled cfg (r.clocks .jmx) p r.mbean
    cases h
    exact ⟨hcollected, hdue, List.mem_cons.2 (.inl hinterval)⟩
  | resourceGroups =>
    revert h
    suffices Returns (fun x => Polled cfg r .resourceGroups p x.1 x.2) (poll cfg r p jmx .resourceGroups) from this (s, p')
    refine returns_bind fun collection _ => returns_pure ?_
    obtain ⟨hcollected, hdue, hinterval⟩ := @pollResourceGroups_polled cfg (r.clocks .resourceGroups) p collection
    exact ⟨hcollected, hdue, List.mem_cons.2 (.inl hinterval)⟩
  | queries =>
    simp only [poll] at h
    split at h
    · cases h
    · obtain ⟨⟨q, p''⟩, hq, hpair⟩ := map_eq_ok.1 h
      cases hpair
      obtain ⟨hcollected, hdue, hinterval⟩ := pollQueries_polled hq
      exact ⟨hcollected, hdue, hinterval⟩

/-- a poll that is stored is what is stored of its kind -/
theorem collectedAt_deliver (i : Inputs) (hpoll : poll cfg r p jmx kind = .ok (s, p')) (hkind' : kind' ∈ monitored)
    (hsaves : kind ∈ monitored → r.saves kind = true) :
    (i.putAll (t.deliver cfg r kind s p').saved).collectedAt kind' =
      if kind' = kind then some (r.clocks kind).collectedAt else (i.putAll t.saved).collectedAt kind' := by
  have hs := poll_kind hpoll
  cases hsave : r.saves kind with
  | true =>
    have hsaved : (t.deliver cfg r kind s p').saved = t.saved ++ [s] := by simp [Ticked.deliver, hsave]
    rw [hsaved, putAll_snoc, collectedAt_put _ _ hkind', hs, (poll_polled hpoll).collectedAt]
  | false =>
    have hsaved : (t.deliver cfg r kind s p').saved = t.saved := by simp [Ticked.deliver, hsave]
    have hother : kind ∉ monitored := fun h => by rw [hsaves h] at hsave; cases hsave
    rw [hsaved, if_neg]
    rintro rfl
    exact hother hkind'

/-- and the kind is due again one interval later -/
theorem nextDue_deliver (hpoll : poll cfg r t.poller jmx kind = .ok (s, p')) :
    (t.deliver cfg r kind s p').poller.nextDue kind' =
      if kind' = kind then some ((r.clocks kind).rescheduled + p'.interval cfg kind) else t.poller.nextDue kind' := by
  change Function.update p'.nextDue kind _ kind' = _
  rw [Function.update_apply, (poll_polled hpoll).nextDue]

end Poll

end TrinoManagement.HealthWriter
