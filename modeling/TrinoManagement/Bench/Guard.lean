/-
The benchmark guard, `tms/bench/guard.py`: was a cluster out of rotation and idle when a benchmark ran. A label on the
run, not a gate.

The backends of the cluster come from the stored Gateway snapshot; whether they are active is asked live. The queries
come from the stored snapshot of the cluster, or from the caller.
- `ok_askGateway`, `ok_checkIdle`: what each half has nothing to say against.
- `check_ok`: so the guard is satisfied exactly with these inputs.
- `pollQueries_counted`: a stored summary counts the rows it is stored with.
-/
import Mathlib.Tactic
import TrinoManagement.Collector.GatewayPoller
import TrinoManagement.Collector.Poller
import TrinoManagement.Core.Dict

namespace TrinoManagement.BenchGuard

open TrinoManagement.Collector

/-! ## Refusals -/

/-- why a cluster is not exclusive -/
inductive Refusal where
  | noGateway | noBackend | stillRouted | gatewayUnreachable | queriesRunning | noQueryView | staleQueryView
deriving DecidableEq, Repr

def Refusal.code : Refusal → String
  | .noGateway => "no_gateway"
  | .noBackend => "no_backend"
  | .stillRouted => "still_routed"
  | .gatewayUnreachable => "gateway_unreachable"
  | .queriesRunning => "queries_running"
  | .noQueryView => "no_query_view"
  | .staleQueryView => "stale_query_view"

/-- `ADVICE` -/
def Refusal.advice : Refusal → String
  | .noGateway => "The Gateway integration is off, so there is no way to tell whether this cluster is taking " ++
      "production traffic. Runs will be recorded as though it were."
  | .noBackend => "No Gateway backend is matched to this cluster, so there is no way to tell whether it is in " ++
      "rotation. Runs will be recorded as though it were."
  | .gatewayUnreachable => "The Gateway did not answer, so its routing state is unknown. An unknown routing state is " ++
      "recorded as a serving one."
  | .stillRouted => "This cluster is in rotation, so production queries are landing on it while the benchmark runs. " ++
      "To measure it quiet instead, exclude it in the Gateway first — this console will not deactivate a backend on " ++
      "its own."
  | .noQueryView => "This cluster's running queries have not been collected yet, so there is no way to tell whether " ++
      "the coordinator is idle."
  | .staleQueryView => "The running-query view is stale. What it shows is the past, and the past does not say the " ++
      "cluster is idle now."
  | .queriesRunning => "Queries are running here. They compete with the benchmark for the same workers, so the " ++
      "numbers measure them as much as the cluster."

/-! ## What the cluster looked like -/

/-- a mapped backend; no state if the live list does not mention it -/
structure BackendSeen where
  name : String
  active : Option Bool
deriving DecidableEq, Repr

structure GuardResult where
  cluster : String
  refusals : List Refusal
  backends : List BackendSeen
  runningQueries : Option ℕ
  observedAt : Option ℚ
  checkedGatewayLive : Bool
deriving DecidableEq, Repr

namespace GuardResult

/-- as `__init__` leaves it -/
def init (cluster : String) : GuardResult := ⟨cluster, [], [], none, none, false⟩

variable (r : GuardResult)

/-- was quiet, not may run -/
def ok : Bool := r.refusals.isEmpty

def refuse (code : Refusal) : GuardResult :=
  if code ∈ r.refusals then r else { r with refusals := r.refusals ++ [code] }

def summary : String :=
  if r.ok then "Excluded from routing and idle." else " ".intercalate (r.refusals.map (·.advice))

/-- one line for a run taken on a cluster that was not exclusive -/
def caveat : String :=
  if r.ok then "" else "These numbers include whatever else the cluster was doing. " ++ r.summary

@[simp] theorem ok_init (cluster : String) : (init cluster).ok = true := rfl

@[simp] theorem ok_refuse (code : Refusal) : (r.refuse code).ok = false := by
  unfold refuse ok
  split_ifs with h
  · simpa using List.ne_nil_of_mem h
  · simp

end GuardResult

/-! ## Is it out of rotation -/

/-- the stored backends of the cluster -/
def mapped (cluster : String) (snapshot : Option GatewaySnapshot) : List BackendRow :=
  ((snapshot.bind (·.payload)).elim [] (·.backends)).filter fun b => b.cluster == some cluster

/-- the live list by name; of two entries with one name the later one stays -/
def byName (live : List Backend) : Dict Bool := Dict.ofPairs (live.map fun b => (b.name, b.active))

/-- a backend that the live list does not mention is not proof of exclusion -/
def judge (live : Dict Bool) (r : GuardResult) (backend : BackendRow) : GuardResult :=
  let active := live.lookup backend.name
  let r := { r with backends := r.backends ++ [⟨backend.name, active⟩] }
  if active ≠ some false then r.refuse (if r.checkedGatewayLive then .stillRouted else .gatewayUnreachable) else r

/-- the live list, or the text of whatever `list_backends` raised -/
def askGateway (mapped : List BackendRow) (answer : Except String (List Backend)) (r : GuardResult) : GuardResult :=
  if mapped = [] then r.refuse .noBackend
  else
    match answer with
    | .ok live => mapped.foldl (judge (byName live)) { r with checkedGatewayLive := true }
    | .error _ => mapped.foldl (judge []) (r.refuse .gatewayUnreachable)

/-- without a client the stored snapshot is not read -/
def checkRotation (cluster : String) (gateway : Option (Except String (List Backend)))
    (load : Except String (Option GatewaySnapshot)) (r : GuardResult) : Except String GuardResult :=
  match gateway with
  | none => pure (r.refuse .noGateway)
  | some answer => do
    let snapshot ← load
    pure (askGateway (mapped cluster snapshot) answer r)

/-! ## Is it idle -/

/-- the running-query view, loaded here or by the caller -/
structure Envelope where
  stale : Bool
  collectedAt : Option ℚ
  data : Option QueriesPayload
deriving DecidableEq

/-- `summary.running`; a failed poll has stored no summary -/
def countRunning (data : Option QueriesPayload) (r : GuardResult) : GuardResult :=
  match data with
  | none => r.refuse .noQueryView
  | some data =>
    let r := { r with runningQueries := some data.summary.running }
    if 0 < data.summary.running then r.refuse .queriesRunning else r

def checkIdle (envelope : Envelope) (r : GuardResult) : GuardResult :=
  let r := if envelope.stale then r.refuse .staleQueryView else r
  countRunning envelope.data { r with observedAt := envelope.collectedAt }

/-! ## The check -/

/-- the summary is that of the rows -/
def Counted (s : QueriesSnapshot) : Prop := ∀ p ∈ s.payload, p.summary = summary p.queries

/-- the two snapshots that are read, each load may raise -/
structure Snapshots where
  gateway : Except String (Option GatewaySnapshot)
  queries : Except String (Option QueriesSnapshot)
  counted : ∀ s, queries = .ok (some s) → Counted s

/-- `utcnow()` is `now` -/
def check (cluster : String) (gateway : Option (Except String (List Backend))) (snapshots : Snapshots)
    (staleThreshold now : ℚ) (envelope : Option Envelope) : Except String GuardResult := do
  let r ← checkRotation cluster gateway snapshots.gateway (.init cluster)
  match envelope with
  | some envelope => pure (checkIdle envelope r)
  | none =>
    match ← snapshots.queries with
    | none => pure (r.refuse .noQueryView)
    | some s => pure (checkIdle ⟨s.isStale now staleThreshold, some s.collectedAt, s.payload⟩ r)

/-- `guard_for` gives no envelope -/
def guardFor (cluster : String) (gateway : Option (Except String (List Backend))) (snapshots : Snapshots)
    (staleThreshold now : ℚ) : Except String GuardResult :=
  check cluster gateway snapshots staleThreshold now none

/-! ## When it has nothing to say -/

section Satisfied

variable {cluster : String} {gateway : Option (Except String (List Backend))} {snapshots : Snapshots}
  {staleThreshold now : ℚ} {r : GuardResult}

theorem ok_judge {live : Dict Bool} {backend : BackendRow} :
    (judge live r backend).ok = true ↔ r.ok = true ∧ live.lookup backend.name = some false := by
  by_cases h : live.lookup backend.name = some false
  · have hsame : (judge live r backend).ok = r.ok := by
      rw [judge, if_neg (not_not.2 h)]
      rfl
    rw [hsame, and_iff_left h]
  · have hrefused : (judge live r backend).ok = false := by
      rw [judge, if_pos h]
      exact GuardResult.ok_refuse ..
    simp [hrefused, h]

theorem ok_foldl_judge {live : Dict Bool} {backends : List BackendRow} :
    (backends.foldl (judge live) r).ok = true ↔
      r.ok = true ∧ ∀ b ∈ backends, live.lookup b.name = some false := by
  induction backends generalizing r with
  | nil => simp
  | cons b rest ih =>
    rw [List.foldl_cons, ih, ok_judge, List.forall_mem_cons, and_assoc]

/-- a list that was read, and backends that it all shows as inactive -/
theorem ok_askGateway {mapped : List BackendRow} {answer : Except String (List Backend)} (hr : r.ok = true) :
    (askGateway mapped answer r).ok = true ↔
      mapped ≠ [] ∧ ∃ live, answer = .ok live ∧ ∀ b ∈ mapped, (byName live).lookup b.name = some false := by
  unfold askGateway
  split_ifs with h
  · simp [h]
  cases answer with
  | ok live =>
    have hr' : ({ r with checkedGatewayLive := true } : GuardResult).ok = true := hr
    simp [ok_foldl_judge, hr', h]
  | error e => simp [ok_foldl_judge]

theorem ok_countRunning {data : Option QueriesPayload} :
    (countRunning data r).ok = true ↔ r.ok = true ∧ ∃ p, data = some p ∧ p.summary.running = 0 := by
  cases data with
  | none => simp [countRunning]
  | some p =>
    rw [countRunning]
    split_ifs with hp
    · simp [hp.ne']
    · have hzero : p.summary.running = 0 := Nat.eq_zero_of_not_pos hp
      simp [GuardResult.ok, hzero]

theorem ok_checkIdle {envelope : Envelope} :
    (checkIdle envelope r).ok = true ↔
      r.ok = true ∧ envelope.stale = false ∧ ∃ p, envelope.data = some p ∧ p.summary.running = 0 := by
  rw [checkIdle, ok_countRunning, ← and_assoc]
  refine and_congr_left fun _ => ?_
  change (if envelope.stale then r.refuse .staleQueryView else r).ok = true ↔ _
  cases envelope.stale <;> simp

/-- what the guard finds nothing against: a stored mapping, a live list whose last entries are all inactive, and a
fresh snapshot that counts nothing running -/
structure Satisfied (cluster : String) (gateway : Option (Except String (List Backend))) (snapshots : Snapshots)
    (staleThreshold now : ℚ) : Prop where
  rotation : ∃ live stored, gateway = some (.ok live) ∧ snapshots.gateway = .ok stored ∧ mapped cluster stored ≠ [] ∧
    ∀ b ∈ mapped cluster stored, (byName live).lookup b.name = some false
  idle : ∃ s p, snapshots.queries = .ok (some s) ∧ s.isStale now staleThreshold = false ∧ s.payload = some p ∧
    p.summary.running = 0

theorem ok_checkRotation {load : Except String (Option GatewaySnapshot)} (hr : r.ok = true) :
    (∃ r', checkRotation cluster gateway load r = .ok r' ∧ r'.ok = true) ↔
      ∃ live stored, gateway = some (.ok live) ∧ load = .ok stored ∧ mapped cluster stored ≠ [] ∧
        ∀ b ∈ mapped cluster stored, (byName live).lookup b.name = some false := by
  cases gateway with
  | none => simp [checkRotation, pure, Except.pure]
  | some answer =>
    cases load with
    | error e => simp [checkRotation, bind, Except.bind]
    | ok stored =>
      have hr' : (∃ r', checkRotation cluster (some answer) (.ok stored) r = .ok r' ∧ r'.ok = true) ↔
          (askGateway (mapped cluster stored) answer r).ok = true := by
        simp [checkRotation, bind, Except.bind, pure, Except.pure]
      rw [hr', ok_askGateway hr]
      constructor
      · rintro ⟨hmapped, live, rfl, hlive⟩
        exact ⟨live, stored, rfl, rfl, hmapped, hlive⟩
      · rintro ⟨live, stored', hanswer, hstored, hmapped, hlive⟩
        cases hanswer
        cases hstored
        exact ⟨hmapped, live, rfl, hlive⟩

/-- the guard is satisfied exactly then -/
theorem check_ok : (∃ result, guardFor cluster gateway snapshots staleThreshold now = .ok result ∧ result.ok = true) ↔
    Satisfied cluster gateway snapshots staleThreshold now := by
  have hsplit : (∃ result, guardFor cluster gateway snapshots staleThreshold now = .ok result ∧ result.ok = true) ↔
      (∃ r, checkRotation cluster gateway snapshots.gateway (.init cluster) = .ok r ∧ r.ok = true) ∧
        ∃ s p, snapshots.queries = .ok (some s) ∧ s.isStale now staleThreshold = false ∧ s.payload = some p ∧
          p.summary.running = 0 := by
    rw [guardFor, check]
    cases hrotation : checkRotation cluster gateway snapshots.gateway (.init cluster) with
    | error e => simp [bind, Except.bind]
    | ok r =>
      cases hqueries : snapshots.queries with
      | error e => simp [bind, Except.bind]
      | ok found =>
        cases found with
        | none => simp [bind, Except.bind, pure, Except.pure]
        | some s => simp [bind, Except.bind, pure, Except.pure, ok_checkIdle]
  rw [hsplit, ok_checkRotation (GuardResult.ok_init cluster)]
  exact ⟨fun h => ⟨h.1, h.2⟩, fun h => ⟨h.1, h.2⟩⟩

end Satisfied

/-- a stored summary counts the rows it is stored with -/
theorem pollQueries_counted {cfg : PollerConfig} {clocks : PollClocks} {p p' : Poller} {running : Option ℤ}
    {answer : Except ClientError QueryListResult} {s : QueriesSnapshot}
    (h : pollQueries cfg clocks p running answer = .ok (s, p')) : Counted s := by
  cases answer with
  | error e =>
    cases h
    intro payload hpayload
    cases hpayload
  | ok result =>
    revert h
    suffices Returns (fun x => Counted x.1) (pollQueries cfg clocks p running (.ok result)) from this (s, p')
    refine returns_bind fun rows _ => returns_pure ?_
    intro payload hpayload
    cases hpayload
    rfl

end TrinoManagement.BenchGuard
