/-
What H-08 says of a cluster, and what the Gateway said before: the ticks of `GatewayPoller`
(`tms/collector/gateway_poller.py`), `_gateway_backends` of `tms/collector/main.py`, and the verdict of `tms/health/tests.py`.

A list that could not be read is not an empty one. It makes H-08 UNKNOWN, never BAD.
- `next`: a poll that could be stored replaces the snapshot. `lastStored`: the answer of the last of these.
- `gatewayEntry_rows`: H-08 looks for the first backend that the poll joined to the cluster.
- `verdict_seen`: the verdict, after every sequence of polls.
-/
import Mathlib.Tactic
import TrinoManagement.Collector.GatewayPoller
import TrinoManagement.Core.Run
import TrinoManagement.Health.Tests

namespace TrinoManagement.Routing

open TrinoManagement.Collector
open TrinoManagement.Health
open TrinoManagement.Run (run run_snoc)

/-! ## What is stored -/

/-- the Gateway's backends, or the text and the advice of an error -/
abbrev Heard := Except (String × Option String) (List Backend)

/-- a tick that is due: what the Gateway answers, and whether the snapshot could be stored -/
structure Poll where
  heard : Heard
  now : ℚ
  saved : Bool

/-- a text, or `None` -/
def orNone (text : Option String) : Value := text.elim .none .str

def matchedText : MatchedBy → String
  | .url => "url"
  | .name => "name"

/-- a row of `join_backends`, as JSON -/
def rowValue (row : BackendRow) : Value :=
  .dict [("name", .str row.name), ("proxy_to", orNone row.proxyTo), ("external_url", orNone row.externalUrl),
    ("routing_group", .str row.routingGroup), ("active", .bool row.active), ("cluster", orNone row.cluster),
    ("matched_by", orNone (row.matchedBy.map matchedText))]

section Model

variable (lower : String → String) (clusters : List ClusterConfig)

/-- the stored snapshot after one more `tick`; one that cannot be stored is logged -/
def next (stored : Option GatewaySnapshot) (poll : Poll) : Option GatewaySnapshot :=
  if poll.saved then some (pollGateway lower clusters poll.now poll.heard) else stored

/-- `_gateway_backends`; the store may fail to answer -/
def gatewayBackends (loaded : Except Unit (Option GatewaySnapshot)) : Option (List Value) :=
  match loaded with
  | .error _ => none
  | .ok none => none
  | .ok (some snapshot) =>
    if snapshot.collectionError.any (· ≠ "") then none
    else snapshot.payload.map fun payload => payload.backends.map rowValue

/-- the verdict on the cluster of a context -/
def verdict (ctx : HealthContext) (loaded : Except Unit (Option GatewaySnapshot)) : Except PyError HealthResult :=
  h08GatewayRegistration { ctx with gatewayBackends := gatewayBackends loaded }

end Model

/-! ## What was heard -/

/-- what the last poll heard that could be stored -/
def lastStored (polls : List Poll) : Option Heard := ((polls.filter (·.saved)).map (·.heard)).getLast?

/-- the list the store has, if it answers -/
def listSeen (readable : Bool) (polls : List Poll) : Option (List Backend) :=
  if readable then (lastStored polls).bind Except.toOption else none

/-- what H-08 says on a list, or on none -/
inductive Says (registered : Backend → Prop) : Option (List Backend) → State → Prop where
  | unread : Says registered none .unknown
  | unregistered (backends : List Backend) (h : ∀ b ∈ backends, ¬ registered b) : Says registered (some backends) .bad
  /-- the first that is joined to the cluster decides -/
  | registered (before : List Backend) (b : Backend) (after : List Backend) (hfirst : ∀ b' ∈ before, ¬ registered b')
      (hb : registered b) : Says registered (some (before ++ b :: after)) (if b.active then .good else .concerning)

section Verdict

variable {lower : String → String} {clusters : List ClusterConfig} {ctx : HealthContext} {polls : List Poll}
  {backends : List Backend} {b : Backend}

theorem stored_run : (run (next lower clusters) none polls = none ∧ lastStored polls = none) ∨
    ∃ now heard, run (next lower clusters) none polls = some (pollGateway lower clusters now heard) ∧
      lastStored polls = some heard := by
  induction polls using List.reverseRecOn with
  | nil => exact .inl ⟨rfl, rfl⟩
  | append_singleton polls poll ih =>
    rw [run_snoc, next, lastStored, List.filter_append]
    cases hsaved : poll.saved with
    | true =>
      refine .inr ⟨poll.now, poll.heard, rfl, ?_⟩
      simp [hsaved]
    | false => simpa [hsaved, lastStored] using ih

/-- a row is the cluster's if the poll joined its backend to it -/
theorem isEntry_row : ((rowValue (joinRow lower clusters b)).isDict &&
    (decide ((rowValue (joinRow lower clusters b)).get "cluster" = .str ctx.clusterName) ||
      (!(rowValue (joinRow lower clusters b)).has "cluster" &&
        decide ((rowValue (joinRow lower clusters b)).get "name" = .str ctx.clusterName)))) =
    decide (clusterOf lower clusters b = some ctx.clusterName) := by
  have hhas : (rowValue (joinRow lower clusters b)).has "cluster" = true := rfl
  have hget : (rowValue (joinRow lower clusters b)).get "cluster" = orNone (clusterOf lower clusters b) := rfl
  rw [hhas, hget]
  cases clusterOf lower clusters b with
  | none => simp [orNone, rowValue, Value.isDict]
  | some name => simp [orNone, rowValue, Value.isDict]

theorem gatewayEntry_rows : gatewayEntry ctx (backends.map fun b => rowValue (joinRow lower clusters b)) =
    (backends.find? fun b => clusterOf lower clusters b = some ctx.clusterName).map
      fun b => rowValue (joinRow lower clusters b) := by
  rw [gatewayEntry, List.find?_map]
  congr 2
  funext b
  exact isEntry_row

/-- a failed poll leaves no list -/
theorem gatewayBackends_failed {snapshot : GatewaySnapshot} (h : snapshot.payload = none) :
    gatewayBackends (.ok (some snapshot)) = none := by
  rw [gatewayBackends, h]
  exact ite_self _

theorem verdict_unread {loaded : Except Unit (Option GatewaySnapshot)} (h : gatewayBackends loaded = none) :
    ∃ result, verdict ctx loaded = .ok result ∧ result.state = .unknown := by
  rw [verdict, h]
  exact ⟨_, rfl, rfl⟩

theorem verdict_list {loaded : Except Unit (Option GatewaySnapshot)}
    (h : gatewayBackends loaded = some (backends.map fun b => rowValue (joinRow lower clusters b))) :
    ∃ result, verdict ctx loaded = .ok result ∧
      Says (fun b => clusterOf lower clusters b = some ctx.clusterName) (some backends) result.state := by
  refine ⟨_, rfl, ?_⟩
  have hentry := @gatewayEntry_rows lower clusters { ctx with gatewayBackends := gatewayBackends loaded } backends
  simp only [h] at hentry ⊢
  rw [hentry]
  cases hfind : backends.find? fun b => clusterOf lower clusters b = some ctx.clusterName with
  | none =>
    have hnone := List.find?_eq_none.1 hfind
    exact .unregistered backends fun b hb => of_decide_eq_false (Bool.eq_false_iff.2 (hnone b hb))
  | some b =>
    obtain ⟨hb, before, after, rfl, hfirst⟩ := List.find?_eq_some_iff_append.1 hfind
    have hactive : ((rowValue (joinRow lower clusters b)).get "active").truthy = b.active := rfl
    simp only [Option.map_some, hactive]
    have hsays : Says (fun b => clusterOf lower clusters b = some ctx.clusterName) (some (before ++ b :: after))
        (if b.active then .good else .concerning) :=
      .registered before b after (fun b' hb' => by simpa using hfirst b' hb') (of_decide_eq_true hb)
    cases hon : b.active <;> simpa [hon] using hsays

end Verdict

/-- **The verdict is on what the Gateway said.** After every sequence of polls, whatever the Gateway answered to each and
whichever of them could be stored, H-08 goes by the answer of the last poll that was stored. BAD means that this was a list
and none of its backends is joined to the cluster; the first one that is decides between GOOD and CONCERNING. Without a
list, because nothing is stored, the poll failed or the store does not answer, it is UNKNOWN. -/
theorem verdict_seen (lower : String → String) (clusters : List ClusterConfig) (ctx : HealthContext) (polls : List Poll)
    (readable : Bool) : ∃ result,
      verdict ctx (if readable then .ok (run (next lower clusters) none polls) else .error ()) = .ok result ∧
      Says (fun b => clusterOf lower clusters b = some ctx.clusterName) (listSeen readable polls) result.state := by
  have hunread : ∀ loaded, gatewayBackends loaded = none → ∃ result, verdict ctx loaded = .ok result ∧
      Says (fun b => clusterOf lower clusters b = some ctx.clusterName) none result.state := by
    intro loaded h
    obtain ⟨result, hresult, hstate⟩ := @verdict_unread ctx loaded h
    exact ⟨result, hresult, hstate ▸ .unread⟩
  cases readable with
  | false => exact hunread _ rfl
  | true =>
    rcases @stored_run lower clusters polls with ⟨hrun, hlast⟩ | ⟨now, heard, hrun, hlast⟩
    · rw [listSeen, if_pos rfl, if_pos rfl, hrun, hlast]
      exact hunread _ rfl
    · rw [listSeen, if_pos rfl, if_pos rfl, hrun, hlast]
      cases heard with
      | error e =>
        exact hunread _ (gatewayBackends_failed rfl)
      | ok backends =>
        refine verdict_list ?_
        simp only [gatewayBackends, pollGateway, joinBackends, Option.any_none, Option.map_some, List.map_map]
        rfl

section Sample

def plainClusters : List ClusterConfig := [⟨"prod-a", "https://a:8443", ""⟩, ⟨"prod-b", "https://b:8443", ""⟩]

/-- what H-08 says of a cluster after some polls -/
def stateAfter (cluster : String) (polls : List Poll) : Option State :=
  (verdict ⟨cluster, 0, .none, none, none, none, false, none, none⟩
    (.ok (run (next id plainClusters) none polls))).toOption.map HealthResult.state

def onlyA : Poll := ⟨.ok [⟨"trino-prod-a-1", some "https://a:8443/", none, none, true⟩], 0, true⟩

/-- a failed poll is no evidence against a cluster, a list without it is -/
example : stateAfter "prod-a" [onlyA] = some .good ∧ stateAfter "prod-b" [onlyA] = some .bad ∧
    stateAfter "prod-b" [onlyA, ⟨.error ("TrinoUnavailable: timed out", none), 30, true⟩] = some .unknown := by
  decide +kernel

end Sample

end TrinoManagement.Routing
