/-
Gateway polling, `tms/collector/gateway_poller.py`: one snapshot for the whole Gateway, its backends joined with the
clusters TMS monitors.

- `matchBackend`: by URL first, then by name; of two clusters with one key the later one wins, as in the two dicts.
- `joinBackends`: the stored payload. Which cluster a backend maps to never depends on whether it is active
  (`clusterOf_setActive`), so switching a backend leaves the join's mapping alone (`mapping_setActive`).

`str.lower` is a parameter; nothing below depends on what it does.
-/
import Mathlib.Data.List.DropRight
import Mathlib.Data.List.Sort
import Mathlib.Tactic
import TrinoManagement.Collector.Snapshot

namespace TrinoManagement.Collector

/-- one entry of the Gateway's backend list -/
structure Backend where
  name : String
  proxyTo : Option String
  externalUrl : Option String
  routingGroup : Option String
  active : Bool
deriving DecidableEq, Repr

/-- a configured TMS cluster, the fields read here and by the restart service -/
structure ClusterConfig where
  name : String
  coordinatorUrl : String
  nodeEnvironment : String
deriving DecidableEq, Repr

inductive MatchedBy where
  | url | name
deriving DecidableEq, Repr

/-- one row of the stored payload -/
structure BackendRow where
  name : String
  proxyTo : Option String
  externalUrl : Option String
  routingGroup : String
  active : Bool
  cluster : Option String
  matchedBy : Option MatchedBy
deriving DecidableEq, Repr

structure Group where
  name : String
  backends : List BackendRow
  active : ℕ
  total : ℕ
deriving DecidableEq, Repr

structure GatewayPayload where
  backends : List BackendRow
  groups : List Group
  unmonitoredBackends : List String
  unroutedClusters : List String
  inactiveBackends : List String
deriving DecidableEq, Repr

/-- the snapshot stored under the scope `*`; a failed poll has the payload `{}` -/
abbrev GatewaySnapshot := Snapshot (Option GatewayPayload)

def gatewayScope : String := "*"

section Join

variable (lower : String → String) (clusters : List ClusterConfig)

/-- `str.rstrip("/")` -/
def rstripSlash (s : String) : String := String.ofList (s.toList.rdropWhile (· == '/'))

/-- `_normalise` -/
def normalise (url : Option String) : String := lower (rstripSlash (url.getD ""))

/-- a dict filled in order: a later cluster with the same key replaces an earlier one -/
def lookupLast (key : ClusterConfig → String) (k : String) : Option String :=
  (clusters.reverse.find? fun c => key c == k).map (·.name)

/-- the matched cluster, and how; an empty cluster name is not a match to report -/
def matchBackend (name : String) (proxyTo : Option String) : Option String × Option MatchedBy :=
  match lookupLast clusters (fun c => normalise lower (some c.coordinatorUrl)) (normalise lower proxyTo) with
  | some c => (some c, if c ≠ "" then some .url else none)
  | none =>
    match lookupLast clusters (fun c => lower c.name) (lower name) with
    | some c => (some c, if c ≠ "" then some .name else none)
    | none => (none, none)

def clusterOf (b : Backend) : Option String := (matchBackend lower clusters b.name b.proxyTo).1

def joinRow (b : Backend) : BackendRow :=
  let m := matchBackend lower clusters b.name b.proxyTo
  ⟨b.name, b.proxyTo, b.externalUrl, b.routingGroup.getD "", b.active, m.1, m.2⟩

/-- the rows by routing group, in the order of the group names -/
def groupRows (rows : List BackendRow) : List Group :=
  ((rows.map (·.routingGroup)).dedup.insertionSort (· ≤ ·)).map fun name =>
    let members := rows.filter (·.routingGroup == name)
    ⟨if name ≠ "" then name else "(none)", members, members.countP (·.active), members.length⟩

def joinBackends (backends : List Backend) : GatewayPayload :=
  let rows := backends.map (joinRow lower clusters)
  let matched := (rows.filterMap (·.cluster)).filter (· ≠ "")
  { backends := rows
    groups := groupRows rows
    unmonitoredBackends := (rows.filter (·.cluster.isNone)).map (·.name)
    unroutedClusters := (clusters.map (·.name)).filter (· ∉ matched)
    inactiveBackends := (rows.filter (!·.active)).map (·.name) }

/-- `GatewayPoller.poll`: the client's answer, or the text and the advice of its exception -/
def pollGateway (now : ℚ) : Except (String × Option String) (List Backend) → GatewaySnapshot
  | .ok backends => ⟨gatewayScope, now, some (joinBackends lower clusters backends), none, none⟩
  | .error (text, advice) => ⟨gatewayScope, now, none, some text, advice⟩

/-! ## Switching a backend -/

/-- the Gateway's activate and deactivate endpoints, by backend name -/
def setActive (name : String) (active : Bool) (backends : List Backend) : List Backend :=
  backends.map fun b => if b.name = name then { b with active := active } else b

@[simp] theorem joinRow_name (b : Backend) : (joinRow lower clusters b).name = b.name := rfl

@[simp] theorem joinRow_cluster (b : Backend) : (joinRow lower clusters b).cluster = clusterOf lower clusters b := rfl

theorem clusterOf_setActive (b : Backend) (active : Bool) :
    clusterOf lower clusters { b with active := active } = clusterOf lower clusters b := rfl

theorem mem_setActive {name : String} {active : Bool} {backends : List Backend} {b : Backend} :
    b ∈ setActive name active backends ↔
      (b ∈ backends ∧ b.name ≠ name) ∨ ∃ b₀ ∈ backends, b₀.name = name ∧ b = { b₀ with active := active } := by
  simp only [setActive, List.mem_map]
  constructor
  · rintro ⟨b₀, hb₀, rfl⟩
    split_ifs with h
    · exact .inr ⟨b₀, hb₀, h, rfl⟩
    · exact .inl ⟨hb₀, h⟩
  · rintro (⟨hb, h⟩ | ⟨b₀, hb₀, h, rfl⟩)
    · exact ⟨b, hb, if_neg h⟩
    · exact ⟨b₀, hb₀, if_pos h⟩

/-- the names and clusters behind the join, all that the restart service reads of it -/
def mapping (backends : List Backend) : List (String × Option String) :=
  backends.map fun b => (b.name, clusterOf lower clusters b)

theorem mapping_setActive (name : String) (active : Bool) (backends : List Backend) :
    mapping lower clusters (setActive name active backends) = mapping lower clusters backends := by
  simp only [mapping, setActive, List.map_map]
  refine List.map_congr_left ?_
  intro b _
  simp only [Function.comp_apply]
  split_ifs <;> rfl

end Join

end TrinoManagement.Collector
