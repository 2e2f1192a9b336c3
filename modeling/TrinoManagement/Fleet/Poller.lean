/-
What is known of a fleet: `tms/collector/fleet_poller.py`, which joins the inventory with what each node says of itself.

- `nodeRecord`: one node, with or without its own `/v1/info`.
- `disagreements`: what the records do not agree on. Versions that are no texts may raise a TypeError, and nothing is stored.
- `tick`: the snapshot of one poll. `tick_record`: its records are those of the inventory's nodes, in order.
-/
import Mathlib.Tactic
import TrinoManagement.Collector.Snapshot
import TrinoManagement.Config.Inventory

namespace TrinoManagement.Fleet

open TrinoManagement.Collector (Snapshot)
open TrinoManagement.Inventory (Node NodeRole)

/-! ## Records -/

/-- `Node.address`: `ansible_host` wins -/
def address (node : Node) : String :=
  match node.vars.lookup "ansible_host" with
  | some a => if a = "" then node.host else a
  | none => node.host

/-- a row of the fleet screen -/
structure NodeRecord where
  host : String
  address : String
  role : NodeRole
  cluster : String
  reachable : Bool
  error : Option String
  nodeId : Value
  state : Value
  version : Value
  environment : Value
  uptime : Value
  coordinator : Value
  starting : Value
deriving DecidableEq

/-- `nodeVersion` is an object in Trino, and a text elsewhere -/
def versionOf (version : Value) : Value := if version.isDict then version.get "version" else version

/-- `_node_record`; a node that did not answer leaves no guess -/
def nodeRecord (node : Node) : Except String Value → NodeRecord
  | .error e =>
    ⟨node.host, address node, node.role, node.cluster, false, some e, .none, .none, .none, .none, .none, .none, .none⟩
  | .ok info =>
    ⟨node.host, address node, node.role, node.cluster, true, none, info.get "nodeId", info.get "state",
      versionOf (info.get "nodeVersion"), info.get "environment", info.get "uptime", info.get "coordinator",
      info.get "starting"⟩

/-! ## Notes -/

/-- a number as Python compares it; a bool is one -/
def numberOf : Value → Option ℚ
  | .bool b => some (if b then 1 else 0)
  | .int n => some n
  | .float q => some q
  | _ => none

/-- one element of a set -/
def sameElement (v w : Value) : Bool := v = w || (numberOf v).isSome && numberOf v = numberOf w

def isText : Value → Bool
  | .str _ => true
  | _ => false

def hashable : Value → Bool
  | .list _ | .dict _ => false
  | _ => true

/-- the texts of `sorted({v for v in values if v})`. `none` is a TypeError: a list or an object has no hash, and where there
is more than one value the others are not sorted beside texts, or not joined. -/
def sortedTexts (values : List Value) : Option (List String) :=
  let given := values.filter (·.truthy)
  if given.all isText then
    some ((given.filterMap fun v => match v with
      | .str s => some s
      | _ => none).dedup.insertionSort (· ≤ ·))
  else if given.all hashable && given.all fun v => given.all (sameElement v) then some []
  else none

/-- `_disagreements` -/
def disagreements (records : List NodeRecord) : Option (List String) := do
  let live := records.filter (·.reachable)
  let versions ← sortedTexts (live.map (·.version))
  let environments ← sortedTexts (live.map (·.environment))
  let claimed := live.filter (·.coordinator.truthy)
  pure <| (if 1 < versions.length then ["Mixed Trino versions in this cluster: " ++ ", ".intercalate versions ++ "."] else []) ++
  (if 1 < environments.length then ["Nodes disagree about node.environment (" ++ ", ".intercalate environments ++
    "). Nodes in different environments do not join the same cluster."] else []) ++
  (if 1 < claimed.length then ["More than one node reports being the coordinator: " ++
    ", ".intercalate ((claimed.map (·.host)).insertionSort (· ≤ ·)) ++ "."] else []) ++
  ((records.filter fun r => r.role = .coordinator ∧ r.reachable ∧ r.coordinator = .bool false).map fun r =>
    r.host ++ " is listed as the coordinator in the inventory but reports that it is a worker.")

/-! ## One poll -/

structure FleetSummary where
  total : ℕ
  reachable : ℕ
  unreachable : ℕ
  workers : ℕ
  shuttingDown : ℕ
deriving DecidableEq, Repr

structure FleetPayload where
  nodes : List NodeRecord
  summary : FleetSummary
  nodeCounts : List (String × Value)
  notes : List String
  inventorySize : ℕ
deriving DecidableEq

/-- `FleetPoller.tick`; `answers i` is what the node in place `i` says of itself -/
def tick (cluster : String) (nodes : List Node) (answers : ℕ → Except String Value) (nodeCounts : List (String × Value))
    (now : ℚ) : Option (Snapshot FleetPayload) := do
  let records := nodes.mapIdx fun i node => nodeRecord node (answers i)
  let reachable := records.filter (·.reachable)
  let summary : FleetSummary :=
    ⟨records.length, reachable.length, records.length - reachable.length,
      records.countP fun r => r.role = .worker, reachable.countP fun r => r.state = .str "SHUTTING_DOWN"⟩
  let failure : Option (String × String) := if nodes = [] then
      some ("No nodes in the inventory for this cluster.", "Check fleet.inventories - TMS reads the [coordinator] and " ++
        "[workers] sections of the Ansible inventory file.")
    else none
  let notes ← disagreements records
  pure ⟨cluster, now, ⟨records, summary, nodeCounts, notes, nodes.length⟩, failure.map Prod.fst, failure.map Prod.snd⟩

section Tick

variable {cluster : String} {nodes : List Node} {answers : ℕ → Except String Value} {nodeCounts : List (String × Value)}
  {now : ℚ} {snapshot : Snapshot FleetPayload}

/-- **Every record is a node of the inventory**, with the role it has there. -/
theorem tick_record (htick : tick cluster nodes answers nodeCounts now = some snapshot) {record : NodeRecord}
    (h : record ∈ snapshot.payload.nodes) : ∃ i, ∃ hi : i < nodes.length, record = nodeRecord nodes[i] (answers i) := by
  obtain ⟨notes, -, hsnapshot⟩ := Option.bind_eq_some_iff.1 htick
  obtain rfl := Option.some.inj hsnapshot
  obtain ⟨i, hi, rfl⟩ := List.mem_mapIdx.1 h
  exact ⟨i, hi, rfl⟩

@[simp] theorem nodeRecord_role (node : Node) (answer : Except String Value) : (nodeRecord node answer).role = node.role := by
  cases answer <;> rfl

@[simp] theorem nodeRecord_host (node : Node) (answer : Except String Value) : (nodeRecord node answer).host = node.host := by
  cases answer <;> rfl

@[simp] theorem nodeRecord_address (node : Node) (answer : Except String Value) :
    (nodeRecord node answer).address = address node := by
  cases answer <;> rfl

end Tick

end TrinoManagement.Fleet
