/-
Is a coordinator ever told to shut down? The role of a machine is known twice: from the inventory, and from what the node
says of itself when it is polled.

The service goes by the inventory alone. It collects the node's own flag, and shows it, and does not look at it.
- `Spared`: a request goes to a worker of the inventory, and no record of the host says that it is the coordinator.
- `coordinator_spared`: every request does, iff the request is refused anyway or no record of the host says so.
- `alias_shut_down`: a worker's line with the coordinator's address.
-/
import Mathlib.Tactic
import TrinoManagement.Fleet.Service

namespace TrinoManagement.Fleet

open TrinoManagement.Audit TrinoManagement.Guard
open TrinoManagement.Collector (Snapshot)
open TrinoManagement.Inventory (Node)
open TrinoManagement.Service (Exn)
open TrinoManagement.Text (blank)

section Spared

variable (cfg : FleetConfig) (principal : Principal) (cluster host : String) (reason : Option String)
  (snapshots : Dict (Snapshot FleetPayload))

/-- a call, with the addresses it sends to -/
def shutdownCall (log : List Drafts.AuditEntry) (os : List (Oracle FleetWeather)) : Except Exn Shutdown × Site FleetWorld :=
  Prog.run (handle serveFleet) os (shutdownNode cfg principal cluster host reason) ⟨⟨snapshots, []⟩, log⟩

/-- where a call sends its request -/
def sentBy (log : List Drafts.AuditEntry) (os : List (Oracle FleetWeather)) : List String :=
  (shutdownCall cfg principal cluster host reason snapshots log os).2.service.sent

/-- a record of the host says that it is the coordinator -/
def ClaimsCoordinator (records : List NodeRecord) : Prop := ∃ r ∈ records, r.host = host ∧ r.coordinator = .bool true

/-- a request to a worker of the inventory, of which no record says that it is the coordinator -/
structure Spared (nodes : List Node) (records : List NodeRecord) (url : String) : Prop where
  listed : ∃ node ∈ nodes, node.host = host ∧ node.role = .worker ∧ ∃ full, baseUrl full = url ∧
    cfg.nodeUrl (if address node = "" then node.host else address node) node.host = .ok full
  silent : ¬ClaimsCoordinator host records

variable {cfg principal cluster host reason snapshots} {nodes : List Node} {answers : ℕ → Except String Value}
  {nodeCounts : List (String × Value)} {now : ℚ} {snapshot : Snapshot FleetPayload}

/-- what is sent went through the checks -/
theorem sentBy_requested {log : List Drafts.AuditEntry} {os : List (Oracle FleetWeather)} {url : String}
    (h : url ∈ sentBy cfg principal cluster host reason snapshots log os) :
    ∃ record, Requested cfg principal cluster host reason snapshots record url := by
  have hrun : SentOnce cfg principal cluster host reason ⟨snapshots, []⟩
      (shutdownCall cfg principal cluster host reason snapshots log os).1
      (shutdownCall cfg principal cluster host reason snapshots log os).2.service :=
    post_run trivial (fun _ _ => trivial) shutdownNode_sends
  rcases hrun with hsame | hsent
  · rw [sentBy, hsame] at h
    cases h
  · obtain ⟨record, url', hrequested, hsent⟩ := hsent
    rw [sentBy, hsent] at h
    obtain rfl := List.mem_singleton.1 h
    exact ⟨record, hrequested⟩

/-- the record of a request is that of a node of the inventory -/
theorem requested_listed {record : NodeRecord} {url : String}
    (htick : tick cluster nodes answers nodeCounts now = some snapshot) (hsnapshot : snapshots.lookup cluster = some snapshot)
    (h : Requested cfg principal cluster host reason snapshots record url) :
    ∃ node ∈ nodes, node.host = host ∧ node.role = .worker ∧ ∃ full, baseUrl full = url ∧
      cfg.nodeUrl (if address node = "" then node.host else address node) node.host = .ok full := by
  have hfound := h.found
  rw [hsnapshot] at hfound
  obtain ⟨i, hi, hrecord⟩ := tick_record htick (List.mem_of_find?_eq_some hfound)
  have hhost : record.host = host := by simpa using List.find?_some hfound
  obtain ⟨full, hfull, hurl⟩ := map_eq_ok.1 h.url
  have hworker := h.worker
  subst hrecord
  rw [nodeRecord_host] at hhost
  rw [nodeRecord_role] at hworker
  rw [urlFor, nodeRecord_address, nodeRecord_host] at hfull
  exact ⟨nodes[i], List.getElem_mem hi, hhost, hworker, full, hurl, hfull⟩

/-- **A coordinator is spared** by every call, whatever the weather, iff the call does not get through the checks or no
record of the host says that it is the coordinator. -/
theorem coordinator_spared (htick : tick cluster nodes answers nodeCounts now = some snapshot)
    (hsnapshot : snapshots.lookup cluster = some snapshot) :
    (∀ log os, ∀ url ∈ sentBy cfg principal cluster host reason snapshots log os,
        Spared cfg host nodes snapshot.payload.nodes url) ↔
      ¬((∃ record url, Requested cfg principal cluster host reason snapshots record url) ∧
        ClaimsCoordinator host snapshot.payload.nodes) := by
  constructor
  · intro hspared hboth
    obtain ⟨⟨record, url, hrequested⟩, hclaims⟩ := hboth
    have hsent : sentBy cfg principal cluster host reason snapshots [] [] = [url] := by
      have hrun : SentTo url ⟨snapshots, []⟩ (shutdownCall cfg principal cluster host reason snapshots [] []).1
          (shutdownCall cfg principal cluster host reason snapshots [] []).2.service :=
        post_run ⟨rfl, rfl⟩ (List.forall_mem_nil _) (shutdownNode_sent hrequested)
      rw [sentBy, hrun]
      rfl
    exact (hspared [] [] url (hsent ▸ List.mem_singleton_self url)).silent hclaims
  · intro hnot log os url hurl
    obtain ⟨record, hrequested⟩ := sentBy_requested hurl
    exact ⟨requested_listed htick hsnapshot hrequested, fun hclaims => hnot ⟨⟨record, url, hrequested⟩, hclaims⟩⟩

end Spared

/-! ## An alias -/

/-- two lines of an inventory, one machine -/
def aliased : List Node := [⟨"c1", .coordinator, "a", [("ansible_host", "10.0.0.1")]⟩,
  ⟨"w1", .worker, "a", [("ansible_host", "10.0.0.1")]⟩, ⟨"w2", .worker, "a", []⟩]

/-- what a coordinator says of itself, and what a worker says -/
def selfReport : ℕ → Except String Value
  | 2 => .ok (.dict [("state", .str "ACTIVE"), ("coordinator", .bool false)])
  | _ => .ok (.dict [("state", .str "ACTIVE"), ("coordinator", .bool true)])

/-- what is collected of them; the poller notices, and the service does not look -/
def aliasedSnapshot : Snapshot FleetPayload where
  cluster := "a"
  collectedAt := 0
  payload := ⟨aliased.mapIdx fun i node => nodeRecord node (selfReport i), ⟨3, 3, 0, 2, 0⟩, [],
    ["More than one node reports being the coordinator: c1, w1."], 3⟩
  collectionError := none
  advice := none

theorem aliased_tick : tick "a" aliased selfReport [] 0 = some aliasedSnapshot := by decide +kernel

def aliasedFleet : Dict (Snapshot FleetPayload) := [("a", aliasedSnapshot)]

def plainUrls : FleetConfig := ⟨["a"], fun address _ => .ok ("http://" ++ address ++ ":8080")⟩

theorem coordinator_spared_w2 :
    sentBy plainUrls ⟨"ops", ["admin"]⟩ "a" "w2" (some "scale down") aliasedFleet [] [] = ["http://w2:8080"] ∧
    ∀ log os, ∀ url ∈ sentBy plainUrls ⟨"ops", ["admin"]⟩ "a" "w2" (some "scale down") aliasedFleet log os,
      Spared plainUrls "w2" aliased aliasedSnapshot.payload.nodes url := by
  refine ⟨by decide +kernel, (coordinator_spared aliased_tick rfl).2 ?_⟩
  intro hboth
  obtain ⟨r, hr, hhost, hclaims⟩ := hboth.2
  revert hclaims hhost
  revert r
  decide +kernel

/-- **The coordinator's machine is told to shut down** under the name of a worker. -/
theorem alias_shut_down :
    sentBy plainUrls ⟨"ops", ["admin"]⟩ "a" "w1" (some "scale down") aliasedFleet [] [] = ["http://10.0.0.1:8080"] ∧
      tick "a" aliased selfReport [] 0 = some aliasedSnapshot ∧ ClaimsCoordinator "w1" aliasedSnapshot.payload.nodes := by
  refine ⟨?_, aliased_tick, ?_⟩
  · decide +kernel
  · refine ⟨nodeRecord aliased[1] (selfReport 1), ?_, ?_, ?_⟩ <;> decide +kernel

end TrinoManagement.Fleet
