/-
Taking a worker out of the fleet, `tms/fleet/service.py`.

- `shutdownNode`: the checks of the request and of the collected record, and the one request to the node, audited.
- `FleetWorld`, `serveFleet`: the snapshots, and the addresses a shutdown request was sent to.
- `Requested`: what a call that sends one has checked. `shutdownNode_sends`: it sends none without it.
-/
import Mathlib.Tactic
import TrinoManagement.Api.Guard
import TrinoManagement.Fleet.Poller

namespace TrinoManagement.Fleet

open TrinoManagement.Audit TrinoManagement.Guard
open TrinoManagement.Collector (Snapshot)
open TrinoManagement.Prog (onOk)
open TrinoManagement.Service (Exn)
open TrinoManagement.Text (blank)

/-! ## Effects -/

inductive FleetAct where
  /-- `snapshots.load` -/
  | loadFleet (cluster : String)
  /-- `PUT /v1/info/state` at a node -/
  | beginShutdown (baseUrl : String)
deriving DecidableEq

@[reducible] def FleetAct.Answer : FleetAct → Type
  | .loadFleet _ => Except String (Option (Snapshot FleetPayload))
  | .beginShutdown _ => Except String Unit

abbrev FleetM (α : Type) := M FleetAct FleetAct.Answer α

/-- the clusters, and what `node_url_template` makes of an address and a host; a template may name more than these two -/
structure FleetConfig where
  clusters : List String
  nodeUrl : String → String → Except (String × String) String

/-! ## Shutting down -/

section Shutdown

variable (cfg : FleetConfig)

def clusterOr404 (cluster : String) : FleetM Unit :=
  refuse (if cluster ∈ cfg.clusters then none else some (.notFound ("Unknown cluster: " ++ cluster)))

/-- the first record of a host -/
def recordOf (snapshot : Option (Snapshot FleetPayload)) (host : String) : Option NodeRecord :=
  ((snapshot.map fun s => s.payload.nodes).getD []).find? fun r => r.host == host

def nodeOr404 (cluster host : String) : FleetM NodeRecord := do
  let snapshot ← lift (.client "Exception") (← op (.loadFleet cluster))
  match recordOf snapshot host with
  | some record => pure record
  | none => throw (.notFound (host ++ " is not in the inventory for " ++ cluster ++ ". TMS will not send a shutdown to " ++
      "a host it does not know."))

/-- `_url_for` -/
def urlFor (record : NodeRecord) : Except (String × String) String :=
  cfg.nodeUrl (if record.address = "" then record.host else record.address) record.host

/-- `base_url.rstrip("/")` -/
def baseUrl (url : String) : String := String.ofList (url.toList.rdropWhile (· == '/'))

structure Shutdown where
  host : String
  cluster : String
  accepted : Bool
  note : String
deriving DecidableEq, Repr

/-- `shutdown_node` -/
def shutdownNode (principal : Principal) (cluster host : String) (reason : Option String) : FleetM Shutdown := do
  requireAdmin principal "You do not have permission to shut down a node."
  clusterOr404 cfg cluster
  refuse (if blank (reason.getD "") then some (.invalidRequest "A reason is required to shut down a node.") else none)
  let record ← nodeOr404 cluster host
  refuse (if record.role ≠ .worker then some (.invalidRequest (host ++ " is the coordinator. Shutting it down ends the " ++
      "cluster and kills every running query — it does not drain a node. Use the restart sequence, which stops traffic " ++
      "first.")) else none)
  refuse (if record.state = .str "SHUTTING_DOWN" then some (.invalidRequest (host ++ " is already shutting down.")) else none)
  let url ← lift (fun e => .client e.1 e.2) (urlFor cfg record)
  audited principal ⟨"NODE_SHUTDOWN", "node", host, some cluster⟩ reason do
    lift .upstreamUnavailable (← op (.beginShutdown (baseUrl url)))
  pure ⟨host, cluster, true, host ++ " is draining. Trino waits one grace period, finishes its running tasks, waits " ++
    "another grace period, then exits — at least twice `shutdown.grace-period` (four minutes on the defaults). It stays " ++
    "listed until it goes."⟩

end Shutdown

/-! ## Who answers -/

/-- the latest snapshots, and where a shutdown request went -/
structure FleetWorld where
  snapshots : Dict (Snapshot FleetPayload)
  sent : List String

/-- what is outside at one effect: do the snapshots answer, and what comes back of a request -/
structure FleetWeather where
  loads : Except String Unit
  shutdown : Except String Unit

instance : Inhabited FleetWeather := ⟨⟨.ok (), .ok ()⟩⟩

/-- a request is on its way, whatever comes back of it -/
def serveFleet (o : FleetWeather) : (e : FleetAct) → FleetWorld → e.Answer × FleetWorld
  | .loadFleet cluster, w => (o.loads.map fun _ => w.snapshots.lookup cluster, w)
  | .beginShutdown url, w => (o.shutdown, { w with sent := w.sent ++ [url] })

/-! ## What is sent -/

section Sends

variable {cfg : FleetConfig} {principal : Principal} {cluster host : String} {reason : Option String} {w : FleetWorld}

/-- everything the service checks before it sends to `url` -/
structure Requested (cfg : FleetConfig) (principal : Principal) (cluster host : String) (reason : Option String)
    (snapshots : Dict (Snapshot FleetPayload)) (record : NodeRecord) (url : String) : Prop where
  can : principal.can manageHealth = true
  known : cluster ∈ cfg.clusters
  reason : blank (reason.getD "") = false
  found : recordOf (snapshots.lookup cluster) host = some record
  worker : record.role = .worker
  up : record.state ≠ .str "SHUTTING_DOWN"
  url : (urlFor cfg record).map baseUrl = .ok url

/-- what a call leaves: nothing was sent, or it was sent after every check -/
def SentOnce (cfg : FleetConfig) (principal : Principal) (cluster host : String) (reason : Option String) (w : FleetWorld)
    (_ : Except Exn Shutdown) (w' : FleetWorld) : Prop :=
  w' = w ∨ ∃ record url, Requested cfg principal cluster host reason w.snapshots record url ∧
    w' = { w with sent := w.sent ++ [url] }

theorem post_nodeOr404 {A : Oracle FleetWeather → Prop} {Q : Except Exn NodeRecord → FleetWorld → Prop}
    (hfound : ∀ record, recordOf (w.snapshots.lookup cluster) host = some record → Q (.ok record) w)
    (herror : ∀ e, (∃ o, A o ∧ o.inner.loads ≠ .ok ()) ∨ recordOf (w.snapshots.lookup cluster) host = none → Q (.error e) w) :
    Post serveFleet A (nodeOr404 cluster host) Q w := by
  refine post_bind (post_op ?_)
  intro o ho
  cases hloads : o.inner.loads with
  | error m =>
    have hanswer : (serveFleet o.inner (.loadFleet cluster) w) = (.error m, w) := by
      rw [serveFleet, hloads]
      rfl
    rw [hanswer]
    exact post_throw (herror _ (.inl ⟨o, ho, by simp [hloads]⟩))
  | ok _ =>
    have hanswer : (serveFleet o.inner (.loadFleet cluster) w) = (.ok (w.snapshots.lookup cluster), w) := by
      rw [serveFleet, hloads]
      rfl
    rw [hanswer]
    refine post_bind (post_lift ?_ ?_)
    · intro snapshot hsnapshot
      obtain rfl := Except.ok.inj hsnapshot
      dsimp only [onOk]
      cases hrecord : recordOf (w.snapshots.lookup cluster) host with
      | none => exact post_throw (herror _ (.inr hrecord))
      | some record => exact post_pure (hfound record hrecord)
    · intro e he
      cases he

/-- **Nothing is sent without every check.** -/
theorem shutdownNode_sends : Post serveFleet (fun _ => True) (shutdownNode cfg principal cluster host reason)
    (SentOnce cfg principal cluster host reason w) w := by
  refine post_bind (post_refuse ?_ fun _ _ => .inl rfl)
  intro hcan
  refine post_bind (post_refuse ?_ fun _ _ => .inl rfl)
  intro hknown
  refine post_bind (post_refuse ?_ fun _ _ => .inl rfl)
  intro hreason
  refine post_bind (post_nodeOr404 ?_ fun _ _ => .inl rfl)
  intro record hfound
  refine post_bind (post_refuse ?_ fun _ _ => .inl rfl)
  intro hworker
  refine post_bind (post_refuse ?_ fun _ _ => .inl rfl)
  intro hup
  refine post_bind (post_lift ?_ fun _ _ => .inl rfl)
  intro url hurl
  have hrequested : Requested cfg principal cluster host reason w.snapshots record (baseUrl url) := by
    refine ⟨?_, ?_, ?_, hfound, ?_, ?_, ?_⟩
    · by_contra hnot
      rw [if_neg hnot] at hcan
      cases hcan
    · by_contra hnot
      rw [if_neg hnot] at hknown
      cases hknown
    · by_contra hnot
      rw [if_pos (by simpa using hnot)] at hreason
      cases hreason
    · by_contra hnot
      rw [if_pos hnot] at hworker
      cases hworker
    · intro hnot
      rw [if_pos hnot] at hup
      cases hup
    · rw [hurl]
      rfl
  refine post_bind (post_audited (fun _ => .inl rfl) (fun _ => .inl rfl) (post_bind (post_op ?_)))
  intro o _
  refine post_lift ?_ fun _ _ => .inr ⟨record, _, hrequested, rfl⟩
  intro _ _
  exact post_pure (.inr ⟨record, _, hrequested, rfl⟩)

/-- what a call leaves that sends to `url` -/
def SentTo (url : String) (w : FleetWorld) (_ : Except Exn Shutdown) (w' : FleetWorld) : Prop :=
  w' = { w with sent := w.sent ++ [url] }

/-- and with every check it is sent, once the snapshots and the audit store are there -/
theorem shutdownNode_sent {record : NodeRecord} {url : String}
    (h : Requested cfg principal cluster host reason w.snapshots record url) :
    Post serveFleet (fun o => o.writable = true ∧ o.inner.loads = .ok ()) (shutdownNode cfg principal cluster host reason)
      (SentTo url w) w := by
  refine post_bind (post_pass (if_pos h.can) ?_)
  refine post_bind (post_pass (if_pos h.known) ?_)
  refine post_bind (post_pass (if_neg (by rw [h.reason]; decide)) ?_)
  refine post_bind (post_nodeOr404 ?_ ?_)
  · intro record' hfound
    rw [h.found] at hfound
    obtain rfl := Option.some.inj hfound
    refine post_bind (post_pass (if_neg (not_not.2 h.worker)) ?_)
    refine post_bind (post_pass (if_neg h.up) ?_)
    obtain ⟨full, hfull, hurl⟩ := map_eq_ok.1 h.url
    rw [hfull]
    refine post_bind (post_lift ?_ ?_)
    · intro full' heq
      obtain rfl := Except.ok.inj heq
      refine post_bind (post_audited ?_ ?_ (post_bind (post_op ?_)))
      · intro hnone
        have hsome := normaliseReason_isSome (reason.getD "")
        rw [hnone, h.reason] at hsome
        cases hsome
      · intro hdown
        obtain ⟨o, ho, hoff⟩ := hdown
        rw [ho.1] at hoff
        cases hoff
      · intro o _
        have hsent : (serveFleet o.inner (.beginShutdown (baseUrl full)) w).2 = { w with sent := w.sent ++ [url] } := by
          rw [← hurl]
          rfl
        refine post_lift ?_ fun _ _ => hsent
        intro _ _
        exact post_pure hsent
    · intro e he
      cases he
  · intro e he
    rcases he with hdown | hnone
    · obtain ⟨o, ho, hoff⟩ := hdown
      exact absurd ho.2 hoff
    · rw [h.found] at hnone
      cases hnone

end Sends

end TrinoManagement.Fleet
