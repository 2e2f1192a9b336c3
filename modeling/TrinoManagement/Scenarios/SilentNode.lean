/-
A node that prints nothing.

The nodes of a scan are the lines that happened to be printed, and nothing holds them against the inventory. A host that
could not be reached prints no line, so the nodes that are left may well agree.

- `accounted_iff`: a scan accounts for the hosts of its inventory exactly when each of them printed a line that can be read.
- `silent_node_agrees`: two workers, one of them silent, and a scan that agrees.
-/
import Mathlib.Tactic
import TrinoManagement.Config.ScanService

namespace TrinoManagement.ConfigScan

open TrinoManagement.Inventory (parseInventory parseInventory_isHost IsHost isHostChar)
open TrinoManagement.Playbook

/-- the hosts of an inventory -/
def hostsOf (letters : Inventory.Letters) (text cluster : String) : List String :=
  (parseInventory letters text cluster).map (·.host)

/-- a host prints no second line of its own -/
def PrintsOnce (py : Python) (hosts lines : List String) : Prop :=
  ∀ host ∈ hosts, ((lines.filterMap (readable py)).filter (·.name == host)).length ≤ 1

/-- no host is silently missing from what `get` shows of an output -/
structure Accounted (py : Python) (hosts lines : List String) (view : View) : Prop where
  agree : view.compared.agree = true → ∀ host ∈ hosts, ∃ n, view.compared.nodes.filter (·.host == host) = [n] ∧ n.read = true
  silent : ∀ host ∈ hosts, (∀ raw ∈ lines.filterMap (readable py), raw.name ≠ host) →
    ∃ n ∈ view.compared.nodes, n.host = host ∧ n.read = false

theorem ne_question {host : String} (h : IsHost host) : host ≠ "?" := by
  rintro rfl
  have := h.2 '?' (by decide)
  revert this
  decide

/-- **A scan accounts for its inventory** exactly when every host of it printed a line that can be read. -/
theorem accounted_iff {py : Python} {letters : Inventory.Letters} {text cluster : String} {development lines : List String}
    {result : Except String RunResult} {payload : Payload} {s : Scans} (hcluster : cluster ∉ development)
    (honce : PrintsOnce py (hostsOf letters text cluster) lines) (hstored : readOutput py result lines = .ok payload) :
    Accounted py (hostsOf letters text cluster) lines (get development cluster (scanNow py true cluster result lines s)) ↔
      ∀ host ∈ hostsOf letters text cluster, ∃ raw ∈ lines.filterMap (readable py), raw.name = host := by
  -- what is stored is compared as it is
  obtain ⟨nodes, hnodes, hpayload⟩ : ∃ nodes, parseScan py lines = .ok nodes ∧ payload.nodes = nodes := by
    unfold readOutput at hstored
    cases hparse : parseScan py lines with
    | error e => rw [hparse] at hstored; cases hstored
    | ok nodes =>
      rw [hparse] at hstored
      obtain rfl := Except.ok.inj hstored
      exact ⟨nodes, rfl, rfl⟩
  have hget : (get development cluster (scanNow py true cluster result lines s)).compared = compare nodes false := by
    simp [get, scanNow, hstored, hpayload, hcluster]
  have hname : ∀ host ∈ hostsOf letters text cluster, host ≠ "?" := by
    intro host hhost
    obtain ⟨n, hn, rfl⟩ := List.mem_map.1 hhost
    exact ne_question (parseInventory_isHost hn)
  have hfilter : ∀ host ∈ hostsOf letters text cluster, nodes.filter (·.host == host) =
      ((lines.filterMap (readable py)).filter (·.name == host)).map (node py) := fun host hhost =>
    filter_parseScan hnodes (hname host hhost)
  constructor
  · intro h host hhost
    by_contra hnone
    have hsilent : ∀ raw ∈ lines.filterMap (readable py), raw.name ≠ host := fun raw hraw heq => hnone ⟨raw, hraw, heq⟩
    obtain ⟨n, hn, hnhost, -⟩ := h.silent host hhost hsilent
    rw [hget] at hn
    -- a node of that name has a line of that name
    have hmem : n ∈ nodes.filter (·.host == host) := List.mem_filter.2 ⟨hn, by simpa using hnhost⟩
    rw [hfilter host hhost] at hmem
    obtain ⟨raw, hraw, -⟩ := List.mem_map.1 hmem
    obtain ⟨hraw, heq⟩ := List.mem_filter.1 hraw
    exact hsilent raw hraw (by simpa using heq)
  · intro h
    refine ⟨fun hagree host hhost => ?_, fun host hhost hsilent => ?_⟩
    · rw [hget] at hagree ⊢
      obtain ⟨raw, hraw, hrawname⟩ := h host hhost
      have hmem : raw ∈ (lines.filterMap (readable py)).filter (·.name == host) :=
        List.mem_filter.2 ⟨hraw, by simpa using hrawname⟩
      have hone : (lines.filterMap (readable py)).filter (·.name == host) = [raw] := by
        obtain ⟨only, honly⟩ := List.length_eq_one_iff.1 (le_antisymm (honce host hhost) (List.length_pos_of_mem hmem))
        rw [honly] at hmem ⊢
        rw [List.mem_singleton.1 hmem]
      refine ⟨node py raw, ?_, agree_read hagree _ ?_⟩
      · change nodes.filter (·.host == host) = _
        rw [hfilter host hhost, hone]
        rfl
      · have hin : node py raw ∈ nodes.filter (·.host == host) := by
          rw [hfilter host hhost, hone]
          exact List.mem_singleton_self _
        exact (List.mem_filter.1 hin).1
    · obtain ⟨raw, hraw, hrawname⟩ := h host hhost
      exact absurd hrawname (hsilent raw hraw)

namespace Sample

/-- the object that a worker prints -/
def object (host : String) : String := "\x7b\"host\": \"" ++ host ++ "\", \"role\": \"worker\"\x7d"

/-- `json.loads` of the objects of w1 and w2 -/
def python : Python where
  loads text := if text = object "w1" then .ok ⟨some "w1", some "worker", none, none, [], [], []⟩
    else if text = object "w2" then .ok ⟨some "w2", some "worker", none, none, [], [], []⟩
    else .error (.unreadable "Expecting value: line 1 column 1 (char 0)")
  checksum := id
  b64decode _ := none

def letters : Inventory.Letters := ⟨id, fun c => c.isLower || c.isUpper || c.isDigit || c == '_'⟩

/-- what a scan prints that these hosts answer: a line of each, and the recap -/
def lines (hosts : List String) : List String := hosts.map ("TMS-CONFIG-SCAN " ++ object ·) ++ ["PLAY RECAP"]

def scans : Scans := ⟨fun _ => none, fun _ => false⟩

/-- two workers -/
def inventory : List String := hostsOf letters "[workers]\nw1\nw2" "prod-a"

/-- what `get` shows after a run that these hosts answer and that exits `rc` -/
def shown (hosts : List String) (rc : ℤ) : View :=
  get [] "prod-a" (scanNow python true "prod-a" (.ok ⟨some rc, none, false⟩) (lines hosts) scans)

end Sample

/-- two workers, and both printed their lines -/
theorem both_nodes_accounted :
    Accounted Sample.python Sample.inventory (Sample.lines ["w1", "w2"]) (Sample.shown ["w1", "w2"] 0) := by
  have hstored : readOutput Sample.python (.ok ⟨some 0, none, false⟩) (Sample.lines ["w1", "w2"]) =
      .ok ⟨[⟨"w1", "worker", true, none, [], [], []⟩, ⟨"w2", "worker", true, none, [], [], []⟩], none, some 0⟩ := by
    decide +kernel
  refine (accounted_iff (by simp) ?_ hstored).2 ?_
  · change PrintsOnce Sample.python Sample.inventory (Sample.lines ["w1", "w2"])
    unfold PrintsOnce
    decide +kernel
  · change ∀ host ∈ Sample.inventory, _
    decide +kernel

/-- **The scan agrees and w2 is not in it**: the exit code says 4, the comparison nothing. -/
theorem silent_node_agrees : (Sample.shown ["w1"] 4).compared.agree = true ∧ (Sample.shown ["w1"] 4).exitCode = some 4 ∧
    Sample.inventory = ["w1", "w2"] ∧
    ¬ Accounted Sample.python Sample.inventory (Sample.lines ["w1"]) (Sample.shown ["w1"] 4) := by
  have hhosts : Sample.inventory = ["w1", "w2"] := by decide +kernel
  have hagree : (Sample.shown ["w1"] 4).compared.agree = true := by decide +kernel
  refine ⟨hagree, by decide +kernel, hhosts, fun h => ?_⟩
  obtain ⟨n, hn, -⟩ := h.agree hagree "w2" (by rw [hhosts]; simp)
  have hnone : (Sample.shown ["w1"] 4).compared.nodes.filter (·.host == "w2") = [] := by decide +kernel
  rw [hnone] at hn
  cases hn

end TrinoManagement.ConfigScan
