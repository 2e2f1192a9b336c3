/-
Which inventory node failed to join discovery: `compare` of `tms/fleet/discovery.py`.

The reported rows go through a dict keyed by host, and an inventory node through a set of the at most two hosts it may be
known by, of which the first hit counts.
- `mem_joinedHosts`, `keys_joinedHosts`: each reported host with one of its rows, and no host twice.
- `hit_eq_none`: no hit means that none of the node's hosts is reported.
- `compare_eq_ok`: it returns exactly if every URI can be split.
-/
import Mathlib.Tactic
import TrinoManagement.Fleet.Nodes

namespace TrinoManagement.Discovery

open TrinoManagement.Nodes (Library hostOf)

/-- what `compare` returns -/
structure Discovered where
  unjoined : List Value
  unexpected : List Value
  joinedCount : ℕ
  inventoryCount : ℕ
deriving DecidableEq

/-! ## The comparison -/

/-- `joined_hosts`: the last row of each host -/
def joinedHosts (rows : List (String × Value)) : Dict Value := Dict.ofPairs (rows.filter (·.1 ≠ ""))

/-- `next((h for h in candidates if h in joined_hosts), None)` -/
def hit (reported : Dict Value) (candidates : List String) : Option String := candidates.find? (· ∈ reported.keys)

/-- the inventory held against the rows, once the hosts of both are known -/
def lineUp (rows : List (String × Value)) (nodes : List (List String × Value)) : Discovered :=
  let reported := joinedHosts rows
  let matched := nodes.filterMap fun n => hit reported n.1
  { unjoined := (nodes.filter fun n => (hit reported n.1).isNone).map (·.2)
    unexpected := ((reported.insertionSort fun p q => p.1 ≤ q.1).filter (·.1 ∉ matched)).map (·.2)
    joinedCount := reported.length
    inventoryCount := nodes.length }

section Compare

variable (lib : Library)

def rowHost (row : Value) : Except String String := hostOf lib (row.get "http_uri")

/-- the set of a node's hosts, in the order Python goes through it; `addressFirst` is that order for two different texts -/
def candidates (addressFirst : String → String → Bool) (node : Value) : Except String (List String) := do
  let address ← hostOf lib (node.get "address")
  let host ← hostOf lib (node.get "host")
  let both := if address = host then [host] else if addressFirst address host then [address, host] else [host, address]
  pure (both.filter (· ≠ ""))

def compare (addressFirst : String → String → Bool) (inventory joined : List Value) : Except String Discovered := do
  let rows ← joined.mapM fun row => (rowHost lib row).map (·, row)
  let nodes ← inventory.mapM fun node => (candidates lib addressFirst node).map (·, node)
  pure (lineUp rows nodes)

end Compare

/-! ## Reported hosts -/

section Reported

variable {rows : List (String × Value)} {nodes : List (List String × Value)} {host : String} {row : Value}
  {names : List String}

theorem keys_joinedHosts : (joinedHosts rows).keys.Nodup := Dict.nodup_ofPairs _

theorem mem_joinedHosts (h : (host, row) ∈ joinedHosts rows) : (host, row) ∈ rows ∧ host ≠ "" := by
  have hlookup := Dict.lookup_of_mem keys_joinedHosts h
  rw [joinedHosts, Dict.lookup_ofPairs] at hlookup
  have hmem := List.mem_filter.1 (List.mem_reverse.1 (Assoc.mem_of_lookup hlookup))
  exact ⟨hmem.1, by simpa using hmem.2⟩

/-- the row that stays is one of the host's -/
theorem exists_mem_joinedHosts (h : (host, row) ∈ rows) (hne : host ≠ "") : ∃ row', (host, row') ∈ joinedHosts rows := by
  have hmem : (host, row) ∈ (rows.filter (·.1 ≠ "")).reverse :=
    List.mem_reverse.2 (List.mem_filter.2 ⟨h, by simpa using hne⟩)
  cases hlookup : (joinedHosts rows).lookup host with
  | some row' => exact ⟨row', Dict.mem_of_lookup hlookup⟩
  | none =>
    rw [joinedHosts, Dict.lookup_ofPairs, Assoc.lookup_eq_none] at hlookup
    exact absurd (List.mem_map_of_mem hmem) hlookup

theorem mem_keys_joinedHosts : host ∈ (joinedHosts rows).keys ↔ host ≠ "" ∧ ∃ row, (host, row) ∈ rows := by
  constructor
  · intro h
    obtain ⟨⟨key, row⟩, hmem, rfl⟩ := List.mem_map.1 h
    exact ⟨(mem_joinedHosts hmem).2, row, (mem_joinedHosts hmem).1⟩
  · rintro ⟨hne, row, hrow⟩
    obtain ⟨row', hrow'⟩ := exists_mem_joinedHosts hrow hne
    exact List.mem_map_of_mem hrow'

theorem hit_eq_none : hit (joinedHosts rows) names = none ↔ ∀ name ∈ names, ∀ row, (name, row) ∈ rows → name = "" := by
  simp only [hit, List.find?_eq_none, decide_eq_true_eq, mem_keys_joinedHosts]
  constructor
  · intro h name hname row hrow
    by_contra hne
    exact h name hname ⟨hne, row, hrow⟩
  · rintro h name hname ⟨hne, row, hrow⟩
    exact hne (h name hname row hrow)

theorem hit_mem (h : hit (joinedHosts rows) names = some host) : host ∈ names ∧ host ∈ (joinedHosts rows).keys :=
  ⟨List.mem_of_find?_eq_some h, by simpa using List.find?_some h⟩

/-- unexpected is what stays of a host that is no node's hit -/
theorem mem_unexpected : row ∈ (lineUp rows nodes).unexpected ↔
    ∃ host, (host, row) ∈ joinedHosts rows ∧ ∀ n ∈ nodes, hit (joinedHosts rows) n.1 ≠ some host := by
  simp only [lineUp, List.mem_map, List.mem_filter, List.mem_insertionSort, List.mem_filterMap, decide_eq_true_eq]
  constructor
  · rintro ⟨⟨host, row⟩, ⟨hmem, hnot⟩, rfl⟩
    exact ⟨host, hmem, fun n hn hhit => hnot ⟨n, hn, hhit⟩⟩
  · rintro ⟨host, hmem, hnot⟩
    exact ⟨(host, row), ⟨hmem, fun ⟨n, hn, hhit⟩ => hnot n hn hhit⟩, rfl⟩

/-- and each host is there once -/
theorem nodup_unexpected (key : Value → String) (hkey : ∀ p ∈ rows, key p.2 = p.1) :
    ((lineUp rows nodes).unexpected.map key).Nodup := by
  have hsorted : (((joinedHosts rows).insertionSort fun p q => p.1 ≤ q.1).map Prod.fst).Nodup :=
    ((List.perm_insertionSort _ _).map Prod.fst).nodup_iff.2 keys_joinedHosts
  have hfilter := hsorted.sublist ((List.filter_sublist (p := fun p =>
    decide (p.1 ∉ nodes.filterMap fun n => hit (joinedHosts rows) n.1))).map Prod.fst)
  have hfst : (lineUp rows nodes).unexpected.map key = (((joinedHosts rows).insertionSort fun p q => p.1 ≤ q.1).filter
      fun p => decide (p.1 ∉ nodes.filterMap fun n => hit (joinedHosts rows) n.1)).map Prod.fst := by
    rw [lineUp, List.map_map]
    refine List.map_congr_left fun p hp => ?_
    have hmem : p ∈ joinedHosts rows := (List.mem_insertionSort _).1 (List.mem_of_mem_filter hp)
    exact hkey p (mem_joinedHosts hmem).1
  rw [hfst]
  exact hfilter

end Reported

/-! ## Reading the hosts -/

section Reading

variable {lib : Library} {addressFirst : String → String → Bool} {inventory joined : List Value} {node row : Value}

/-- every URI can be split -/
structure Readable (lib : Library) (inventory joined : List Value) : Prop where
  rows : ∀ row ∈ joined, ∃ host, rowHost lib row = .ok host
  nodes : ∀ node ∈ inventory, (∃ address, hostOf lib (node.get "address") = .ok address) ∧
    ∃ host, hostOf lib (node.get "host") = .ok host

/-- what an `Except` has, or a default -/
def hostIn (x : Except String String) : String := x.toOption.getD ""

theorem hostIn_eq {x : Except String String} {host : String} (h : x = .ok host) : hostIn x = host := by
  rw [h]
  rfl

/-- the node's hosts, once they can be read -/
def hostsOf (lib : Library) (addressFirst : String → String → Bool) (node : Value) : List String :=
  ((candidates lib addressFirst node).toOption).getD []

theorem candidates_ok {address host : String} (haddress : hostOf lib (node.get "address") = .ok address)
    (hhost : hostOf lib (node.get "host") = .ok host) : candidates lib addressFirst node = .ok (hostsOf lib addressFirst node) := by
  simp only [hostsOf, candidates, haddress, hhost, bind, Except.bind, pure, Except.pure, Except.toOption,
    Option.getD_some]

theorem mem_hostsOf {address host name : String} (haddress : hostOf lib (node.get "address") = .ok address)
    (hhost : hostOf lib (node.get "host") = .ok host) :
    name ∈ hostsOf lib addressFirst node ↔ name ≠ "" ∧ (name = address ∨ name = host) := by
  simp only [hostsOf, candidates, haddress, hhost, bind, Except.bind, pure, Except.pure, Except.toOption, Option.getD_some,
    List.mem_filter, decide_eq_true_eq]
  split_ifs with hsame
  · simp [hsame, and_comm]
  · simp [and_comm]
  · simp [and_comm, or_comm]

/-- **It returns** exactly if every URI can be split. -/
theorem compare_returns : (∃ d, compare lib addressFirst inventory joined = .ok d) ↔ Readable lib inventory joined := by
  have hrows : (∃ rows, (joined.mapM fun row => (rowHost lib row).map (·, row)) = .ok rows) ↔
      ∀ row ∈ joined, ∃ host, rowHost lib row = .ok host := by
    rw [mapM_returns]
    refine forall₂_congr fun row _ => ?_
    cases rowHost lib row <;> simp [Except.map]
  have hnodes : (∃ nodes, (inventory.mapM fun node => (candidates lib addressFirst node).map (·, node)) = .ok nodes) ↔
      ∀ node ∈ inventory, (∃ address, hostOf lib (node.get "address") = .ok address) ∧
        ∃ host, hostOf lib (node.get "host") = .ok host := by
    rw [mapM_returns]
    refine forall₂_congr fun node _ => ?_
    unfold candidates
    cases hostOf lib (node.get "address") <;> cases hostOf lib (node.get "host") <;>
      simp [Except.map, bind, Except.bind, pure, Except.pure]
  constructor
  · rintro ⟨d, h⟩
    obtain ⟨rows, hr, h⟩ := bind_eq_ok.1 h
    obtain ⟨nodes, hn, -⟩ := bind_eq_ok.1 h
    exact ⟨hrows.1 ⟨rows, hr⟩, hnodes.1 ⟨nodes, hn⟩⟩
  · intro h
    obtain ⟨rows, hr⟩ := hrows.2 h.rows
    obtain ⟨nodes, hn⟩ := hnodes.2 h.nodes
    exact ⟨lineUp rows nodes, bind_eq_ok.2 ⟨rows, hr, bind_eq_ok.2 ⟨nodes, hn, rfl⟩⟩⟩

/-- the rows with the hosts they were read with -/
theorem compare_eq_ok (h : Readable lib inventory joined) : compare lib addressFirst inventory joined =
    .ok (lineUp (joined.map fun row => (hostIn (rowHost lib row), row))
      (inventory.map fun node => (hostsOf lib addressFirst node, node))) := by
  have hrows : (joined.mapM fun row => (rowHost lib row).map (·, row)) =
      .ok (joined.map fun row => (hostIn (rowHost lib row), row)) := by
    refine mapM_eq_ok fun row hrow => ?_
    obtain ⟨host, hhost⟩ := h.rows row hrow
    rw [hhost]
    rfl
  have hnodes : (inventory.mapM fun node => (candidates lib addressFirst node).map (·, node)) =
      .ok (inventory.map fun node => (hostsOf lib addressFirst node, node)) := by
    refine mapM_eq_ok fun node hnode => ?_
    obtain ⟨⟨address, haddress⟩, host, hhost⟩ := h.nodes node hnode
    rw [candidates_ok haddress hhost]
    rfl
  exact bind_eq_ok.2 ⟨_, hrows, bind_eq_ok.2 ⟨_, hnodes, rfl⟩⟩

end Reading

end TrinoManagement.Discovery
