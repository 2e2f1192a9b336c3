/-
Which node did not join, over all inventories and all reported rows.

An inventory node is unjoined if no reported row has its host or its address, and a row is unexpected if no inventory node
has its host. `compare` keeps one row a host and lets a node account for one host.
- `accounts_iff`: nothing is lost or made up exactly when every URI can be split, every row has a host, the rows no node
  accounts for have different ones, and every host that a node accounts for is the only reported one of some node.
- `second_process_dropped`: two processes on one unknown machine, and one row for them.
-/
import Mathlib.Tactic
import TrinoManagement.Fleet.Discovery

namespace TrinoManagement.Discovery

open TrinoManagement.Nodes (Library hostOf)

variable (lib : Library)

/-! ## What is claimed -/

/-- the node's host or its address is the row's host -/
def accountsFor (node row : Value) : Bool :=
  match rowHost lib row with
  | .ok host => host ≠ "" && ((hostOf lib (node.get "address")).toOption == some host ||
      (hostOf lib (node.get "host")).toOption == some host)
  | .error _ => false

/-- a row no node accounts for -/
def isStranger (inventory : List Value) (row : Value) : Bool := !inventory.any fun node => accountsFor lib node row

structure Accounts (inventory joined : List Value) (d : Discovered) : Prop where
  unjoined : d.unjoined = inventory.filter fun node => !joined.any fun row => accountsFor lib node row
  /-- every such row, as often as it was reported -/
  unexpected : d.unexpected.Perm (joined.filter (isStranger lib inventory))

/-- in whatever order Python goes through a set -/
def Accounted (inventory joined : List Value) : Prop :=
  ∀ addressFirst, ∃ d, compare lib addressFirst inventory joined = .ok d ∧ Accounts lib inventory joined d

/-! ## When it holds -/

structure Separate (inventory joined : List Value) : Prop where
  readable : Readable lib inventory joined
  hosts : ∀ row ∈ joined, rowHost lib row ≠ .ok ""
  /-- two rows that no node accounts for have different hosts -/
  strangers : (joined.filter (isStranger lib inventory)).Pairwise fun row row' => rowHost lib row ≠ rowHost lib row'
  /-- a host that is accounted for is the only reported one of some node -/
  own : ∀ row ∈ joined, isStranger lib inventory row = false → ∃ node ∈ inventory, accountsFor lib node row = true ∧
    ∀ row' ∈ joined, accountsFor lib node row' = true → rowHost lib row' = rowHost lib row

section Separation

variable {lib} {addressFirst : String → String → Bool} {inventory joined : List Value} {node row : Value}

/-- the host a row was read with -/
def hostAt (lib : Library) (row : Value) : String := hostIn (rowHost lib row)

/-- what `compare` works on -/
def keyed (lib : Library) (joined : List Value) : List (String × Value) := joined.map fun row => (hostAt lib row, row)

theorem mem_keyed {host : String} : (host, row) ∈ keyed lib joined ↔ row ∈ joined ∧ hostAt lib row = host := by
  simp only [keyed, List.mem_map, Prod.mk.injEq]
  constructor
  · rintro ⟨r, hr, hhost, rfl⟩
    exact ⟨hr, hhost⟩
  · rintro ⟨hrow, hhost⟩
    exact ⟨row, hrow, hhost, rfl⟩

theorem rowHost_eq (h : Readable lib inventory joined) (hrow : row ∈ joined) : rowHost lib row = .ok (hostAt lib row) := by
  obtain ⟨host, hhost⟩ := h.rows row hrow
  rw [hostAt, hostIn_eq hhost, hhost]

/-- a node accounts for a row if the row's host is one of the node's -/
theorem accountsFor_iff (h : Readable lib inventory joined) (hnode : node ∈ inventory) (hrow : row ∈ joined) :
    accountsFor lib node row = true ↔ hostAt lib row ∈ hostsOf lib addressFirst node := by
  obtain ⟨⟨address, haddress⟩, host, hhost⟩ := h.nodes node hnode
  rw [mem_hostsOf haddress hhost, accountsFor, rowHost_eq h hrow, haddress, hhost]
  simp only [Except.toOption, Bool.and_eq_true, Bool.or_eq_true, decide_eq_true_eq, beq_iff_eq, Option.some.injEq]
  exact and_congr_right fun _ => or_congr eq_comm eq_comm

theorem stranger_iff (h : Readable lib inventory joined) (hrow : row ∈ joined) :
    isStranger lib inventory row = true ↔ ∀ node ∈ inventory, hostAt lib row ∉ hostsOf lib addressFirst node := by
  simp only [isStranger, Bool.not_eq_true', List.any_eq_false]
  exact forall₂_congr fun node hnode => not_congr (accountsFor_iff h hnode hrow)

theorem not_stranger_iff (h : Readable lib inventory joined) (hrow : row ∈ joined) :
    isStranger lib inventory row = false ↔ ∃ node ∈ inventory, hostAt lib row ∈ hostsOf lib addressFirst node := by
  rw [← Bool.not_eq_true, stranger_iff h hrow]
  push Not
  rfl

/-- the unjoined nodes are right in any case -/
theorem unjoined_eq (h : Readable lib inventory joined) :
    (lineUp (keyed lib joined) (inventory.map fun node => (hostsOf lib addressFirst node, node))).unjoined =
      inventory.filter fun node => !joined.any fun row => accountsFor lib node row := by
  rw [lineUp, List.filter_map, List.map_map]
  change (inventory.filter _).map id = _
  rw [List.map_id]
  refine List.filter_congr fun node hnode => ?_
  obtain ⟨⟨address, haddress⟩, host, hhost⟩ := h.nodes node hnode
  rw [Bool.eq_iff_iff, Function.comp_apply, Option.isNone_iff_eq_none, hit_eq_none, Bool.not_eq_true', List.any_eq_false]
  constructor
  · intro hnone row hrow haccounts
    have hmem : hostAt lib row ∈ hostsOf lib addressFirst node := (accountsFor_iff h hnode hrow).1 haccounts
    exact ((mem_hostsOf haddress hhost).1 hmem).1 (hnone _ hmem row (mem_keyed.2 ⟨hrow, rfl⟩))
  · intro hnone name hname row hrow
    obtain ⟨hjoined, rfl⟩ := mem_keyed.1 hrow
    exact absurd ((accountsFor_iff h hnode hjoined).2 hname) (hnone row hjoined)

/-- what `compare` returns once the URIs can be split -/
def lined (lib : Library) (addressFirst : String → String → Bool) (inventory joined : List Value) : Discovered :=
  lineUp (keyed lib joined) (inventory.map fun node => (hostsOf lib addressFirst node, node))

theorem mem_lined : row ∈ (lined lib addressFirst inventory joined).unexpected ↔ ∃ host,
    (host, row) ∈ joinedHosts (keyed lib joined) ∧
      ∀ node ∈ inventory, hit (joinedHosts (keyed lib joined)) (hostsOf lib addressFirst node) ≠ some host := by
  simp only [lined, mem_unexpected, List.forall_mem_map]

/-- a host the dict has is the host of the row it has there -/
theorem mem_joined {host : String} (h : (host, row) ∈ joinedHosts (keyed lib joined)) :
    row ∈ joined ∧ hostAt lib row = host ∧ host ≠ "" :=
  ⟨(mem_keyed.1 (mem_joinedHosts h).1).1, (mem_keyed.1 (mem_joinedHosts h).1).2, (mem_joinedHosts h).2⟩

theorem nodup_lined : ((lined lib addressFirst inventory joined).unexpected.map (hostAt lib)).Nodup :=
  nodup_unexpected (hostAt lib) fun _ hp => (mem_keyed.1 hp).2

/-- a row whose host is the only reported one of a node is not unexpected -/
theorem hit_own (h : Readable lib inventory joined) (hnode : node ∈ inventory) (hrow : row ∈ joined)
    (haccounts : accountsFor lib node row = true) (hne : hostAt lib row ≠ "")
    (hown : ∀ row' ∈ joined, accountsFor lib node row' = true → rowHost lib row' = rowHost lib row) :
    hit (joinedHosts (keyed lib joined)) (hostsOf lib addressFirst node) = some (hostAt lib row) := by
  have hmem : hostAt lib row ∈ hostsOf lib addressFirst node := (accountsFor_iff h hnode hrow).1 haccounts
  cases hhit : hit (joinedHosts (keyed lib joined)) (hostsOf lib addressFirst node) with
  | none => exact absurd (hit_eq_none.1 hhit _ hmem row (mem_keyed.2 ⟨hrow, rfl⟩)) hne
  | some host =>
    obtain ⟨hname, hkey⟩ := hit_mem hhit
    obtain ⟨-, row', hmem'⟩ := mem_keys_joinedHosts.1 hkey
    obtain ⟨hrow', rfl⟩ := mem_keyed.1 hmem'
    have hsame := hown row' hrow' ((accountsFor_iff h hnode hrow').2 hname)
    rw [rowHost_eq h hrow', rowHost_eq h hrow, Except.ok.injEq] at hsame
    rw [hsame]

theorem hostAt_ne (h : Separate lib inventory joined) (hrow : row ∈ joined) : hostAt lib row ≠ "" := by
  intro hempty
  apply h.hosts row hrow
  rw [rowHost_eq h.readable hrow, hempty]

/-- the strangers have different hosts -/
theorem nodup_strangers (h : Separate lib inventory joined) :
    ((joined.filter (isStranger lib inventory)).map (hostAt lib)).Nodup := by
  rw [List.Nodup, List.pairwise_map]
  refine h.strangers.imp_of_mem fun hrow hrow' hne heq => hne ?_
  rw [rowHost_eq h.readable (List.mem_of_mem_filter hrow), rowHost_eq h.readable (List.mem_of_mem_filter hrow'), heq]

/-- unexpected are the strangers -/
theorem mem_lined_iff (h : Separate lib inventory joined) : row ∈ (lined lib addressFirst inventory joined).unexpected ↔
    row ∈ joined.filter (isStranger lib inventory) := by
  rw [mem_lined, List.mem_filter]
  constructor
  · rintro ⟨host, hmem, hnone⟩
    obtain ⟨hrow, rfl, hne⟩ := mem_joined hmem
    refine ⟨hrow, ?_⟩
    by_contra hstranger
    obtain ⟨node, hnode, haccounts, hown⟩ := h.own row hrow (by simpa using hstranger)
    exact hnone node hnode (hit_own h.readable hnode hrow haccounts hne hown)
  · rintro ⟨hrow, hstranger⟩
    obtain ⟨row', hmem⟩ := exists_mem_joinedHosts (mem_keyed.2 ⟨hrow, rfl⟩) (hostAt_ne h hrow)
    obtain ⟨hrow', hhost, -⟩ := mem_joined hmem
    -- the row that stayed has the host, and is a stranger too
    have hstranger' : isStranger lib inventory row' = true := by
      rw [@stranger_iff lib addressFirst inventory joined row' h.readable hrow', hhost]
      exact (stranger_iff h.readable hrow).1 hstranger
    obtain rfl : row' = row := List.inj_on_of_nodup_map (nodup_strangers h) (List.mem_filter.2 ⟨hrow', hstranger'⟩)
      (List.mem_filter.2 ⟨hrow, hstranger⟩) hhost
    refine ⟨hostAt lib row', hmem, fun node hnode hhit => ?_⟩
    exact (stranger_iff h.readable hrow).1 hstranger node hnode (hit_mem hhit).1

theorem accounts_of_separate (h : Separate lib inventory joined) : Accounted lib inventory joined := by
  intro addressFirst
  refine ⟨lined lib addressFirst inventory joined, compare_eq_ok h.readable, unjoined_eq h.readable, ?_⟩
  rw [List.perm_ext_iff_of_nodup (List.Nodup.of_map _ nodup_lined) (List.Nodup.of_map _ (nodup_strangers h))]
  exact fun row => mem_lined_iff h

/-! ### And only then -/

/-- an order in which a node known by two reported hosts is never found under this one -/
def avoiding (host : String) (_ other : String) : Bool := other == host

/-- under that order a node is found under the host only if it has no other that is reported -/
theorem hit_avoiding {host other : String} (h : Readable lib inventory joined) (hnode : node ∈ inventory)
    (hmem : other ∈ hostsOf lib (avoiding host) node) (hkey : other ∈ (joinedHosts (keyed lib joined)).keys)
    (hne : other ≠ host) : hit (joinedHosts (keyed lib joined)) (hostsOf lib (avoiding host) node) ≠ some host := by
  obtain ⟨⟨address, haddress⟩, name, hname⟩ := h.nodes node hnode
  obtain ⟨hnonempty, hother⟩ := (mem_hostsOf haddress hname).1 hmem
  have hfound : ∀ rest, hit (joinedHosts (keyed lib joined)) (other :: rest) = some other := fun rest => by
    simp [hit, hkey]
  have hboth : hostsOf lib (avoiding host) node = (if address = name then [name] else
      if avoiding host address name then [address, name] else [name, address]).filter (· ≠ "") := by
    simp only [hostsOf, candidates, haddress, hname, bind, Except.bind, pure, Except.pure, Except.toOption,
      Option.getD_some]
  intro hhit
  have hhost := (hit_mem hhit).1
  obtain ⟨-, hhost⟩ := (mem_hostsOf haddress hname).1 hhost
  -- so the two are the node's two hosts, and the other comes first
  have hfirst : ∃ rest, hostsOf lib (avoiding host) node = other :: rest := by
    rw [hboth]
    rcases hother with rfl | rfl
    · obtain rfl : host = name := hhost.resolve_left (Ne.symm hne)
      rw [if_neg hne, if_pos (by simp [avoiding]), List.filter_cons_of_pos (by simpa using hnonempty)]
      exact ⟨_, rfl⟩
    · obtain rfl : host = address := hhost.resolve_right (Ne.symm hne)
      rw [if_neg (Ne.symm hne), if_neg (by simpa [avoiding] using hne),
        List.filter_cons_of_pos (by simpa using hnonempty)]
      exact ⟨_, rfl⟩
  obtain ⟨rest, hrest⟩ := hfirst
  rw [hrest, hfound, Option.some.injEq] at hhit
  exact hne hhit

theorem separate_of_accounted (h : Accounted lib inventory joined) : Separate lib inventory joined := by
  have hreadable : Readable lib inventory joined := by
    obtain ⟨d, hd, -⟩ := h fun _ _ => true
    exact compare_returns.1 ⟨d, hd⟩
  have hperm : ∀ addressFirst, (lined lib addressFirst inventory joined).unexpected.Perm
      (joined.filter (isStranger lib inventory)) := by
    intro addressFirst
    obtain ⟨d, hd, haccounts⟩ := h addressFirst
    obtain rfl : lined lib addressFirst inventory joined = d := by
      have := (compare_eq_ok hreadable).symm.trans hd
      exact Except.ok.inj this
    exact haccounts.unexpected
  have hnodup : ((joined.filter (isStranger lib inventory)).map (hostAt lib)).Nodup :=
    ((hperm fun _ _ => true).map (hostAt lib)).nodup_iff.1 nodup_lined
  refine ⟨hreadable, ?_, ?_, ?_⟩
  · -- a row without a host is a stranger, and is not listed
    intro row hrow hempty
    have hstranger : isStranger lib inventory row = true := by
      simp [isStranger, accountsFor, hempty]
    obtain ⟨host, hmem, -⟩ := mem_lined.1 ((hperm fun _ _ => true).mem_iff.2 (List.mem_filter.2 ⟨hrow, hstranger⟩))
    obtain ⟨-, rfl, hne⟩ := mem_joined hmem
    exact hne (hostIn_eq hempty)
  · rw [List.Nodup, List.pairwise_map] at hnodup
    refine hnodup.imp fun hne heq => hne ?_
    rw [hostAt, hostAt, heq]
  · intro row hrow haccounted
    by_contra hnone
    push Not at hnone
    -- every node that accounts for the row is found elsewhere, so the row's host is unexpected
    obtain ⟨node, hnode, hname⟩ := (@not_stranger_iff lib (avoiding (hostAt lib row)) _ _ _ hreadable hrow).1 haccounted
    obtain ⟨⟨address, haddress⟩, host, hhost⟩ := hreadable.nodes node hnode
    have hne := ((mem_hostsOf haddress hhost).1 hname).1
    obtain ⟨row', hmem⟩ := exists_mem_joinedHosts (mem_keyed.2 ⟨hrow, rfl⟩) hne
    have hunexpected : row' ∈ (lined lib (avoiding (hostAt lib row)) inventory joined).unexpected := by
      refine mem_lined.2 ⟨_, hmem, fun node hnode hhit => ?_⟩
      have haccounts := (accountsFor_iff hreadable hnode hrow).2 (hit_mem hhit).1
      obtain ⟨other, hother, hothers, hdifferent⟩ := hnone node hnode haccounts
      have hin : hostAt lib other ∈ hostsOf lib (avoiding (hostAt lib row)) node :=
        (accountsFor_iff hreadable hnode hother).1 hothers
      obtain ⟨⟨address, haddress⟩, name, hname⟩ := hreadable.nodes node hnode
      have hkey : hostAt lib other ∈ (joinedHosts (keyed lib joined)).keys :=
        mem_keys_joinedHosts.2 ⟨((mem_hostsOf haddress hname).1 hin).1, other, mem_keyed.2 ⟨hother, rfl⟩⟩
      refine hit_avoiding hreadable hnode hin hkey (fun heq => hdifferent ?_) hhit
      rw [rowHost_eq hreadable hother, rowHost_eq hreadable hrow, heq]
    have hstranger := (List.mem_filter.1 ((hperm _).mem_iff.1 hunexpected)).2
    obtain ⟨hrow', hsame, -⟩ := mem_joined hmem
    exact (stranger_iff hreadable hrow').1 hstranger node hnode (hsame ▸ hname)

end Separation

/-- **Every node and every row is accounted for** exactly when the hosts keep them apart. -/
theorem accounts_iff (inventory joined : List Value) : Accounted lib inventory joined ↔ Separate lib inventory joined :=
  ⟨separate_of_accounted, accounts_of_separate⟩

/-! ## Two processes on one machine -/

/-- Python on plain texts -/
def plainLibrary : Library where
  lower := id
  isWord := fun c => c.isLower || c.isUpper || c.isDigit || c == '_'
  str
    | .str s => s
    | _ => ""
  repr := id
  checkNetloc := fun _ => none

/-- a row of `system.runtime.nodes` -/
def reportedAt (nodeId uri : String) : Value := .dict [("node_id", .str nodeId), ("http_uri", .str uri)]

/-- two servers of a machine that is not in the inventory -/
def twoProcesses : List Value := [reportedAt "n1" "https://10.0.0.99:8443", reportedAt "n2" "https://10.0.0.99:8444"]

/-- the second server is shown, and the first one nowhere -/
theorem second_process_dropped : compare plainLibrary (fun _ _ => true) [] twoProcesses =
      .ok ⟨[], [reportedAt "n2" "https://10.0.0.99:8444"], 1, 0⟩ ∧ ¬ Accounted plainLibrary [] twoProcesses := by
  have hcompare : compare plainLibrary (fun _ _ => true) [] twoProcesses =
      .ok ⟨[], [reportedAt "n2" "https://10.0.0.99:8444"], 1, 0⟩ := by decide +kernel
  refine ⟨hcompare, fun h => ?_⟩
  obtain ⟨d, hd, haccounts⟩ := h fun _ _ => true
  obtain rfl := Except.ok.inj (hcompare.symm.trans hd)
  have hlength := haccounts.unexpected.length_eq
  have hstrangers : (twoProcesses.filter (isStranger plainLibrary [])).length = 2 := by decide +kernel
  rw [hstrangers] at hlength
  cases hlength

end TrinoManagement.Discovery
