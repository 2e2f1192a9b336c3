/-
The rules around the node list: `tms/fleet/nodes.py`, the hosts of `tms/fleet/discovery.py` and the table of
`tms/fleet/nodestore.py`.

- `validate`: what a person may type in. `validate_ok`: a host and an address of host characters.
- `fromDiscovery`: what the coordinator reports; its hosts come out of a URI and are checked by nothing.
- `planRefresh`: what one scan adds and refreshes; it removes nothing.
- `renderInventory`: the list as a file for Ansible.
- `insertRow`, `touchRow`, `removeRow`, `listed`: the table, one row for a host of a cluster.
-/
import Mathlib.Data.List.ReduceOption
import Mathlib.Data.List.Sort
import Mathlib.Tactic
import TrinoManagement.Config.Inventory
import TrinoManagement.Core.Pattern
import TrinoManagement.Core.Url
import TrinoManagement.Core.Value
import TrinoManagement.Fleet.Poller

namespace TrinoManagement.Nodes

open TrinoManagement.Inventory (IsHost Node NodeRole isHostChar)
open TrinoManagement.Text

/-- Python's letters, `str` and `repr`, and what `urlsplit` says of a netloc -/
structure Library extends Inventory.Letters where
  str : Value → String
  repr : String → String
  checkNetloc : List Char → Option String

inductive Source where
  | discovered | manual
deriving DecidableEq, Repr

/-- a row of `cluster_node` -/
structure NodeRow where
  cluster : String
  host : String
  address : String
  role : NodeRole
  source : Source
  reason : Option String
  addedBy : String
  nodeId : Option String
  version : Option String
  lastSeenAt : Option ℤ
deriving DecidableEq, Repr

/-! ## What is typed in -/

/-- `_HOSTNAME` -/
def isHostname (text : String) : Bool := isName isHostChar isHostChar text.toList

/-- a checked entry -/
structure Entry where
  cluster : String
  host : String
  address : String
  role : NodeRole
deriving DecidableEq, Repr

/-- `ROLES` -/
def roles : Dict NodeRole := [("coordinator", .coordinator), ("worker", .worker)]

section Rules

variable (lib : Library)

def validate (cluster host address role : String) (knownClusters : List String) : Except String Entry :=
  let cluster := strip cluster
  let host := strip host
  let address := strip address
  if knownClusters ≠ [] ∧ cluster ∉ knownClusters then .error (lib.repr cluster ++ " is not a configured cluster.")
  else
    match roles.lookup (lib.lower (strip role)) with
    | none => .error "role must be 'coordinator' or 'worker'."
    | some role =>
      if host = "" then .error "A host name or address is required."
      else if isHostname host = false then .error (lib.repr host ++ " is not a usable host name. Letters, digits, dot, " ++
        "dash, colon and underscore only - this value is written into an inventory file.")
      else
        let address := if address = "" then host else address
        if isHostname address = false then .error (lib.repr address ++ " is not a usable address.")
        else .ok ⟨cluster, host, address, role⟩

/-! ## What the coordinator reports -/

/-- `host_of`, or the text of a ValueError -/
def hostOf (uri : Value) : Except String String :=
  if uri.truthy = false then .ok ""
  else
    let text := (strip (lib.str uri)).toList
    (Url.netloc lib.checkNetloc (if "://".toList <:+: text then text else "//".toList ++ text)).map fun netloc =>
      lib.lower (Url.hostname lib.lower netloc)

/-- `clean(value) or None` -/
def cleanOrNone (value : Value) : Option String :=
  let text := strip (if value.truthy then lib.str value else "")
  if text = "" then none else some text

/-- a node the coordinator reports -/
structure Found where
  cluster : String
  host : String
  address : String
  role : NodeRole
  nodeId : Option String
  version : Option String
  state : Option String
deriving DecidableEq, Repr

/-- one row of `system.runtime.nodes`; a row whose URI has no host is dropped -/
def foundOf (cluster : String) (row : Value) : Except String (Option Found) :=
  (hostOf lib (row.get "http_uri")).map fun host =>
    if host = "" then none
    else some ⟨cluster, host, host, if (row.get "coordinator").truthy then .coordinator else .worker,
      cleanOrNone lib (row.get "node_id"), cleanOrNone lib (row.get "node_version"), cleanOrNone lib (row.get "state")⟩

def fromDiscovery (rows : List Value) (cluster : String) : Except String (List Found) :=
  (rows.mapM (foundOf lib cluster)).map List.reduceOption

end Rules

/-! ## A scan -/

/-- `row.get("address") or row["host"]` -/
def NodeRow.at (row : NodeRow) : String := if row.address = "" then row.host else row.address

/-- the rows by their hosts, and by their addresses where no host has the name -/
def byHost (existing : List NodeRow) : Dict NodeRow :=
  existing.foldl (fun d row =>
    let d := d.set row.host row
    if row.at ∈ d.keys then d else d.set row.at row) []

/-- a row that a scan refreshes, under its own name; `dropReason` for one that was typed in -/
structure Change where
  cluster : String
  host : String
  address : String
  role : NodeRole
  nodeId : Option String
  version : Option String
  dropReason : Bool
deriving DecidableEq, Repr

structure Plan where
  added : List Found
  touched : List Change
  silent : List NodeRow
deriving DecidableEq, Repr

def changeOf (node : Found) (current : NodeRow) : Change :=
  ⟨node.cluster, current.host, if current.address = "" then node.address else current.address, node.role, node.nodeId,
    node.version, current.source = .manual⟩

def planRefresh (existing : List NodeRow) (found : List Found) : Plan :=
  let known := byHost existing
  let touched := found.filterMap fun node => (known.lookup node.host).map (changeOf node)
  ⟨found.filter fun node => known.lookup node.host = none, touched,
    existing.filter fun row => row.host ∉ touched.map (·.host)⟩

/-! ## The file -/

def hostText (row : NodeRow) : String := if row.at = row.host then row.host else row.host ++ " ansible_host=" ++ row.at

/-- a group, its hosts and an empty line -/
def groupLines (name : String) (role : NodeRole) (rows : List NodeRow) : List String :=
  ("[" ++ name ++ "]") :: (rows.filter fun row => row.role = role).map hostText ++ [""]

def renderInventory (cluster : String) (rows : List NodeRow) : String :=
  String.intercalate "\n" (["# Generated by TMS from the node list. Do not edit - the next change",
    "# in the console overwrites this file. Cluster: " ++ cluster, ""] ++ groupLines "coordinator" .coordinator rows ++
    groupLines "worker" .worker rows)

/-! ## The table -/

/-- `DuplicateNode`, `NodeStoreUnavailable` -/
inductive NodeStoreError where
  | duplicate
  | unavailable (message : String)
deriving DecidableEq, Repr

section Table

variable (rows : List NodeRow) (cluster host : String)

/-- the coordinators first, then by host; `collate` is how the database orders texts -/
def listed (collate : String → String → Bool) : List NodeRow :=
  (rows.filter fun row => row.cluster = cluster).insertionSort fun a b =>
    (a.role = .coordinator ∧ b.role ≠ .coordinator) ∨ (a.role = b.role ∧ collate a.host b.host = true)

/-- the row of a host -/
def isRow (row : NodeRow) : Bool := row.cluster == cluster && row.host == host

/-- under the unique key -/
def insertRow (row : NodeRow) : Except NodeStoreError NodeRow × List NodeRow :=
  if rows.any (isRow row.cluster row.host) then (.error .duplicate, rows) else (.ok row, rows ++ [row])

/-- what a scan sets of a row; the address stays -/
def NodeRow.touched (row : NodeRow) (change : Change) (seenAt : ℤ) : NodeRow :=
  { row with
    source := .discovered
    nodeId := change.nodeId
    version := change.version
    role := change.role
    reason := if change.dropReason then none else row.reason
    lastSeenAt := some seenAt }

def touchRow (change : Change) (seenAt : ℤ) : List NodeRow :=
  rows.map fun row => if isRow cluster change.host row then row.touched change seenAt else row

def removeRow : Bool × List NodeRow := (rows.any (isRow cluster host), rows.filter fun row => !isRow cluster host row)

end Table

/-! ## What is accepted -/

theorem dropFinalNewline_strip (text : String) : dropFinalNewline (strip text).toList = (strip text).toList := by
  rw [strip, String.toList_ofList, dropFinalNewline]
  split_ifs with hlast
  · exfalso
    have hne : stripChars text.toList ≠ [] := by
      intro hnil
      rw [hnil] at hlast
      cases hlast
    rw [List.getLast?_eq_some_getLast hne] at hlast
    have hspace := List.rdropWhile_last_not isSpace (text.toList.dropWhile isSpace) hne
    rw [show (List.rdropWhile isSpace (text.toList.dropWhile isSpace)).getLast hne = '\n' from Option.some.inj hlast] at hspace
    exact hspace rfl
  · rfl

theorem isHost_of_isHostname {text : String} (h : isHostname (strip text) = true) : IsHost (strip text) := by
  have hall := isName_later (fun c hc => hc) h
  rw [dropFinalNewline_strip] at hall
  refine ⟨?_, hall⟩
  intro hempty
  rw [hempty] at h
  cases h

/-- **An accepted entry** has a host and an address of host characters, and is of a configured cluster. -/
theorem validate_ok {lib : Library} {cluster host address role : String} {knownClusters : List String} {entry : Entry}
    (h : validate lib cluster host address role knownClusters = .ok entry) :
    entry.cluster = strip cluster ∧ (knownClusters ≠ [] → strip cluster ∈ knownClusters) ∧ IsHost entry.host ∧
      IsHost entry.address := by
  unfold validate at h
  dsimp only at h
  by_cases hknown : knownClusters ≠ [] ∧ strip cluster ∉ knownClusters
  · rw [if_pos hknown] at h
    cases h
  · rw [if_neg hknown] at h
    have hcluster : knownClusters ≠ [] → strip cluster ∈ knownClusters := by
      intro hne
      by_contra hnot
      exact hknown ⟨hne, hnot⟩
    cases hrole : roles.lookup (lib.lower (strip role)) with
    | none => rw [hrole] at h; cases h
    | some known =>
      rw [hrole] at h
      dsimp only at h
      split_ifs at h with hsome hhost hempty haddress
      · obtain rfl := Except.ok.inj h
        have hhost := isHost_of_isHostname (Bool.of_not_eq_false hhost)
        exact ⟨rfl, hcluster, hhost, hhost⟩
      · obtain rfl := Except.ok.inj h
        exact ⟨rfl, hcluster, isHost_of_isHostname (Bool.of_not_eq_false hhost),
          isHost_of_isHostname (Bool.of_not_eq_false haddress)⟩

/-- a reported node is a row's, under the host of its URI -/
theorem mem_fromDiscovery {lib : Library} {reported : List Value} {cluster : String} {found : List Found}
    (h : fromDiscovery lib reported cluster = .ok found) {node : Found} (hnode : node ∈ found) :
    node.cluster = cluster ∧ node.address = node.host ∧ node.host ≠ "" ∧
      ∃ row ∈ reported, hostOf lib (row.get "http_uri") = .ok node.host := by
  obtain ⟨nodes, hnodes, rfl⟩ := map_eq_ok.1 h
  have hsome : some node ∈ nodes := List.reduceOption_mem_iff.1 hnode
  obtain ⟨row, hrow, hfound⟩ := (mapM_elements hnodes).2 _ hsome
  obtain ⟨host, hhost, heq⟩ := map_eq_ok.1 hfound
  by_cases hempty : host = ""
  · rw [if_pos hempty] at heq
    cases heq
  · rw [if_neg hempty] at heq
    obtain rfl := Option.some.inj heq
    exact ⟨rfl, rfl, hempty, row, hrow, hhost⟩

/-! ## One row for a host -/

/-- the unique key of the table -/
def Keyed (rows : List NodeRow) : Prop := (rows.map fun row => (row.cluster, row.host)).Nodup

section Table

variable {rows : List NodeRow} {cluster host : String}

theorem isRow_iff {row : NodeRow} : isRow cluster host row = true ↔ row.cluster = cluster ∧ row.host = host := by
  simp [isRow]

theorem keyed_insertRow (h : Keyed rows) (row : NodeRow) : Keyed (insertRow rows row).2 := by
  unfold insertRow
  split_ifs with hany
  · exact h
  · unfold Keyed
    rw [List.map_append, List.nodup_append]
    refine ⟨h, List.nodup_singleton _, ?_⟩
    intro key hkey key' hkey' heq
    obtain ⟨other, hother, rfl⟩ := List.mem_map.1 hkey
    obtain rfl := List.mem_singleton.1 hkey'
    obtain ⟨hcluster, hhost⟩ := Prod.mk.inj heq
    exact hany (List.any_eq_true.2 ⟨other, hother, isRow_iff.2 ⟨hcluster, hhost⟩⟩)

theorem keys_touchRow (change : Change) (seenAt : ℤ) :
    (touchRow rows cluster change seenAt).map (fun row => (row.cluster, row.host)) =
      rows.map fun row => (row.cluster, row.host) := by
  rw [touchRow, List.map_map]
  refine List.map_congr_left ?_
  intro row _
  dsimp only [Function.comp]
  split_ifs <;> rfl

theorem keyed_touchRow (h : Keyed rows) (change : Change) (seenAt : ℤ) : Keyed (touchRow rows cluster change seenAt) := by
  unfold Keyed
  rw [keys_touchRow]
  exact h

theorem keyed_removeRow (h : Keyed rows) : Keyed (removeRow rows cluster host).2 :=
  h.sublist (List.filter_sublist.map _)

/-- a host that is not listed is not removed -/
theorem removeRow_absent (h : ¬rows.any (isRow cluster host) = true) : removeRow rows cluster host = (false, rows) := by
  rw [Bool.not_eq_true] at h
  rw [removeRow, h, Prod.mk.injEq]
  refine ⟨rfl, List.filter_eq_self.2 ?_⟩
  intro row hrow
  have hnot := List.any_eq_false.1 h row hrow
  simpa using hnot

/-- a statement about one cluster leaves the rows of another -/
theorem listed_insertRow {collate : String → String → Bool} {row : NodeRow} (h : row.cluster ≠ cluster) :
    listed (insertRow rows row).2 cluster collate = listed rows cluster collate := by
  unfold insertRow
  split_ifs
  · rfl
  · simp [listed, h]

theorem listed_touchRow {collate : String → String → Bool} {other : String} (h : cluster ≠ other) (change : Change)
    (seenAt : ℤ) : listed (touchRow rows cluster change seenAt) other collate = listed rows other collate := by
  have hfilter : (touchRow rows cluster change seenAt).filter (fun row => row.cluster = other) =
      rows.filter fun row => row.cluster = other := by
    rw [touchRow, List.filter_map]
    have hsame : rows.filter ((fun row => decide (row.cluster = other)) ∘ fun row =>
        if isRow cluster change.host row then row.touched change seenAt else row) =
          rows.filter fun row => row.cluster = other := by
      refine List.filter_congr ?_
      intro row _
      dsimp only [Function.comp]
      split_ifs <;> rfl
    rw [hsame]
    refine (List.map_congr_left ?_).trans (List.map_id _)
    intro row hrow
    have hother : row.cluster = other := by simpa using (List.mem_filter.1 hrow).2
    rw [if_neg]
    · rfl
    · intro hrow
      exact h ((isRow_iff.1 hrow).1.symm.trans hother)
  rw [listed, hfilter, listed]

theorem listed_removeRow {collate : String → String → Bool} {other : String} (h : cluster ≠ other) :
    listed (removeRow rows cluster host).2 other collate = listed rows other collate := by
  have hfilter : (removeRow rows cluster host).2.filter (fun row => row.cluster = other) =
      rows.filter fun row => row.cluster = other := by
    rw [removeRow, List.filter_filter]
    refine List.filter_congr ?_
    intro row _
    by_cases hother : row.cluster = other
    · have hnot : isRow cluster host row = false := by
        rw [Bool.eq_false_iff]
        intro hrow
        exact h ((isRow_iff.1 hrow).1.symm.trans hother)
      simp [hnot]
    · simp [hother]
  rw [listed, hfilter, listed]

end Table

end TrinoManagement.Nodes
