/-
Does the inventory file say what the node list says?

What a person types in is checked against the characters that `parse_inventory` reads back. What the coordinator reports
is not: `host_of` takes the host of a URI as it stands, with the spaces and the `=` in it.

- `RoundTrip`: the file is parsed back to the rows, and holds no other host, variable or group.
- `isHost_of_roundTrip`: it needs every host to be made of host characters.
- `round_trip`: in every interleaving of edits whose scans are answered with such hosts, the list of every cluster is read
  back from its file.
- `injected`: a URI with a space in it puts a variable of its own into the file.
-/
import Mathlib.Tactic
import TrinoManagement.Fleet.InventoryFile
import TrinoManagement.Fleet.NodeService

namespace TrinoManagement.Nodes

open TrinoManagement.Audit (Principal)
open TrinoManagement.Guard
open TrinoManagement.Inventory (IsHost Letters parseInventory parseInventory_isHost readLines)
open TrinoManagement.Prog (protocol_mono wp_mono)
open TrinoManagement.Run (Meets meets_of_forall run)
open TrinoManagement.Service (Exn)

/-! ## A list and its file -/

/-- the file of a list is read back as the list -/
structure RoundTrip (py : Letters) (cluster : String) (rows : List NodeRow) : Prop where
  triples : (parseInventory py (renderInventory cluster rows) cluster).map (fun n => (n.host, Fleet.address n, n.role)) =
    (inOrder rows).map fun row => (row.host, row.address, row.role)
  once : ((parseInventory py (renderInventory cluster rows) cluster).map (·.host)).Nodup
  lines : readLines py (renderInventory cluster rows) =
    ⟨groupHosts "coordinator" .coordinator rows ++ groupHosts "worker" .worker rows, []⟩

section List

variable {py : Letters} {cluster : String} {rows : List NodeRow}

theorem roundTrip_of_named (hlower : py.lower "coordinator" = "coordinator" ∧ py.lower "worker" = "worker")
    (hcluster : OneLine cluster) (h : ∀ row ∈ rows, Named row) (hhosts : (rows.map (·.host)).Nodup) :
    RoundTrip py cluster rows := by
  have hparse := parseInventory_render hlower hcluster h hhosts
  refine ⟨?_, ?_, readLines_render hlower hcluster h⟩
  · rw [hparse, List.map_map]
    refine List.map_congr_left ?_
    intro row hrow
    have haddress := @address_nodeOf cluster row (h row (inOrder_perm.mem_iff.1 hrow))
    change (row.host, Fleet.address (nodeOf cluster row), row.role) = _
    rw [haddress]
  · rw [hparse, List.map_map]
    exact (inOrder_perm.map _).nodup_iff.2 hhosts

/-- **No other host is read back**: the parser makes hosts of host characters only. -/
theorem isHost_of_roundTrip (h : RoundTrip py cluster rows) {row : NodeRow} (hrow : row ∈ rows) : IsHost row.host := by
  have htriple : (row.host, row.address, row.role) ∈ (inOrder rows).map fun row => (row.host, row.address, row.role) :=
    List.mem_map_of_mem (inOrder_perm.mem_iff.2 hrow)
  rw [← h.triples] at htriple
  obtain ⟨n, hn, heq⟩ := List.mem_map.1 htriple
  rw [← (Prod.mk.inj heq).1]
  exact parseInventory_isHost hn

end List

/-! ## The table -/

/-- a table whose names may stand in a file, with one row for a host of a cluster -/
structure Listable (rows : List NodeRow) : Prop where
  named : ∀ row ∈ rows, Named row
  keyed : Keyed rows

section Table

variable {rows : List NodeRow} {collate : String → String → Bool}

theorem Listable.insertRow (h : Listable rows) {row : NodeRow} (hrow : Named row) : Listable (insertRow rows row).2 := by
  refine ⟨?_, keyed_insertRow h.keyed row⟩
  unfold Nodes.insertRow
  split_ifs
  · exact h.named
  · exact List.forall_mem_append.2 ⟨h.named, List.forall_mem_singleton.2 hrow⟩

theorem Listable.touchRow (h : Listable rows) (cluster : String) (change : Change) (seenAt : ℤ) :
    Listable (touchRow rows cluster change seenAt) := by
  refine ⟨?_, keyed_touchRow h.keyed change seenAt⟩
  intro row hrow
  obtain ⟨before, hbefore, rfl⟩ := List.mem_map.1 hrow
  split_ifs
  · exact ⟨(h.named before hbefore).host, (h.named before hbefore).address⟩
  · exact h.named before hbefore

theorem Listable.removeRow (h : Listable rows) (cluster host : String) : Listable (removeRow rows cluster host).2 :=
  ⟨fun row hrow => h.named row (List.mem_filter.1 hrow).1, keyed_removeRow h.keyed⟩

theorem mem_listed {cluster : String} {row : NodeRow} : row ∈ listed rows cluster collate ↔ row ∈ rows ∧ row.cluster = cluster := by
  rw [listed, (List.perm_insertionSort _ _).mem_iff]
  simp

theorem nodup_listed (h : Keyed rows) (cluster : String) : ((listed rows cluster collate).map (·.host)).Nodup := by
  have hfilter : ((rows.filter fun row => row.cluster = cluster).map fun row => (row.cluster, row.host)).Nodup :=
    h.sublist (List.filter_sublist.map _)
  have hkeys : (rows.filter fun row => row.cluster = cluster).map (fun row => (row.cluster, row.host)) =
      ((rows.filter fun row => row.cluster = cluster).map (·.host)).map fun host => (cluster, host) := by
    rw [List.map_map]
    refine List.map_congr_left ?_
    intro row hrow
    have hcluster : row.cluster = cluster := by simpa using (List.mem_filter.1 hrow).2
    rw [hcluster]
    rfl
  rw [hkeys] at hfilter
  rw [listed]
  exact ((List.perm_insertionSort _ _).map _).nodup_iff.2 hfilter.of_map

end Table

/-! ## Every interleaving -/

section Edits

variable {lib : Library} {cfg : NodeListConfig} {collate : String → String → Bool}

/-- the hosts a coordinator reports are made of host characters -/
def ReportsHosts (lib : Library) (reported : List Value) : Prop :=
  ∀ row ∈ reported, ∀ host, hostOf lib (row.get "http_uri") = .ok host → host ≠ "" → IsHost host

/-- the answer to a scan's query -/
def HostsReported (lib : Library) (_ : Request) (_ : Site NodeWorld) (_ : Ghost) (o : Oracle NodeWeather) : Act NodeAct → Prop
  | .op (.queryNodes _) => ∀ reported, o.inner.reported = .ok reported → ReportsHosts lib reported
  | _ => True

theorem named_of_rowOf {cluster : String} {reported : List Value} {row : NodeRow} (h : RowOf lib cfg cluster reported row)
    (hreported : ReportsHosts lib reported) : Named row := by
  rcases h.names with ⟨hhost, haddress⟩ | ⟨haddress, hne, node, hnode, hhost⟩
  · exact ⟨hhost, haddress⟩
  · have hname := hreported node hnode row.host hhost hne
    exact ⟨hname, by rw [haddress]; exact hname⟩

/-- a statement that the contract permits leaves a table that may be written down -/
theorem listable_serve {g : Ghost} {cluster : String} {o : NodeWeather} {e : NodeAct} {w : NodeWorld}
    (hpermitted : Permitted lib cfg cluster g e) (hreported : ReportsHosts lib g.reported) (h : Listable w.rows) :
    Listable (serveNodes collate o e w).2.rows := by
  rcases rows_serveNodes collate o e w with hrows | hrows
  · rw [hrows]
    exact h
  · rw [hrows]
    cases e with
    | insert row => exact h.insertRow (named_of_rowOf hpermitted.1 hreported)
    | touch cluster change seenAt => exact h.touchRow cluster change seenAt
    | remove cluster host => exact h.removeRow cluster host
    | list cluster => exact h
    | queryNodes cluster => exact h
    | writeTemporary path written => exact h
    | replace path => exact h

theorem reportsHosts_after {g : Ghost} {o : NodeWeather} {e : NodeAct} {w : NodeWorld}
    (hquery : ∀ cluster, e = .queryNodes cluster → ∀ reported, o.reported = .ok reported → ReportsHosts lib reported)
    (h : ReportsHosts lib g.reported) : ReportsHosts lib (g.after e (serveNodes collate o e w).1).reported := by
  by_cases he : ∃ cluster, e = .queryNodes cluster
  · obtain ⟨cluster, rfl⟩ := he
    cases hreported : o.reported with
    | error m =>
      have hanswer : (serveNodes collate o (.queryNodes cluster) w).1 = .error m := hreported
      rw [hanswer]
      exact h
    | ok reported =>
      have hanswer : (serveNodes collate o (.queryNodes cluster) w).1 = .ok reported := hreported
      rw [hanswer]
      exact hquery cluster rfl reported hreported
  · rw [reported_after fun cluster hc => he ⟨cluster, hc⟩]
    exact h

/-- **The file says what the list says**, in every interleaving of edits from the empty table, whatever fails in them, if
the coordinators report hosts of host characters. -/
theorem round_trip (hlower : lib.lower "coordinator" = "coordinator" ∧ lib.lower "worker" = "worker")
    {files : String → Option Written} {moves : List (Pool.Move Request (Oracle NodeWeather) Empty)}
    (h : Meets (Pool.step (edits lib cfg collate)) (Pool.Suits (HostsReported lib)) ⟨⟨⟨[], 0, files⟩, []⟩, []⟩ moves)
    {cluster : String} (hcluster : OneLine cluster) :
    RoundTrip lib.toLetters cluster (listed
      (run (Pool.step (edits lib cfg collate)) ⟨⟨⟨[], 0, files⟩, []⟩, []⟩ moves).shared.service.rows cluster collate) := by
  have hlistable : Listable (run (Pool.step (edits lib cfg collate)) ⟨⟨⟨[], 0, files⟩, []⟩, []⟩ moves).shared.service.rows := by
    refine Pool.pool_rely_suits (edits lib cfg collate) (fun site => Listable site.service.rows)
      (fun _ _ g => ReportsHosts lib g.reported) (fun _ _ => True) ?_ ?_ ?_ ?_ ?_ h ?_ ?_ ?_
    · intro request
      exact wp_mono protocol_mono (fun _ _ _ => trivial) (conforms request.edit)
    · intro _ _ _ _ _ hg
      exact hg
    · intro request site hsite
      exact ⟨trivial, hsite, List.forall_mem_nil _⟩
    · intro l
      cases l
    · intro request o e site g hsite hg hok hsuits
      refine ⟨trivial, ?_⟩
      cases e with
      | writable => exact ⟨hsite, hg⟩
      | write entry =>
        refine ⟨?_, hg⟩
        change Listable (handle (serveNodes collate) o (.write entry) site).2.service.rows
        rw [handle_write]
        exact hsite
      | op e =>
        refine ⟨listable_serve hok.2 hg hsite, reportsHosts_after ?_ hg⟩
        intro cluster hquery
        subst hquery
        exact hsuits
    · intro th hth
      cases hth
    · intro th hth
      cases hth
    · exact ⟨List.forall_mem_nil _, List.nodup_nil⟩
  refine roundTrip_of_named hlower hcluster ?_ (nodup_listed hlistable.keyed cluster)
  intro row hrow
  exact hlistable.named row (mem_listed.1 hrow).1

end Edits

/-! ## Two scans -/

namespace Sample

def lib : Library where
  lower := id
  isWord := fun c => c.isLower || c.isUpper || c.isDigit || c == '_'
  str
    | .str s => s
    | _ => ""
  repr := id
  checkNetloc := fun _ => none

def cfg : NodeListConfig := ⟨["a"], [("a", "/inventory/a.ini")], true⟩

def collate (a b : String) : Bool := decide (a ≤ b)

def admin : Principal := ⟨"kim", ["admin"]⟩

/-- a row of `system.runtime.nodes` -/
def node (uri : String) (coordinator : Bool) : Value := .dict [("http_uri", .str uri), ("coordinator", .bool coordinator)]

/-- a scan of an empty list that is answered with these rows -/
def scanned (reported : List Value) : List (Pool.Move Request (Oracle NodeWeather) Empty) :=
  .spawn ⟨"a", .scan admin 7⟩ :: List.replicate 8 (.act 0 ⟨true, ⟨.none, .ok reported⟩⟩)

/-- the list after it -/
def scannedList (reported : List Value) : List NodeRow :=
  listed (run (Pool.step (edits lib cfg collate)) ⟨⟨⟨[], 0, fun _ => none⟩, []⟩, []⟩ (scanned reported)).shared.service.rows
    "a" collate

def cluster : List Value := [node "https://10.0.0.2:8443" false, node "https://10.0.0.1:8443" true]

end Sample

theorem reportsHosts_cluster : ReportsHosts Sample.lib Sample.cluster := by
  have hworker : hostOf Sample.lib ((Sample.node "https://10.0.0.2:8443" false).get "http_uri") = .ok "10.0.0.2" := by
    decide +kernel
  have hcoordinator : hostOf Sample.lib ((Sample.node "https://10.0.0.1:8443" true).get "http_uri") = .ok "10.0.0.1" := by
    decide +kernel
  intro row hrow host hhost _
  rcases List.mem_cons.1 hrow with rfl | hrow
  · obtain rfl := Except.ok.inj (hworker.symm.trans hhost)
    exact ⟨by decide, List.all_eq_true.1 (by decide)⟩
  · obtain rfl := List.mem_singleton.1 hrow
    obtain rfl := Except.ok.inj (hcoordinator.symm.trans hhost)
    exact ⟨by decide, List.all_eq_true.1 (by decide)⟩

/-- the outside of a move reports hosts of host characters -/
def MoveReports (lib : Library) : Pool.Move Request (Oracle NodeWeather) Empty → Prop
  | .act _ o => ∀ reported, o.inner.reported = .ok reported → ReportsHosts lib reported
  | _ => True

theorem suits_of_moveReports {lib : Library} {p : Pool.State Request (Act NodeAct) (Answer NodeAct.Answer) Exn Unit
      (Site NodeWorld) Ghost} {m : Pool.Move Request (Oracle NodeWeather) Empty} (h : MoveReports lib m) :
    Pool.Suits (HostsReported lib) p m := by
  cases m with
  | spawn request => trivial
  | outside l => trivial
  | act i o =>
    simp only [Pool.Suits]
    split
    · rename_i request e k g _
      unfold HostsReported
      split
      · exact h
      · trivial
    · trivial

theorem meets_scanned {reported : List Value} (h : ReportsHosts Sample.lib reported) :
    Meets (Pool.step (edits Sample.lib Sample.cfg Sample.collate)) (Pool.Suits (HostsReported Sample.lib))
      ⟨⟨⟨[], 0, fun _ => none⟩, []⟩, []⟩ (Sample.scanned reported) := by
  have hmoves : ∀ m ∈ Sample.scanned reported, MoveReports Sample.lib m := by
    refine List.forall_mem_cons.2 ⟨trivial, ?_⟩
    intro m hm
    obtain rfl := List.eq_of_mem_replicate hm
    intro reported' heq
    obtain rfl := Except.ok.inj heq
    exact h
  exact (meets_of_forall hmoves).mono fun _ _ => suits_of_moveReports

theorem round_trip_cluster : RoundTrip Sample.lib.toLetters "a" (Sample.scannedList Sample.cluster) ∧
    (Sample.scannedList Sample.cluster).map (·.host) = ["10.0.0.1", "10.0.0.2"] := by
  have hline : OneLine "a" := none_of_any (by decide)
  exact ⟨round_trip ⟨rfl, rfl⟩ (meets_scanned reportsHosts_cluster) hline, by decide +kernel⟩

/-- **A variable of its own.** One URI with a space in it, and the file names another address. -/
theorem injected : ¬RoundTrip Sample.lib.toLetters "a"
      (Sample.scannedList [Sample.node "http://w1 ansible_host=10.9.9.9:8080" false]) ∧
    (parseInventory Sample.lib.toLetters (renderInventory "a"
      (Sample.scannedList [Sample.node "http://w1 ansible_host=10.9.9.9:8080" false])) "a").map
        (fun n => (n.host, Fleet.address n)) = [("w1", "10.9.9.9")] := by
  have hlist : Sample.scannedList [Sample.node "http://w1 ansible_host=10.9.9.9:8080" false] =
      [⟨"a", "w1 ansible_host=10.9.9.9", "w1 ansible_host=10.9.9.9", .worker, .discovered, none, "tms-scan", none, none,
        some 7⟩] := by decide +kernel
  rw [hlist]
  refine ⟨?_, by decide +kernel⟩
  intro h
  have hname := isHost_of_roundTrip h List.mem_cons_self
  exact absurd (hname.2 ' ' (by decide)) (by decide)

end TrinoManagement.Nodes
