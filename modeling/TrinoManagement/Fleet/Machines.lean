/-
Which row a scan takes a reported host for, and which machine a row is, `tms/fleet/nodes.py` and `tms/fleet/discovery.py`.

A reported host is the host of a URI in lower case. A row has a host and an address, which nothing has normalised.
- `names`: what a row's machine may be reported as. `resolve`: the row that `plan_refresh` finds for a host.
- `lookup_byHost`: the scan's dict finds the row with that host, else the first row with that address.
- `added_planRefresh`, `mem_silent`: so a scan adds what resolves to no row, and leaves what nothing resolves to.
- `addAll_keeps`, `touchAll_keeps`: what the writes of a scan may raise.
- `describeAll`: the rows as the screen shows them. `answering_iff`: a row answers if it was seen and none was seen later.
-/
import Mathlib.Tactic
import TrinoManagement.Fleet.NodeService

namespace TrinoManagement.Nodes

open TrinoManagement.Guard
open TrinoManagement.Prog (onOk)
open TrinoManagement.Service (Exn)

/-! ## Names -/

/-- the host and the address, as they stand and as `host_of` reads them -/
def names (lib : Library) (row : NodeRow) : List String :=
  [row.host, row.at] ++ [row.host, row.address].filterMap fun name => (hostOf lib (.str name)).toOption

/-- the row a scan takes a host for -/
def resolve (existing : List NodeRow) (host : String) : Option NodeRow :=
  (existing.find? fun row => row.host == host).or (existing.find? fun row => row.at == host)

/-- the rows of one cluster, as they are read back -/
structure NodeList where
  rows : List NodeRow
  keyed : (rows.map (·.host)).Nodup

section Resolve

variable {existing : List NodeRow} {host : String} {row : NodeRow} {found : List Found}

theorem byHost_snoc (existing : List NodeRow) (row : NodeRow) :
    byHost (existing ++ [row]) = if row.at ∈ ((byHost existing).set row.host row).keys then (byHost existing).set row.host row
      else ((byHost existing).set row.host row).set row.at row := by
  rw [byHost, List.foldl_append]
  rfl

theorem mem_keys_iff {β : Type} {d : Dict β} {key : String} : key ∈ d.keys ↔ (d.lookup key).isSome = true := by
  rw [← not_iff_not, Bool.not_eq_true, Option.isSome_eq_false_iff, Option.isNone_iff_eq_none, Dict.lookup_eq_none]

theorem lookup_byHost_snoc : (byHost (existing ++ [row])).lookup host =
    if host = row.host then some row else ((byHost existing).lookup host).or (if host = row.at then some row else none) := by
  rw [byHost_snoc]
  split_ifs with hkey hhost hat hhost hat
  · rw [Dict.lookup_set, if_pos hhost]
  · rw [mem_keys_iff, Dict.lookup_set, if_neg (hat ▸ hhost)] at hkey
    rw [Dict.lookup_set, if_neg hhost, hat]
    obtain ⟨found, hfound⟩ := Option.isSome_iff_exists.1 hkey
    rw [hfound, Option.some_or]
  · rw [Dict.lookup_set, if_neg hhost, Option.or_none]
  · rw [Dict.lookup_set, Dict.lookup_set, if_pos hhost]
    split_ifs <;> rfl
  · rw [mem_keys_iff, Dict.lookup_set, if_neg (hat ▸ hhost)] at hkey
    have hnone : (byHost existing).lookup row.at = none := Option.not_isSome_iff_eq_none.1 hkey
    rw [Dict.lookup_set, if_pos hat, hat, hnone, Option.none_or]
  · rw [Dict.lookup_set, if_neg hat, Dict.lookup_set, if_neg hhost, Option.or_none]

/-- **The dict of a scan** finds the row with the host, else the first row with the address. -/
theorem lookup_byHost (h : (existing.map (·.host)).Nodup) : (byHost existing).lookup host = resolve existing host := by
  induction existing using List.reverseRecOn with
  | nil => rfl
  | append_singleton existing row ih =>
    rw [List.map_append, List.nodup_append] at h
    obtain ⟨hrest, -, hapart⟩ := h
    rw [lookup_byHost_snoc, ih hrest, resolve, resolve, List.find?_append, List.find?_append]
    by_cases hhost : host = row.host
    · have hnone : (existing.find? fun r => r.host == host) = none := by
        rw [List.find?_eq_none]
        intro r hr hbeq
        exact hapart _ (List.mem_map_of_mem hr) _ (List.mem_singleton_self _) ((beq_iff_eq.1 hbeq).trans hhost)
      rw [if_pos hhost, hnone, Option.none_or]
      simp [hhost]
    · have hother : ([row].find? fun r => r.host == host) = none := by simp [Ne.symm hhost]
      rw [if_neg hhost, hother, Option.or_none, Option.or_assoc]
      congr 2
      by_cases hat : host = row.at
      · simp [hat]
      · simp [hat, Ne.symm hat]

theorem resolve_eq_none : resolve existing host = none ↔ ∀ row ∈ existing, row.host ≠ host ∧ row.at ≠ host := by
  simp only [resolve, Option.or_eq_none_iff, List.find?_eq_none, beq_iff_eq, ← forall₂_and, ne_eq]

/-- it has the host, or the address -/
theorem resolve_mem (h : resolve existing host = some row) : row ∈ existing ∧ (row.host = host ∨ row.at = host) := by
  rw [resolve, Option.or_eq_some_iff] at h
  rcases h with h | ⟨-, h⟩
  · exact ⟨List.mem_of_find?_eq_some h, .inl (by simpa using List.find?_some h)⟩
  · exact ⟨List.mem_of_find?_eq_some h, .inr (by simpa using List.find?_some h)⟩

theorem mem_names_of_resolve (lib : Library) (h : resolve existing host = some row) : host ∈ names lib row := by
  rcases (resolve_mem h).2 with rfl | rfl
  · simp [names]
  · simp [names]

/-! ## The plan -/

theorem added_planRefresh (h : (existing.map (·.host)).Nodup) :
    (planRefresh existing found).added = found.filter fun node => resolve existing node.host = none := by
  refine List.filter_congr ?_
  intro node _
  rw [lookup_byHost h]

theorem mem_touched_hosts (h : (existing.map (·.host)).Nodup) :
    host ∈ (planRefresh existing found).touched.map (·.host) ↔
      ∃ node ∈ found, ∃ row, resolve existing node.host = some row ∧ row.host = host := by
  simp only [planRefresh, List.mem_map, List.mem_filterMap, Option.map_eq_some_iff, lookup_byHost h]
  constructor
  · rintro ⟨change, ⟨node, hnode, row, hrow, rfl⟩, rfl⟩
    exact ⟨node, hnode, row, hrow, rfl⟩
  · rintro ⟨node, hnode, row, hrow, rfl⟩
    exact ⟨_, ⟨node, hnode, row, hrow, rfl⟩, rfl⟩

/-- two rows of a list with one host are one -/
theorem eq_of_host (h : (existing.map (·.host)).Nodup) {row' : NodeRow} (hrow : row ∈ existing) (hrow' : row' ∈ existing)
    (hhost : row.host = row'.host) : row = row' :=
  List.inj_on_of_nodup_map h hrow hrow' hhost

theorem mem_silent (h : (existing.map (·.host)).Nodup) :
    row ∈ (planRefresh existing found).silent ↔ row ∈ existing ∧ ∀ node ∈ found, resolve existing node.host ≠ some row := by
  have hsilent : row ∈ (planRefresh existing found).silent ↔
      row ∈ existing ∧ row.host ∉ (planRefresh existing found).touched.map (·.host) := by
    simp [planRefresh]
  rw [hsilent, mem_touched_hosts h]
  refine and_congr_right ?_
  intro hrow
  constructor
  · intro hnone node hnode hresolve
    exact hnone ⟨node, hnode, row, hresolve, rfl⟩
  · rintro hnone ⟨node, hnode, row', hresolve, hhost⟩
    obtain rfl := eq_of_host h (resolve_mem hresolve).1 hrow hhost
    exact hnone node hnode hresolve

end Resolve

/-! ## The writes -/

section Writes

variable {collate : String → String → Bool} {cluster : String} {seenAt : ℤ} {w : NodeWorld}

def duplicateNode (m : String) : Exn := .client "DuplicateNode" m

/-- the row that a scan inserts -/
def scanRow (cluster : String) (seenAt : ℤ) (node : Found) : NodeRow :=
  ⟨cluster, node.host, node.address, node.role, .discovered, none, "tms-scan", node.nodeId, node.version, some seenAt⟩

theorem addAll_cons (node : Found) (rest : List Found) : addAll cluster seenAt (node :: rest) =
    (op (.insert (scanRow cluster seenAt node)) >>= fun r => lift scanError r >>= fun _ => addAll cluster seenAt rest) := rfl

theorem insertRow_new {rows : List NodeRow} {row : NodeRow}
    (h : ∀ r ∈ rows, r.cluster = row.cluster → r.host ≠ row.host) : insertRow rows row = (.ok row, rows ++ [row]) := by
  rw [insertRow, if_neg]
  rw [List.any_eq_true]
  rintro ⟨r, hr, hsame⟩
  obtain ⟨hcluster, hhost⟩ := isRow_iff.1 hsame
  exact h r hr hcluster hhost

/-- hosts that are all new, and no two of them one, are no duplicates, whatever the store does -/
theorem addAll_keeps {added : List Found} (hdistinct : (added.map (·.host)).Nodup)
    (hnew : ∀ node ∈ added, ∀ row ∈ w.rows, row.cluster = cluster → row.host ≠ node.host) :
    Post (serveNodes collate) (fun _ => True) (addAll cluster seenAt added)
      (fun x _ => ∀ m, x ≠ .error (duplicateNode m)) w := by
  induction added generalizing w with
  | nil => exact post_pure fun m => by simp
  | cons node rest ih =>
    rw [List.map_cons, List.nodup_cons] at hdistinct
    have hinsert := @insertRow_new w.rows (scanRow cluster seenAt node) (hnew node List.mem_cons_self)
    rw [addAll_cons]
    refine post_bind (post_op ?_)
    intro o _
    dsimp only [onOk]
    refine post_bind (post_lift ?_ ?_)
    · intro stored _
      dsimp only [onOk]
      refine ih hdistinct.2 ?_
      intro node' hnode' row hrow hcluster hhost
      have hbefore := hnew node' (List.mem_cons_of_mem node hnode')
      rcases rows_serveNodes collate o.inner (.insert (scanRow cluster seenAt node)) w with hrows | hrows
      · rw [hrows] at hrow
        exact hbefore row hrow hcluster hhost
      · rw [hrows, NodeAct.rowsAfter, hinsert] at hrow
        rcases List.mem_append.1 hrow with hrow | hrow
        · exact hbefore row hrow hcluster hhost
        · obtain rfl := List.mem_singleton.1 hrow
          exact hdistinct.1 (List.mem_map.2 ⟨node', hnode', hhost.symm⟩)
    · intro e he m heq
      cases e with
      | unavailable m' => cases heq
      | duplicate =>
        rw [serveNodes, hinsert] at he
        cases hfault : o.inner.fault <;> rw [hfault] at he <;> cases he

theorem touchAll_keeps {changes : List Change} :
    Post (serveNodes collate) (fun _ => True) (touchAll cluster seenAt changes)
      (fun x _ => ∀ m, x ≠ .error (duplicateNode m)) w := by
  induction changes generalizing w with
  | nil => exact post_pure fun m => by simp
  | cons change rest ih =>
    rw [touchAll]
    refine post_bind (post_op ?_)
    intro o _
    dsimp only [onOk]
    refine post_bind (post_lift ?_ ?_)
    · intro _ _
      exact ih
    · intro e _ m heq
      cases heq

end Writes

/-! ## The screen -/

/-- a row as the screen shows it -/
structure Described where
  row : NodeRow
  answering : Bool
  handEntered : Bool
deriving DecidableEq, Repr

/-- the newest `last_seen_at` -/
def scannedAt (rows : List NodeRow) : Option ℤ := (rows.filterMap (·.lastSeenAt)).max?

def describeAll (rows : List NodeRow) : List Described :=
  rows.map fun row => ⟨row, row.lastSeenAt.isSome && decide (row.lastSeenAt = scannedAt rows), row.source = .manual⟩

/-- seen, and none later -/
def Newest (rows : List NodeRow) (row : NodeRow) : Prop :=
  ∃ t, row.lastSeenAt = some t ∧ ∀ r ∈ rows, ∀ t', r.lastSeenAt = some t' → t' ≤ t

theorem answering_iff {rows : List NodeRow} {row : NodeRow} (hrow : row ∈ rows) :
    (row.lastSeenAt.isSome && decide (row.lastSeenAt = scannedAt rows)) = true ↔ Newest rows row := by
  rw [Bool.and_eq_true, decide_eq_true_eq, Option.isSome_iff_exists]
  constructor
  · rintro ⟨⟨t, ht⟩, hnewest⟩
    rw [ht] at hnewest
    refine ⟨t, ht, ?_⟩
    intro r hr t' ht'
    exact (List.max?_eq_some_iff.1 hnewest.symm).2 t' (List.mem_filterMap.2 ⟨r, hr, ht'⟩)
  · rintro ⟨t, ht, hnewest⟩
    refine ⟨⟨t, ht⟩, ?_⟩
    rw [ht]
    refine (List.max?_eq_some_iff.2 ⟨List.mem_filterMap.2 ⟨row, hrow, ht⟩, ?_⟩).symm
    intro t' ht'
    obtain ⟨r, hr, ht'⟩ := List.mem_filterMap.1 ht'
    exact hnewest r hr t' ht'

/-- a row marked as answering is the newest there is -/
theorem mem_describeAll {rows : List NodeRow} {d : Described} (h : d ∈ describeAll rows) :
    d.row ∈ rows ∧ (d.answering = true ↔ Newest rows d.row) := by
  obtain ⟨row, hrow, rfl⟩ := List.mem_map.1 h
  exact ⟨hrow, answering_iff hrow⟩

end TrinoManagement.Nodes
