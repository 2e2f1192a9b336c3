/-
Revert undoes: an accepted revert gives an environment the tree that a revision found, up to row ids.

A snapshot names parents and targets by dotted path. Its groups go in by depth, each below the one whose path is its own
without the last name; in a tree without blocking findings a path is one group's, and no group has the empty one.
- `placed_chains`: the rows put back have the paths of the snapshot.
- `restored_tree`: so the tree read from them is the snapshot's, selectors in the same order.
- `revert_undoes`: the property, after any calls of any environments.
-/
import Mathlib.Tactic
import TrinoManagement.ResourceGroups.Writes

namespace TrinoManagement.ResourceGroups

/-! ## Trees up to row ids -/

/-- a group without its row id; the path names its parents -/
def GroupView.content (g : GroupView) : List String × String × Limits := (g.path, g.name, g.limits)

/-- a selector without row ids -/
def SelectorView.content (s : SelectorView) : ℤ × String × List (MatcherColumn × String) := (s.priority, s.target, s.matchers)

/-- the same groups, and the same selectors in the same order -/
structure SameTree (tree tree' : Tree) : Prop where
  groups : (tree.groups.map GroupView.content).Perm (tree'.groups.map GroupView.content)
  selectors : tree.selectors.map SelectorView.content = tree'.selectors.map SelectorView.content

/-- groups in the order in which `_restore` inserts them -/
structure Insertable (groups : List GroupView) : Prop where
  sorted : groups.Pairwise fun g g' => g.path.length ≤ g'.path.length
  unique : (groups.map GroupView.id).Nodup
  rooted : ∀ g ∈ groups, ∃ above, g.path = above ++ [g.name] ∧ (above = [] ∨ ∃ q ∈ groups, q.path = above)
  named : ∀ g ∈ groups, g.id ≠ ""
  exported : ∀ g ∈ groups, g.limits.jmxExport.isSome = true

section Insertable

variable {lib : Library} {provider : Bool} {tree : Tree}

/-- a path that ends in a name is not the empty text -/
theorem intercalate_ne_empty {above : List String} {name : String} (h : name ≠ "") : ".".intercalate (above ++ [name]) ≠ "" := by
  by_cases habove : above = []
  · subst habove
    rwa [List.nil_append, String.intercalate_singleton]
  · rw [String.intercalate_append_of_ne_nil habove (by simp), String.intercalate_singleton]
    intro hempty
    have hname := congrArg String.toList hempty
    simp at hname

theorem insertable (h : Allowed lib tree provider) : Insertable (byDepth tree.groups) := by
  have hperm : (byDepth tree.groups).Perm tree.groups := List.perm_insertionSort _ _
  refine ⟨List.pairwise_insertionSort _ _, ?_, ?_, ?_, ?_⟩
  · exact (hperm.map GroupView.id).nodup_iff.2 (unique_of_allowed h)
  · intro g hg
    obtain ⟨above, hpath, habove⟩ := tree.shaped.rooted g (hperm.mem_iff.1 hg)
    refine ⟨above, hpath, habove.imp_right ?_⟩
    intro habove
    obtain ⟨q, hq, hqpath⟩ := habove
    exact ⟨q, hperm.mem_iff.2 hq, hqpath⟩
  · intro g hg
    have hmem := hperm.mem_iff.1 hg
    obtain ⟨above, hpath, -⟩ := tree.shaped.rooted g hmem
    rw [GroupView.id, hpath]
    apply intercalate_ne_empty
    intro hname
    apply not_blank_of_allowed h hmem
    rw [hname]
    rfl
  · exact fun g hg => tree.shaped.exported g (hperm.mem_iff.1 hg)

end Insertable

/-! ## Rows put back -/

section Placed

variable {e : String} {all : List GroupRow}

/-- the new ids by path: of each group done so far, that of a row on its chain, and nothing else -/
structure Known (all : List GroupRow) (done : List GroupView) (ids : List (String × ℤ)) : Prop where
  found : ∀ g ∈ done, ∃ id, ids.lookup g.id = some id ∧ Chain all id g.path
  only : ∀ key id, ids.lookup key = some id → ∃ g ∈ done, g.id = key

/-- a row has the name, the limits and the path of a group -/
structure Stands (all : List GroupRow) (g : GroupView) (row : GroupRow) : Prop where
  name : row.name = g.name
  limits : row.limits = g.limits
  chain : Chain all row.id g.path

/-- the group after those that are done: its parent is one of them -/
theorem chain_next {done todo : List GroupView} {g : GroupView} {ids : List (String × ℤ)} {row : GroupRow}
    (hinsertable : Insertable (done ++ g :: todo)) (hknown : Known all done ids) (hrow : byId all row.id = some row)
    (hname : row.name = g.name) (hparent : row.parent = ids.lookup g.parentId) : Chain all row.id g.path := by
  obtain ⟨above, hpath, habove⟩ := hinsertable.rooted g (by simp)
  have hparentId : g.parentId = ".".intercalate above := by
    rw [GroupView.parentId, hpath, List.dropLast_concat]
  rw [hpath, ← hname]
  by_cases hnil : above = []
  · subst hnil
    have hnone : row.parent = none := by
      rw [hparent, hparentId]
      by_contra hsome
      obtain ⟨id, hid⟩ := Option.ne_none_iff_exists'.1 hsome
      obtain ⟨q, hq, hempty⟩ := hknown.only _ id hid
      exact hinsertable.named q (List.mem_append_left _ hq) hempty
    exact .root hrow hnone
  · obtain ⟨q, hq, hqpath⟩ := habove.resolve_left hnil
    have hdone : q ∈ done := by
      rcases List.mem_append.1 hq with hq | hq
      · exact hq
      · -- what comes later is not higher up
        have hle : g.path.length ≤ q.path.length := by
          rcases List.mem_cons.1 hq with rfl | hq
          · exact le_rfl
          · exact (List.pairwise_cons.1 (List.pairwise_append.1 hinsertable.sorted).2.1).1 q hq
        rw [hpath, hqpath, List.length_append, List.length_singleton] at hle
        omega
    obtain ⟨id, hid, hchain⟩ := hknown.found q hdone
    rw [hqpath] at hchain
    refine .child hrow ?_ hchain
    rw [hparent, hparentId, ← hqpath]
    exact hid

theorem placed_chains {done todo : List GroupView} {ids ids' : List (String × ℤ)} {rows : List GroupRow}
    (h : Placed e ids todo rows ids') (hkeys : (all.map GroupRow.id).Nodup) (hall : ∀ row ∈ rows, row ∈ all)
    (hinsertable : Insertable (done ++ todo)) (hknown : Known all done ids) :
    List.Forall₂ (Stands all) todo rows ∧ Known all (done ++ todo) ids' := by
  induction h generalizing done with
  | nil =>
    rw [List.append_nil]
    exact ⟨.nil, hknown⟩
  | @cons ids ids' g groups id rows hrest ih =>
    have hrow := byId_eq_some hkeys (hall _ List.mem_cons_self)
    have hchain := chain_next hinsertable hknown hrow rfl rfl
    have hsplit : done ++ g :: groups = (done ++ [g]) ++ groups := by simp
    rw [hsplit] at hinsertable ⊢
    have hknown' : Known all (done ++ [g]) ((g.id, id) :: ids) := by
      constructor
      · intro q hq
        rcases List.mem_append.1 hq with hq | hq
        · have hne : q.id ≠ g.id := by
            have hunique := hinsertable.unique
            rw [List.map_append, List.map_append, List.append_assoc] at hunique
            have hdisjoint := (List.nodup_append.1 hunique).2.2
            exact hdisjoint _ (List.mem_map_of_mem hq) _ (by simp)
          obtain ⟨k, hk, hqchain⟩ := hknown.found q hq
          refine ⟨k, ?_, hqchain⟩
          rw [List.lookup_cons, beq_false_of_ne hne]
          exact hk
        · obtain rfl := List.mem_singleton.1 hq
          exact ⟨id, by simp, hchain⟩
      · intro key k hk
        by_cases hkey : key = g.id
        · exact ⟨g, by simp, hkey.symm⟩
        · rw [List.lookup_cons, beq_false_of_ne hkey] at hk
          obtain ⟨q, hq, hqid⟩ := hknown.only key k hk
          exact ⟨q, List.mem_append_left _ hq, hqid⟩
    obtain ⟨hstands, hknown''⟩ := ih (fun row hmem => hall row (List.mem_cons_of_mem _ hmem)) hinsertable hknown'
    exact ⟨.cons ⟨rfl, rfl, hchain⟩ hstands, hknown''⟩

theorem views_content {groups : List GroupView} {rows : List GroupRow} (h : List.Forall₂ (Stands all) groups rows)
    (hkeys : (all.map GroupRow.id).Nodup) (hall : ∀ row ∈ rows, row ∈ all)
    (hexported : ∀ g ∈ groups, g.limits.jmxExport.isSome = true) :
    (rows.map (GroupRow.view (dottedPaths all))).map GroupView.content = groups.map GroupView.content := by
  induction h with
  | nil => rfl
  | @cons g row groups rows hstands _ ih =>
    have hpath := path_of_chain hkeys (hall row List.mem_cons_self) hstands.chain
    obtain ⟨exported, hsome⟩ := Option.isSome_iff_exists.1 (hexported g List.mem_cons_self)
    have hlimits : (row.view (dottedPaths all)).limits = g.limits := by
      change { row.limits with jmxExport := some (row.limits.jmxExport.getD false) } = g.limits
      rw [hstands.limits, hsome, Option.getD_some, ← hsome]
    have hhead : (row.view (dottedPaths all)).content = g.content := by
      rw [GroupView.content, GroupView.content, hpath, hlimits]
      exact congrArg (fun name => (g.path, name, g.limits)) hstands.name
    rw [List.map_cons, List.map_cons, List.map_cons, hhead,
      ih (fun r hr => hall r (List.mem_cons_of_mem _ hr)) fun q hq => hexported q (List.mem_cons_of_mem _ hq)]

/-- selectors are inserted from the first to the last, so their ids keep the order -/
theorem pointed_views {ids : List (String × ℤ)} {n : ℤ} {groups : List GroupView} {selectors : List SelectorView}
    {rows : List SelectorRow} (h : Pointed ids n selectors rows) (hkeys : (all.map GroupRow.id).Nodup)
    (hknown : Known all groups ids) (htargets : ∀ s ∈ selectors, s.target ∈ groups.map GroupView.id)
    (hspoken : ∀ s ∈ selectors, ∀ m ∈ s.matchers, m.2 ≠ "") :
    (rows.map (SelectorRow.view (groupViews all))).map SelectorView.content = selectors.map SelectorView.content := by
  induction h with
  | nil => rfl
  | @skip n s selectors rows hnone _ _ =>
    obtain ⟨g, hg, hid⟩ := List.mem_map.1 (htargets s List.mem_cons_self)
    obtain ⟨id, hlookup, -⟩ := hknown.found g hg
    rw [hid, hnone] at hlookup
    cases hlookup
  | @cons n target s selectors rows htarget _ ih =>
    obtain ⟨g, hg, hid⟩ := List.mem_map.1 (htargets s List.mem_cons_self)
    obtain ⟨id, hlookup, hchain⟩ := hknown.found g hg
    rw [hid, htarget] at hlookup
    obtain rfl := Option.some.inj hlookup
    obtain ⟨row, hrow, rfl⟩ := chain_row hchain
    have hpoints : targetOf (groupViews all) row.id = s.target := by
      rw [targetOf_row hkeys hrow, GroupView.id, path_of_chain hkeys hrow hchain]
      exact hid
    have hmatchers : s.matchers.filter (fun m => m.2 ≠ "") = s.matchers := by
      rw [List.filter_eq_self]
      exact fun m hm => decide_eq_true (hspoken s List.mem_cons_self m hm)
    have hhead : (SelectorRow.view (groupViews all) ⟨n, row.id, s.priority, s.matchers⟩).content = s.content := by
      simp only [SelectorRow.view, SelectorView.content, hpoints, hmatchers]
    rw [List.map_cons, List.map_cons, List.map_cons, hhead,
      ih (fun s' hs => htargets s' (List.mem_cons_of_mem _ hs)) fun s' hs => hspoken s' (List.mem_cons_of_mem _ hs)]

theorem pointed_ordered {ids : List (String × ℤ)} {n : ℤ} {selectors : List SelectorView} {rows : List SelectorRow}
    (h : Pointed ids n selectors rows) (hordered : selectors.Pairwise fun s s' => s'.priority ≤ s.priority) :
    rows.Pairwise SelectorRow.Before ∧ (∀ row ∈ rows, n ≤ row.id) ∧ ∀ row ∈ rows, ∃ s ∈ selectors, row.priority = s.priority := by
  induction h with
  | nil => simp
  | skip _ _ ih =>
    obtain ⟨hsorted, hids, hpriorities⟩ := ih (List.pairwise_cons.1 hordered).2
    refine ⟨hsorted, hids, ?_⟩
    intro row hrow
    obtain ⟨s, hs, hpriority⟩ := hpriorities row hrow
    exact ⟨s, List.mem_cons_of_mem _ hs, hpriority⟩
  | @cons n target s selectors rows _ _ ih =>
    obtain ⟨hfirst, hrest⟩ := List.pairwise_cons.1 hordered
    obtain ⟨hsorted, hids, hpriorities⟩ := ih hrest
    refine ⟨List.pairwise_cons.2 ⟨?_, hsorted⟩, ?_, ?_⟩
    · intro row hrow
      obtain ⟨s', hs', hpriority⟩ := hpriorities row hrow
      have hle := hfirst s' hs'
      have hid := hids row hrow
      unfold SelectorRow.Before
      dsimp only
      omega
    · intro row hrow
      rcases List.mem_cons.1 hrow with rfl | hrow
      · exact le_rfl
      · have hid := hids row hrow
        omega
    · intro row hrow
      rcases List.mem_cons.1 hrow with rfl | hrow
      · exact ⟨s, List.mem_cons_self, rfl⟩
      · obtain ⟨s', hs', hpriority⟩ := hpriorities row hrow
        exact ⟨s', List.mem_cons_of_mem _ hs', hpriority⟩

end Placed

/-! ## The tree that is read back -/

section Restored

variable {lib : Library} {provider : Bool} {e : String} {t w : Tables} {snapshot : Tree}

/-- only what was put back is the environment's -/
theorem restored_groupsOf {rows : List GroupRow} (hgroups : w.groups = (t.dropGroups (GroupRow.within e)).groups ++ rows)
    (hown : ∀ row ∈ rows, row.environment = some e) : w.groupsOf e = rows := by
  have hnone : (t.dropGroups (GroupRow.within e)).groups.filter (fun g => g.environment = some e) = [] := by
    rw [List.filter_eq_nil_iff]
    intro g hg henvironment
    exact nothing_left hg (of_decide_eq_true henvironment)
  have hall : rows.filter (fun g => g.environment = some e) = rows := by
    rw [List.filter_eq_self]
    exact fun row hrow => decide_eq_true (hown row hrow)
  rw [Tables.groupsOf, hgroups, List.filter_append, hnone, hall, List.nil_append]

theorem restored_selectorsOf {rows : List GroupRow} {selectors : List SelectorRow}
    (hgroups : w.groups = (t.dropGroups (GroupRow.within e)).groups ++ rows)
    (hselectors : w.selectors = (t.dropGroups (GroupRow.within e)).selectors ++ selectors)
    (hown : w.groupsOf e = rows) (htargets : ∀ s ∈ selectors, s.target ∈ rows.map GroupRow.id) :
    w.selectorsOf e = selectors := by
  have hkeys := w.groupKeys
  rw [hgroups, List.map_append] at hkeys
  have hnone : (t.dropGroups (GroupRow.within e)).selectors.filter (fun s => s.target ∈ rows.map GroupRow.id) = [] := by
    rw [List.filter_eq_nil_iff]
    intro s hs hmem
    have hold := (t.dropGroups (GroupRow.within e)).targets s hs
    exact (List.nodup_append.1 hkeys).2.2 _ hold _ (of_decide_eq_true hmem) rfl
  have hall : selectors.filter (fun s => s.target ∈ rows.map GroupRow.id) = selectors := by
    rw [List.filter_eq_self]
    exact fun s hs => decide_eq_true (htargets s hs)
  rw [Tables.selectorsOf, hown, hselectors, List.filter_append, hnone, hall, List.nil_append]

/-- **What is put back reads as it was.** -/
theorem restored_tree (h : Restored e snapshot (t.dropGroups (GroupRow.within e)) w) (hallowed : Allowed lib snapshot provider) :
    SameTree (w.tree e) snapshot := by
  obtain ⟨ids, rows, n, selectors, hplaced, hpointed, hgroups, hselectors⟩ := h
  obtain ⟨henvironment, -, hids⟩ := hplaced.rows
  have hown := restored_groupsOf hgroups henvironment
  have htargets : ∀ s ∈ selectors, s.target ∈ rows.map GroupRow.id := by
    intro s hs
    exact (hids _ (hpointed.targets s hs)).resolve_left (by simp)
  have hpointing := restored_selectorsOf hgroups hselectors hown htargets
  have hkeys : (rows.map GroupRow.id).Nodup := by
    rw [← hown]
    exact (w.selectGroups e).keys
  have hinsertable := insertable hallowed
  have hperm : (byDepth snapshot.groups).Perm snapshot.groups := List.perm_insertionSort _ _
  obtain ⟨hstands, hknown⟩ := @placed_chains e rows [] _ [] ids rows hplaced hkeys (fun _ hrow => hrow) hinsertable
    ⟨by simp, by simp⟩
  have hviews : (groupViews rows).map GroupView.content = (byDepth snapshot.groups).map GroupView.content :=
    views_content hstands hkeys (fun _ hrow => hrow) hinsertable.exported
  have hsorted := (pointed_ordered hpointed snapshot.shaped.ordered).1
  constructor
  · change ((groupViews (w.groupsOf e)).map GroupView.content).Perm _
    rw [hown, hviews]
    exact hperm.map GroupView.content
  · change ((((w.selectorsOf e).insertionSort SelectorRow.Before).map
      (SelectorRow.view (groupViews (w.groupsOf e)))).map SelectorView.content) = _
    rw [hpointing, hsorted.insertionSort_eq, hown]
    refine pointed_views hpointed hkeys hknown ?_ snapshot.shaped.spoken
    intro s hs
    exact (hperm.map GroupView.id).mem_iff.2 (target_of_allowed hallowed hs)

/-- **Revert undoes.** Whatever was done after a revision whose earlier tree the rules allow, an accepted revert of it leaves
that tree, and every revision there was. -/
theorem revert_undoes (lib : Library) (db : Db) (r : Revision) (hr : r ∈ db.committed.revisions) (provider : Bool)
    (hallowed : blocking (validate lib r.treeBefore provider) = []) (calls : List Call) (req : Request)
    (henvironment : req.environment = r.environment) (revision : RowRef) (hrevision : revision.value = .number r.id)
    (faults : List (Option String)) (result : ChangeResult) (db' : Db)
    (haccepted : Prog.run handle faults (Write.run lib req (.revert revision)) (runCalls lib calls db) = (.ok result, db')) :
    SameTree (db'.committed.tree r.environment) r.treeBefore ∧
      (runCalls lib calls db).committed.revisions <+: db'.committed.revisions := by
  have hlater : r ∈ (runCalls lib calls db).committed.revisions := (run_history calls db).subset hr
  have h := @write_lands lib req (.revert revision) faults (runCalls lib calls db)
  rw [haccepted] at h
  obtain ⟨w, hlands, hrecorded⟩ := h
  obtain ⟨kind, target, hrevisions⟩ := hrecorded.revisions
  refine ⟨?_, by rw [hrevisions]; exact List.prefix_append _ _⟩
  cases hlands with
  | @reverted _ r' _ hkey hr' _ hrestored =>
    -- an id is one revision's
    have hid : r.id = r'.id := by
      rw [hrevision] at hkey
      exact Option.some.inj (Except.ok.inj hkey)
    obtain rfl := List.inj_on_of_nodup_map (runCalls lib calls db).committed.revisionKeys hlater hr' hid
    obtain ⟨ids, rows, n, selectors, hplaced, hpointed, hgroups, hselectors⟩ := hrestored
    rw [← henvironment]
    exact restored_tree ⟨ids, rows, n, selectors, hplaced, hpointed, hrecorded.groups.trans hgroups,
      hrecorded.selectors.trans hselectors⟩ hallowed

end Restored

/-! ## A run -/

/-- a root with a limit and a catch-all selector -/
def oneCluster : Db where
  committed :=
    { groups := [⟨1, some "cluster1", "global", none, { Limits.null with hardConcurrencyLimit := some 100, maxQueued := some 1000 }⟩]
      selectors := [⟨1, 1, 10, []⟩]
      revisions := []
      groupKeys := List.nodup_singleton 1
      selectorKeys := List.nodup_singleton 1
      revisionKeys := List.nodup_nil
      parents := by decide
      targets := by decide }
  working := none
  groupSeq := 2
  selectorSeq := 2
  revisionSeq := 1

def tuning : Request := ⟨"cluster1", "admin", "tuning", "77aa", false⟩

/-- an update of the root -/
def tuned : Db :=
  Call.step .plain oneCluster ⟨tuning, .updateGroup ⟨"1", .number 1⟩ [.editable (.maxQueued (some 50))], []⟩

/-- a group whose name has a dot, and a selector for it -/
def laterCalls : List Call :=
  [⟨tuning, .createGroup "etl.night" (.number 1)
      [.editable (.hardConcurrencyLimit (some 8)), .editable (.maxQueued (some 100))], []⟩,
    ⟨tuning, .createSelector ⟨"2", .number 2⟩ (some 20) [("source_regex", some "night")], []⟩]

def undo : Except StoreError ChangeResult × Db :=
  Prog.run handle [] (Write.run .plain tuning (.revert ⟨"1", .number 1⟩)) (runCalls .plain laterCalls tuned)

theorem undo_accepted : undo.1.isOk = true ∧ tuned.committed.revisions.map (fun r => (r.id, r.environment)) = [(1, "cluster1")] ∧
    ∀ r ∈ tuned.committed.revisions, blocking (validate .plain r.treeBefore false) = [] := by
  decide +kernel

theorem revert_undoes_tuning : ∃ r ∈ tuned.committed.revisions, SameTree (undo.2.committed.tree r.environment) r.treeBefore := by
  obtain ⟨hok, hhistory, hallowed⟩ := undo_accepted
  obtain ⟨r, hr, hfields⟩ := List.mem_map.1 (hhistory ▸ List.mem_singleton.2 rfl :
    ((1 : ℤ), "cluster1") ∈ tuned.committed.revisions.map fun r => (r.id, r.environment))
  obtain ⟨hid, henvironment⟩ := Prod.mk.inj hfields
  refine ⟨r, hr, ?_⟩
  cases hrun : undo with
  | mk result db' =>
    rw [hrun] at hok
    cases result with
    | error e => cases hok
    | ok result =>
      have hsame := revert_undoes .plain tuned r hr false (hallowed r hr) laterCalls tuning henvironment.symm ⟨"1", .number 1⟩
        (congrArg Param.number hid.symm) [] result db' hrun
      exact hsame.1

end TrinoManagement.ResourceGroups
