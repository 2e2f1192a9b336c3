/-
The doomed list: whether what the preview of a deletion lists is what the deletion removes.

"A count is something people accept, a list is something they read". The list is made from dotted paths: what begins with the
group's path and a dot. The deletion follows the ids. In a forest of names that the rules allow, paths and ids agree as long
as names and paths do: "etl" and "etl.night" may both be roots.
- `foretells_iff`: the list is what goes iff the row is asked for by its number, no row of another environment hangs below
  it, and no dotted path begins with the group's without its names beginning with the group's names.
- `root_listed_below_another`: the list has a root that stays; asked with the text of its id, as the API asks, it is empty.
-/
import Mathlib.Tactic
import TrinoManagement.Core.Dotted
import TrinoManagement.ResourceGroups.Impact
import TrinoManagement.ResourceGroups.Writes

namespace TrinoManagement.ResourceGroups

open TrinoManagement.Dotted TrinoManagement.Text

/-! ## Below a row -/

section Below

variable {rows : List GroupRow} {r q : GroupRow} {names names' : List String}

/-- reached from the row by parent links -/
def Reaches (rows : List GroupRow) (r : GroupRow) (id : ℤ) : Prop :=
  Links.Below GroupRow.id GroupRow.parent rows [r.id] id

/-- the names from the root down to a row begin with those down to any row above it -/
theorem prefix_of_reaches (hkeys : (rows.map GroupRow.id).Nodup) (hr : Chain rows r.id names) {id : ℤ} (h : Reaches rows r id)
    (hchain : Chain rows id names') : names <+: names' := by
  induction h generalizing names' with
  | top hk =>
    obtain rfl := List.mem_singleton.1 hk
    rw [hr.unique hchain]
  | @under x p hx hparent _ ih =>
    have hrow := byId_eq_some hkeys hx
    cases hchain with
    | root hrow' hnone =>
      rw [hrow] at hrow'
      obtain rfl := Option.some.inj hrow'
      rw [hparent] at hnone
      cases hnone
    | child hrow' hparent' habove =>
      rw [hrow] at hrow'
      obtain rfl := Option.some.inj hrow'
      rw [hparent] at hparent'
      obtain rfl := Option.some.inj hparent'
      exact (ih habove).trans (List.prefix_append _ _)

/-- names that the names of a row begin with are those of a row above it -/
theorem exists_above {id : ℤ} (hchain : Chain rows id names') (hne : names ≠ []) (h : names <+: names') :
    ∃ a ∈ rows, Chain rows a.id names ∧ Reaches rows a id := by
  induction hchain with
  | @root id row hrow hparent =>
    obtain ⟨hmem, rfl⟩ := byId_mem hrow
    have hnames : names = [row.name] := by
      rcases List.prefix_cons_iff.1 h with hnil | ⟨rest, rfl, hrest⟩
      · exact absurd hnil hne
      · rw [List.prefix_nil.1 hrest]
    rw [hnames]
    exact ⟨row, hmem, .root hrow hparent, .top List.mem_cons_self⟩
  | @child id parent row above hrow hparent habove ih =>
    obtain ⟨hmem, rfl⟩ := byId_mem hrow
    rcases List.prefix_concat_iff.1 h with rfl | hshorter
    · exact ⟨row, hmem, .child hrow hparent habove, .top List.mem_cons_self⟩
    · obtain ⟨a, ha, hachain, hreaches⟩ := ih hshorter
      exact ⟨a, ha, hachain, .under hmem hparent hreaches⟩

theorem reaches_mono {rows' : List GroupRow} (hsub : rows ⊆ rows') {id : ℤ} (h : Reaches rows r id) : Reaches rows' r id := by
  induction h with
  | top hk => exact .top hk
  | under hx hparent _ ih => exact .under (hsub hx) hparent ih

theorem reaches_row (hr : r ∈ rows) {id : ℤ} (h : Reaches rows r id) : ∃ q ∈ rows, q.id = id := by
  cases h with
  | top hk =>
    obtain rfl := List.mem_singleton.1 hk
    exact ⟨r, hr, rfl⟩
  | under hx _ _ => exact ⟨_, hx, rfl⟩

end Below

/-! ## The environment's forest -/

/-- every row's parents end at a root -/
def IsForest (rows : List GroupRow) : Prop := ∀ g ∈ rows, ∃ names, Chain rows g.id names

section Forest

variable {rows : List GroupRow} {r q : GroupRow} {names names' : List String}

theorem id_view (hkeys : (rows.map GroupRow.id).Nodup) (hq : q ∈ rows) (hchain : Chain rows q.id names) :
    (q.view (dottedPaths rows)).id = dotted names := by
  rw [GroupView.id, path_of_chain hkeys hq hchain]
  rfl

/-- with a path of its own for every group, the names tell what is below what -/
theorem reaches_iff_names (hkeys : (rows.map GroupRow.id).Nodup) (hunique : ((groupViews rows).map GroupView.id).Nodup)
    (hr : r ∈ rows) (hrchain : Chain rows r.id names) (hqchain : Chain rows q.id names') :
    Reaches rows r q.id ↔ names <+: names' := by
  constructor
  · exact fun h => prefix_of_reaches hkeys hrchain h hqchain
  · intro h
    obtain ⟨a, ha, hachain, hreaches⟩ := exists_above hqchain (chain_ne_nil hrchain) h
    have hid : (a.view (dottedPaths rows)).id = (r.view (dottedPaths rows)).id := by
      rw [id_view hkeys ha hachain, id_view hkeys hr hrchain]
    rw [groupViews, List.map_map] at hunique
    obtain rfl : a = r := List.inj_on_of_nodup_map hunique ha hr hid
    exact hreaches

/-- what the preview goes by: the path, or the path and a dot before more -/
def Listed (rows : List GroupRow) (r q : GroupRow) : Prop :=
  (q.view (dottedPaths rows)).id = (r.view (dottedPaths rows)).id ∨
    ((r.view (dottedPaths rows)).id ++ ".").toList <+: (q.view (dottedPaths rows)).id.toList

instance : Decidable (Listed rows r q) :=
  inferInstanceAs (Decidable ((q.view (dottedPaths rows)).id = (r.view (dottedPaths rows)).id ∨
    ((r.view (dottedPaths rows)).id ++ ".").toList <+: (q.view (dottedPaths rows)).id.toList))

/-- a path begins with the row's path only where the names begin with its names -/
def NameByName (rows : List GroupRow) (r : GroupRow) : Prop :=
  ∀ q ∈ rows, ∀ names names', Chain rows r.id names → Chain rows q.id names' →
    (dotted names ++ ".").toList <+: (dotted names').toList → names <+: names'

theorem listed_of_reaches (hkeys : (rows.map GroupRow.id).Nodup) (hunique : ((groupViews rows).map GroupView.id).Nodup)
    (hforest : IsForest rows) (hr : r ∈ rows) (hq : q ∈ rows) (h : Reaches rows r q.id) : Listed rows r q := by
  obtain ⟨names, hrchain⟩ := hforest r hr
  obtain ⟨names', hqchain⟩ := hforest q hq
  rw [Listed, id_view hkeys hr hrchain, id_view hkeys hq hqchain]
  obtain ⟨rest, rfl⟩ := (reaches_iff_names hkeys hunique hr hrchain hqchain).1 h
  by_cases hrest : rest = []
  · left
    rw [hrest, List.append_nil]
  · right
    have happend : (dotted (names ++ rest)).toList = (dotted names ++ ".").toList ++ (dotted rest).toList := by
      rw [dotted_append (chain_ne_nil hrchain) hrest, String.toList_append]
    rw [happend]
    exact List.prefix_append _ _

theorem reaches_of_listed (hkeys : (rows.map GroupRow.id).Nodup) (hunique : ((groupViews rows).map GroupView.id).Nodup)
    (hforest : IsForest rows) (hr : r ∈ rows) (hq : q ∈ rows) (hnames : NameByName rows r) (h : Listed rows r q) :
    Reaches rows r q.id := by
  obtain ⟨names, hrchain⟩ := hforest r hr
  obtain ⟨names', hqchain⟩ := hforest q hq
  rcases h with hsame | hbelow
  · rw [groupViews, List.map_map] at hunique
    obtain rfl : q = r := List.inj_on_of_nodup_map hunique hq hr hsame
    exact .top List.mem_cons_self
  · rw [id_view hkeys hr hrchain, id_view hkeys hq hqchain] at hbelow
    exact (reaches_iff_names hkeys hunique hr hrchain hqchain).2 (hnames q hq names names' hrchain hqchain hbelow)

/-- names without dots are enough -/
theorem nameByName_of_dotless (hkeys : (rows.map GroupRow.id).Nodup) (hunique : ((groupViews rows).map GroupView.id).Nodup)
    (hr : r ∈ rows) (hdotless : ∀ q ∈ rows, '.' ∉ q.name.toList) : NameByName rows r := by
  intro q hq names names' hrchain hqchain hbelow
  have hsegments : ∀ {id : ℤ} {path : List String}, Chain rows id path → ∀ segment ∈ path, '.' ∉ segment.toList := by
    intro id path hchain
    induction hchain with
    | root hrow _ =>
      rw [List.forall_mem_singleton]
      exact hdotless _ (byId_mem hrow).1
    | child hrow _ _ ih =>
      rw [List.forall_mem_append, List.forall_mem_singleton]
      exact ⟨ih, hdotless _ (byId_mem hrow).1⟩
  obtain ⟨d, hpos, hlt, heq⟩ := (beneath_iff (hsegments hqchain)).1 hbelow
  have htake : names'.take d ≠ [] := by
    rw [← List.length_pos_iff, List.length_take]
    omega
  obtain ⟨a, ha, hachain, -⟩ := exists_above hqchain htake (List.take_prefix d names')
  rw [groupViews, List.map_map] at hunique
  have hid : (a.view (dottedPaths rows)).id = (r.view (dottedPaths rows)).id := by
    rw [id_view hkeys ha hachain, id_view hkeys hr hrchain, heq]
  obtain rfl : a = r := List.inj_on_of_nodup_map hunique ha hr hid
  rw [hrchain.unique hachain]
  exact List.take_prefix d names'

end Forest

/-! ## The preview -/

section Preview

variable {t : Tables} {e : String} {r q : GroupRow}

/-- the preview over what the database has -/
def Tables.impact (t : Tables) (e : String) (row : RowId) : Impact := deletionImpact (fun e => .ok (t.tree e)) e row

theorem load_tree (hstripped : strip e = e) (hname : e ≠ "") : loadConfigured (fun e => .ok (t.tree e)) e = t.tree e := by
  rw [loadConfigured, hstripped, if_neg hname]

theorem impact_text {text : String} : t.impact e (.text text) = ⟨none, [], []⟩ := by
  have hnone : ((loadConfigured (fun e => .ok (t.tree e)) e).groups.find? (RowId.text text).is) = none := by
    rw [List.find?_eq_none]
    exact fun _ _ h => Bool.false_ne_true h
  rw [Tables.impact, deletionImpact, hnone]

/-- a row's view is found by its number -/
theorem find_number (hr : r ∈ t.groupsOf e) :
    (t.tree e).groups.find? (RowId.number r.id).is = some (r.view (dottedPaths (t.groupsOf e))) := by
  have hmem : r.view (dottedPaths (t.groupsOf e)) ∈ (t.tree e).groups := List.mem_map_of_mem hr
  cases h : (t.tree e).groups.find? (RowId.number r.id).is with
  | none => exact absurd (decide_eq_true rfl) (List.find?_eq_none.1 h _ hmem)
  | some g =>
    obtain ⟨q, hq, rfl⟩ := List.mem_map.1 (List.mem_of_find?_eq_some h)
    have his := List.find?_some h
    have hid : q.id = r.id := of_decide_eq_true his
    rw [List.inj_on_of_nodup_map (t.selectGroups e).keys hq hr hid]
    rfl

theorem mem_groups_impact (hstripped : strip e = e) (hname : e ≠ "") (hr : r ∈ t.groupsOf e) (hq : q ∈ t.groupsOf e) :
    q.id ∈ (t.impact e (.number r.id)).groups.map GroupView.rowId ↔ Listed (t.groupsOf e) r q := by
  rw [Tables.impact, deletionImpact, load_tree hstripped hname, find_number hr, List.mem_map]
  constructor
  · rintro ⟨g, hg, hid⟩
    obtain ⟨hmem, hlisted⟩ := List.mem_filter.1 hg
    obtain ⟨q', hq', rfl⟩ := List.mem_map.1 hmem
    obtain rfl : q' = q := List.inj_on_of_nodup_map (t.selectGroups e).keys hq' hq hid
    exact of_decide_eq_true hlisted
  · intro h
    exact ⟨_, List.mem_filter.2 ⟨List.mem_map_of_mem hq, decide_eq_true h⟩, rfl⟩

/-- only the environment's groups are listed -/
theorem groups_impact_mem {row : RowId} (hstripped : strip e = e) (hname : e ≠ "") {id : ℤ}
    (h : id ∈ (t.impact e row).groups.map GroupView.rowId) : ∃ q ∈ t.groupsOf e, q.id = id := by
  obtain ⟨g, hg, rfl⟩ := List.mem_map.1 h
  rw [Tables.impact, deletionImpact, load_tree hstripped hname] at hg
  cases hfind : (t.tree e).groups.find? row.is with
  | none =>
    rw [hfind] at hg
    cases hg
  | some target =>
    rw [hfind] at hg
    obtain ⟨q, hq, rfl⟩ := List.mem_map.1 (List.mem_filter.1 hg).1
    exact ⟨q, hq, rfl⟩

theorem nodup_groups_impact {row : RowId} (hstripped : strip e = e) (hname : e ≠ "") :
    ((t.impact e row).groups.map GroupView.rowId).Nodup := by
  rw [Tables.impact, deletionImpact, load_tree hstripped hname]
  have hkeys : ((t.tree e).groups.map GroupView.rowId).Nodup := by
    change ((groupViews (t.groupsOf e)).map GroupView.rowId).Nodup
    rw [groupViews, List.map_map]
    exact (t.selectGroups e).keys
  cases (t.tree e).groups.find? row.is with
  | none => exact List.nodup_nil
  | some target => exact hkeys.sublist (List.filter_sublist.map _)

theorem nodup_selectors_impact {row : RowId} (hstripped : strip e = e) (hname : e ≠ "") :
    ((t.impact e row).selectors.map SelectorView.id).Nodup := by
  rw [Tables.impact, deletionImpact, load_tree hstripped hname]
  have hkeys : ((t.tree e).selectors.map SelectorView.id).Nodup := by
    change (((t.selectSelectors e).rows.map (SelectorRow.view (groupViews (t.groupsOf e)))).map SelectorView.id).Nodup
    rw [List.map_map]
    have hperm : ((t.selectSelectors e).rows.map SelectorRow.id).Perm ((t.selectorsOf e).map SelectorRow.id) :=
      (List.perm_insertionSort _ _).map _
    exact hperm.nodup_iff.2 (t.selectorKeys.sublist (List.filter_sublist.map _))
  cases (t.tree e).groups.find? row.is with
  | none => exact List.nodup_nil
  | some target => exact hkeys.sublist (List.filter_sublist.map _)

/-- a selector is listed with its target -/
theorem mem_selectors_impact (hunique : ((t.tree e).groups.map GroupView.id).Nodup) (hstripped : strip e = e) (hname : e ≠ "")
    (hr : r ∈ t.groupsOf e) {id : ℤ} :
    id ∈ (t.impact e (.number r.id)).selectors.map SelectorView.id ↔
      ∃ s ∈ t.selectors, s.id = id ∧ s.target ∈ (t.impact e (.number r.id)).groups.map GroupView.rowId := by
  have hkeys : ((t.groupsOf e).map GroupRow.id).Nodup := (t.selectGroups e).keys
  have hviews : ∀ {q q' : GroupRow}, q ∈ t.groupsOf e → q' ∈ t.groupsOf e →
      (q.view (dottedPaths (t.groupsOf e))).id = (q'.view (dottedPaths (t.groupsOf e))).id → q = q' := by
    intro q q' hq hq' hid
    change ((groupViews (t.groupsOf e)).map GroupView.id).Nodup at hunique
    rw [groupViews, List.map_map] at hunique
    exact List.inj_on_of_nodup_map hunique hq hq' hid
  rw [Tables.impact, deletionImpact, load_tree hstripped hname, find_number hr]
  constructor
  · intro h
    obtain ⟨v, hv, rfl⟩ := List.mem_map.1 h
    obtain ⟨hmem, htarget⟩ := List.mem_filter.1 hv
    obtain ⟨s, hs, rfl⟩ := List.mem_map.1 hmem
    obtain ⟨hs, hpoints⟩ := List.mem_filter.1 ((List.mem_insertionSort _).1 hs)
    refine ⟨s, hs, rfl, ?_⟩
    obtain ⟨q, hq, hid⟩ := List.mem_map.1 (of_decide_eq_true hpoints)
    obtain ⟨g, hg, hgid⟩ := List.mem_map.1 (of_decide_eq_true htarget)
    obtain ⟨q', hq', rfl⟩ := List.mem_map.1 (List.mem_filter.1 hg).1
    have htargetOf : targetOf (groupViews (t.groupsOf e)) s.target = (q.view (dottedPaths (t.groupsOf e))).id := by
      rw [← hid]
      exact targetOf_row hkeys hq
    obtain rfl := hviews hq' hq (hgid.trans htargetOf)
    rw [← hid]
    exact List.mem_map_of_mem hg
  · rintro ⟨s, hs, rfl, htarget⟩
    obtain ⟨g, hg, hid⟩ := List.mem_map.1 htarget
    obtain ⟨q, hq, rfl⟩ := List.mem_map.1 (List.mem_filter.1 hg).1
    have hpoints : s ∈ t.selectorsOf e := by
      refine List.mem_filter.2 ⟨hs, decide_eq_true ?_⟩
      rw [← hid]
      exact List.mem_map_of_mem hq
    have htargetOf : targetOf (groupViews (t.groupsOf e)) s.target = (q.view (dottedPaths (t.groupsOf e))).id := by
      rw [← hid]
      exact targetOf_row hkeys hq
    have hview : s.view (groupViews (t.groupsOf e)) ∈ (t.tree e).selectors :=
      List.mem_map_of_mem ((List.mem_insertionSort _).2 hpoints)
    refine List.mem_map.2 ⟨_, List.mem_filter.2 ⟨hview, decide_eq_true ?_⟩, rfl⟩
    change targetOf (groupViews (t.groupsOf e)) s.target ∈ _
    rw [htargetOf]
    exact List.mem_map_of_mem hg

end Preview

/-! ## The deletion -/

/-- a preview of what a deletion of the row removes -/
structure Foretells (t : Tables) (e : String) (r : GroupRow) (impact : Impact) : Prop where
  groupsOnce : (impact.groups.map GroupView.rowId).Nodup
  selectorsOnce : (impact.selectors.map SelectorView.id).Nodup
  /-- the groups reached from the row -/
  groups : ∀ id, id ∈ impact.groups.map GroupView.rowId ↔ Reaches t.groups r id
  /-- the selectors that point at one of them -/
  selectors : ∀ id, id ∈ impact.selectors.map SelectorView.id ↔ ∃ s ∈ t.selectors, s.id = id ∧ Reaches t.groups r s.target
  /-- what an accepted `delete_group` removes -/
  removed : ∀ (lib : Library) (req : Request) (ref : RowRef) (faults : List (Option String)) (db db' : Db) (result : ChangeResult),
    db.committed = t → req.environment = e → ref.value = .number r.id →
    Prog.run handle faults (Write.run lib req (.deleteGroup ref)) db = (.ok result, db') →
      (∀ g ∈ t.groups, g ∈ db'.committed.groups ↔ g.id ∉ impact.groups.map GroupView.rowId) ∧
      ∀ s ∈ t.selectors, s ∈ db'.committed.selectors ↔ s.id ∉ impact.selectors.map SelectorView.id

section Deletion

variable {t : Tables} {e : String} {r : GroupRow}

theorem mem_doomed (hr : r ∈ t.groupsOf e) {id : ℤ} : id ∈ t.doomed (GroupRow.at (some r.id) e) ↔ Reaches t.groups r id := by
  obtain ⟨hmem, henvironment⟩ := List.mem_filter.1 hr
  rw [Tables.doomed, Links.mem_below_iff]
  constructor
  · intro h
    induction h with
    | top hk =>
      obtain ⟨g, hg, rfl⟩ := List.mem_map.1 hk
      have hat := of_decide_eq_true (List.mem_filter.1 hg).2
      rw [Option.some.inj hat.1]
      exact .top List.mem_cons_self
    | under hx hparent _ ih => exact .under hx hparent ih
  · intro h
    induction h with
    | top hk =>
      obtain rfl := List.mem_singleton.1 hk
      refine .top (List.mem_map_of_mem (List.mem_filter.2 ⟨hmem, decide_eq_true ⟨rfl, ?_⟩⟩))
      exact of_decide_eq_true henvironment
    | under hx hparent _ ih => exact .under hx hparent ih

/-- an accepted deletion removes what is reached from the row, and what points there -/
theorem deleted {lib : Library} {req : Request} {ref : RowRef} {faults : List (Option String)} {db db' : Db}
    {result : ChangeResult} (hr : r ∈ db.committed.groupsOf req.environment) (href : ref.value = .number r.id)
    (h : Prog.run handle faults (Write.run lib req (.deleteGroup ref)) db = (.ok result, db')) :
    (∀ g ∈ db.committed.groups, g ∈ db'.committed.groups ↔ ¬ Reaches db.committed.groups r g.id) ∧
    ∀ s ∈ db.committed.selectors, s ∈ db'.committed.selectors ↔ ¬ Reaches db.committed.groups r s.target := by
  have hlands := @write_lands lib req (.deleteGroup ref) faults db
  rw [h] at hlands
  obtain ⟨w, hlands, hrecorded⟩ := hlands
  cases hlands with
  | @deleted _ key hkey _ =>
    rw [href] at hkey
    obtain rfl := Except.ok.inj hkey
    rw [hrecorded.groups, hrecorded.selectors]
    constructor
    · intro g hg
      rw [Tables.dropGroups, List.mem_filter, and_iff_right hg, decide_eq_true_iff, mem_doomed hr]
    · intro s hs
      rw [Tables.dropGroups, List.mem_filter, and_iff_right hs, decide_eq_true_iff, mem_doomed hr]

/-- what is reached stays in the environment, if no other environment's row is -/
theorem reaches_groupsOf (hown : ∀ g ∈ t.groups, Reaches t.groups r g.id → g.environment = some e)
    {id : ℤ} (h : Reaches t.groups r id) : Reaches (t.groupsOf e) r id := by
  induction h with
  | top hk => exact .top hk
  | @under x p hx hparent hbelow ih =>
    refine .under (List.mem_filter.2 ⟨hx, decide_eq_true ?_⟩) hparent ih
    exact hown x hx (.under hx hparent hbelow)

/-- the ids that the preview lists, if paths are made name by name -/
theorem mem_impact_iff {lib : Library} {provider : Bool} (hstripped : strip e = e) (hname : e ≠ "")
    (hallowed : Allowed lib (t.tree e) provider) (hforest : IsForest (t.groupsOf e)) (hr : r ∈ t.groupsOf e)
    (hown : ∀ g ∈ t.groups, Reaches t.groups r g.id → g.environment = some e) (hnames : NameByName (t.groupsOf e) r) {id : ℤ} :
    id ∈ (t.impact e (.number r.id)).groups.map GroupView.rowId ↔ Reaches t.groups r id := by
  have hkeys : ((t.groupsOf e).map GroupRow.id).Nodup := (t.selectGroups e).keys
  have hunique : ((groupViews (t.groupsOf e)).map GroupView.id).Nodup := unique_of_allowed hallowed
  constructor
  · intro h
    obtain ⟨q, hq, rfl⟩ := groups_impact_mem hstripped hname h
    have hlisted := (mem_groups_impact hstripped hname hr hq).1 h
    exact reaches_mono (fun _ hmem => (List.mem_filter.1 hmem).1) (reaches_of_listed hkeys hunique hforest hr hq hnames hlisted)
  · intro h
    have hwithin := reaches_groupsOf hown h
    obtain ⟨q, hq, rfl⟩ := reaches_row hr hwithin
    exact (mem_groups_impact hstripped hname hr hq).2 (listed_of_reaches hkeys hunique hforest hr hq hwithin)

/-- **The doomed list.** In a forest that the rules allow, what the preview of a row's deletion lists is what is reached from
the row and what points there, and what the deletion removes, exactly if the row is asked for by its number, nothing of
another environment is reached from it, and no path begins with the row's path whose names do not begin with its names. -/
theorem foretells_iff (lib : Library) (provider : Bool) (t : Tables) (e : String) (hstripped : strip e = e) (hname : e ≠ "")
    (hallowed : Allowed lib (t.tree e) provider) (hforest : IsForest (t.groupsOf e)) (r : GroupRow) (hr : r ∈ t.groupsOf e)
    (row : RowId) (hrow : row.Names r.id) :
    Foretells t e r (t.impact e row) ↔ row = .number r.id ∧
      (∀ g ∈ t.groups, Reaches t.groups r g.id → g.environment = some e) ∧ NameByName (t.groupsOf e) r := by
  have hkeys : ((t.groupsOf e).map GroupRow.id).Nodup := (t.selectGroups e).keys
  have hunique : ((groupViews (t.groupsOf e)).map GroupView.id).Nodup := unique_of_allowed hallowed
  constructor
  · intro h
    have hnumber : row = .number r.id := by
      rcases hrow with hnumber | rfl
      · exact hnumber
      · -- the row itself is not listed
        have hself := (h.groups r.id).2 (.top List.mem_cons_self)
        rw [impact_text] at hself
        cases hself
    subst hnumber
    have hown : ∀ g ∈ t.groups, Reaches t.groups r g.id → g.environment = some e := by
      intro g hg hreaches
      obtain ⟨q, hq, hid⟩ := groups_impact_mem hstripped hname ((h.groups g.id).2 hreaches)
      obtain ⟨hqmem, henvironment⟩ := List.mem_filter.1 hq
      obtain rfl := List.inj_on_of_nodup_map t.groupKeys hqmem hg hid
      exact of_decide_eq_true henvironment
    refine ⟨rfl, hown, ?_⟩
    intro q hq names names' hrchain hqchain hbelow
    have hlisted : Listed (t.groupsOf e) r q := by
      right
      rw [id_view hkeys hr hrchain, id_view hkeys hq hqchain]
      exact hbelow
    have hreaches := (h.groups q.id).1 ((mem_groups_impact hstripped hname hr hq).2 hlisted)
    exact (reaches_iff_names hkeys hunique hr hrchain hqchain).1 (reaches_groupsOf hown hreaches)
  · rintro ⟨rfl, hown, hnames⟩
    have hgroups : ∀ id, id ∈ (t.impact e (.number r.id)).groups.map GroupView.rowId ↔ Reaches t.groups r id :=
      fun id => mem_impact_iff hstripped hname hallowed hforest hr hown hnames
    have hselectors : ∀ id, id ∈ (t.impact e (.number r.id)).selectors.map SelectorView.id ↔
        ∃ s ∈ t.selectors, s.id = id ∧ Reaches t.groups r s.target := by
      intro id
      rw [mem_selectors_impact hunique hstripped hname hr]
      exact exists_congr fun s => and_congr_right fun _ => and_congr_right fun _ => hgroups s.target
    refine ⟨nodup_groups_impact hstripped hname, nodup_selectors_impact hstripped hname, hgroups, hselectors, ?_⟩
    intro lib' req ref faults db db' result hcommitted henvironment href hrun
    subst hcommitted henvironment
    obtain ⟨hdeleted, hunpointed⟩ := deleted hr href hrun
    constructor
    · intro g hg
      rw [hdeleted g hg, hgroups]
    · intro s hs
      rw [hunpointed s hs, hselectors]
      refine not_congr ⟨fun hreaches => ⟨s, hs, rfl, hreaches⟩, ?_⟩
      rintro ⟨s', hs', hid, hreaches⟩
      rwa [List.inj_on_of_nodup_map db.committed.selectorKeys hs' hs hid] at hreaches

end Deletion

/-! ## Two roots -/

def rootLimits : Limits := { Limits.null with hardConcurrencyLimit := some 100, maxQueued := some 1000 }

def etl : GroupRow := ⟨1, some "cluster1", "etl", none, rootLimits⟩

def etlNight : GroupRow := ⟨2, some "cluster1", "etl.night", none, rootLimits⟩

/-- two roots, and a selector for everything -/
def twoRoots : Tables where
  groups := [etl, etlNight]
  selectors := [⟨5, 2, 10, []⟩]
  revisions := []
  groupKeys := by decide
  selectorKeys := List.nodup_singleton 5
  revisionKeys := List.nodup_nil
  parents := by decide
  targets := by decide

theorem twoRoots_allowed : Allowed .plain (twoRoots.tree "cluster1") false := by
  decide +kernel

theorem twoRoots_groups : twoRoots.groupsOf "cluster1" = [etl, etlNight] := by
  decide

theorem twoRoots_chains : Chain (twoRoots.groupsOf "cluster1") etl.id ["etl"] ∧
    Chain (twoRoots.groupsOf "cluster1") etlNight.id ["etl.night"] := by
  rw [twoRoots_groups]
  have hetl : byId [etl, etlNight] etl.id = some etl := by decide
  have hnight : byId [etl, etlNight] etlNight.id = some etlNight := by decide
  exact ⟨.root hetl rfl, .root hnight rfl⟩

theorem twoRoots_forest : IsForest (twoRoots.groupsOf "cluster1") := by
  obtain ⟨hetl, hnight⟩ := twoRoots_chains
  intro g hg
  rw [twoRoots_groups, List.mem_cons, List.mem_singleton] at hg
  rcases hg with rfl | rfl
  · exact ⟨_, hetl⟩
  · exact ⟨_, hnight⟩

/-- neither root is below the other -/
theorem twoRoots_apart : ¬ Reaches twoRoots.groups etl etlNight.id := by
  unfold Reaches
  rw [← Links.mem_below_iff]
  decide

/-- the preview of the root "etl" lists the root "etl.night" and its selector, which the deletion leaves; and asked with the
text of the id it lists nothing -/
theorem root_listed_below_another :
    Allowed .plain (twoRoots.tree "cluster1") false ∧ IsForest (twoRoots.groupsOf "cluster1") ∧
      ¬ Foretells twoRoots "cluster1" etl (twoRoots.impact "cluster1" (.number 1)) ∧
      ¬ Foretells twoRoots "cluster1" etl (twoRoots.impact "cluster1" (.text "1")) := by
  refine ⟨twoRoots_allowed, twoRoots_forest, ?_, ?_⟩
  · intro h
    have hlisted : etlNight.id ∈ (twoRoots.impact "cluster1" (.number 1)).groups.map GroupView.rowId := by
      decide +kernel
    exact twoRoots_apart ((h.groups _).1 hlisted)
  · intro h
    have hself := (h.groups etl.id).2 (.top List.mem_cons_self)
    rw [impact_text] at hself
    cases hself

/-! ## A branch -/

def etlHourly : GroupRow := ⟨2, some "cluster1", "hourly", some 1, rootLimits⟩

def adhoc : GroupRow := ⟨3, some "cluster1", "adhoc", none, rootLimits⟩

/-- a root with a group below it, which a selector points to, and another root -/
def branch : Tables where
  groups := [etl, etlHourly, adhoc]
  selectors := [⟨5, 2, 10, []⟩]
  revisions := []
  groupKeys := by decide
  selectorKeys := List.nodup_singleton 5
  revisionKeys := List.nodup_nil
  parents := by decide
  targets := by decide

theorem branch_allowed : Allowed .plain (branch.tree "cluster1") false := by
  decide +kernel

theorem branch_groups : branch.groupsOf "cluster1" = [etl, etlHourly, adhoc] := by
  decide

theorem branch_chains : Chain (branch.groupsOf "cluster1") etl.id ["etl"] ∧
    Chain (branch.groupsOf "cluster1") etlHourly.id ["etl", "hourly"] ∧
    Chain (branch.groupsOf "cluster1") adhoc.id ["adhoc"] := by
  rw [branch_groups]
  have hetl : byId [etl, etlHourly, adhoc] etl.id = some etl := by decide
  have hhourly : byId [etl, etlHourly, adhoc] etlHourly.id = some etlHourly := by decide
  have hadhoc : byId [etl, etlHourly, adhoc] adhoc.id = some adhoc := by decide
  exact ⟨.root hetl rfl, .child hhourly rfl (.root hetl rfl), .root hadhoc rfl⟩

theorem branch_forest : IsForest (branch.groupsOf "cluster1") := by
  obtain ⟨hetl, hhourly, hadhoc⟩ := branch_chains
  intro g hg
  rw [branch_groups, List.mem_cons, List.mem_pair] at hg
  rcases hg with rfl | rfl | rfl
  · exact ⟨_, hetl⟩
  · exact ⟨_, hhourly⟩
  · exact ⟨_, hadhoc⟩

/-- the preview of "etl" lists the root, the group below it and its selector, and they go -/
theorem foretells_etl : Foretells branch "cluster1" etl (branch.impact "cluster1" (.number 1)) ∧
    (branch.impact "cluster1" (.number 1)).groups.map GroupView.rowId = [1, 2] := by
  have hr : etl ∈ branch.groupsOf "cluster1" := by
    rw [branch_groups]
    exact List.mem_cons_self
  refine ⟨(foretells_iff .plain false branch "cluster1" (by decide) (by decide) branch_allowed branch_forest etl hr
    (.number 1) (.inl rfl)).2 ⟨rfl, ?_, ?_⟩, by decide +kernel⟩
  · have hall : ∀ g ∈ branch.groups, g.environment = some "cluster1" := by decide
    exact fun g hg _ => hall g hg
  · intro q hq names names' hrchain hqchain hbelow
    obtain ⟨hetl, hhourly, hadhoc⟩ := branch_chains
    obtain rfl := hetl.unique hrchain
    rw [branch_groups, List.mem_cons, List.mem_pair] at hq
    rcases hq with rfl | rfl | rfl
    · obtain rfl := hetl.unique hqchain
      exact List.prefix_refl _
    · obtain rfl := hhourly.unique hqchain
      exact List.prefix_append ["etl"] ["hourly"]
    · obtain rfl := hadhoc.unique hqchain
      revert hbelow
      decide

end TrinoManagement.ResourceGroups
