/-
Environment isolation of resource groups: a write on one environment should leave every other environment's groups and
selectors as they were, and no group of its own below a group of another one.

UPDATE and DELETE name the environment beside the id. INSERT does not look whose group the parent or the target is, and
ON DELETE CASCADE follows parents across environments.
- `isolated_iff`: exactly when a write keeps the environments apart, for every store, every write and every failure.
- `foreign_parent_accepted`: a group is created below another environment's group; deleting that one then takes it along.
-/
import Mathlib.Tactic
import TrinoManagement.ResourceGroups.Writes

namespace TrinoManagement.ResourceGroups

/-! ## Environments apart -/

/-- a group of another environment -/
def GroupRow.Foreign (e : String) (g : GroupRow) : Prop := g.environment ≠ none ∧ g.environment ≠ some e

/-- a group of the environment below a group of another one -/
def Tables.Stray (t : Tables) (e : String) (g : GroupRow) : Prop :=
  g.environment = some e ∧ ∃ q ∈ t.groups, g.parent = some q.id ∧ q.Foreign e

/-- no group or selector of the environment refers to a group of another one -/
structure Clean (e : String) (t : Tables) : Prop where
  parents : ∀ g ∈ t.groups, ¬ t.Stray e g
  targets : ∀ s ∈ t.selectorsOf e, ∀ q ∈ t.groups, s.target = q.id → ¬ q.Foreign e

structure Isolated (e : String) (t t' : Tables) : Prop where
  groups : ∀ f, f ≠ e → t'.groupsOf f = t.groupsOf f
  selectors : ∀ f, f ≠ e → t'.selectorsOf f = t.selectorsOf f
  clean : Clean e t'

instance (e : String) (g : GroupRow) : Decidable (g.Foreign e) :=
  inferInstanceAs (Decidable (g.environment ≠ none ∧ g.environment ≠ some e))

instance (t : Tables) (e : String) (g : GroupRow) : Decidable (t.Stray e g) :=
  inferInstanceAs (Decidable (g.environment = some e ∧ ∃ q ∈ t.groups, g.parent = some q.id ∧ q.Foreign e))

/-- what an accepted write must find -/
def Apart (e : String) (t : Tables) : Write → Prop
  | .updateGroup _ _ | .deleteSelector _ => ∀ g ∈ t.groups, ¬ t.Stray e g
  | .createGroup _ parent _ =>
    (∀ g ∈ t.groups, ¬ t.Stray e g) ∧ ∀ q ∈ t.groups, parent = .number q.id → ¬ q.Foreign e
  | .createSelector target _ _ =>
    (∀ g ∈ t.groups, ¬ t.Stray e g) ∧ ∀ q ∈ t.groups, target.value = .number q.id → ¬ q.Foreign e
  | .deleteGroup row => ∀ key, row.value.key = .ok key →
    (∀ g ∈ t.groups, g.Foreign e → g.id ∉ t.doomed (GroupRow.at key e)) ∧
      ∀ g ∈ t.groups, t.Stray e g → g.id ∈ t.doomed (GroupRow.at key e)
  | .revert _ => ∀ g ∈ t.groups, g.Foreign e → g.id ∉ t.doomed (GroupRow.within e)

section Frames

variable {e f : String} {t w : Tables}

theorem mem_groupsOf {g : GroupRow} : g ∈ t.groupsOf f ↔ g ∈ t.groups ∧ g.environment = some f := by
  simp [Tables.groupsOf]

/-- a key belongs to one row -/
theorem same_row {g q : GroupRow} (hg : g ∈ t.groups) (hq : q ∈ t.groups) (h : g.id = q.id) : g = q :=
  List.inj_on_of_nodup_map t.groupKeys hg hq h

theorem foreign_iff {g : GroupRow} : g.Foreign e ↔ ∃ f, f ≠ e ∧ g.environment = some f := by
  unfold GroupRow.Foreign
  cases g.environment with
  | none => simp
  | some f => simp

/-- a selector of an environment points into it -/
theorem clean_iff : Clean e t ↔ ∀ g ∈ t.groups, ¬ t.Stray e g := by
  constructor
  · exact fun h => h.parents
  · intro h
    refine ⟨h, ?_⟩
    intro s hs q hq htarget hforeign
    have hs' := (List.mem_filter.1 hs).2
    simp only [decide_eq_true_eq, List.mem_map] at hs'
    obtain ⟨g, hg, hid⟩ := hs'
    obtain ⟨hg, henvironment⟩ := mem_groupsOf.1 hg
    obtain rfl := same_row hg hq (hid.trans htarget)
    exact hforeign.2 henvironment

theorem Isolated.refl_iff : Isolated e t t ↔ Clean e t :=
  ⟨fun h => h.clean, fun h => ⟨fun _ _ => rfl, fun _ _ => rfl, h⟩⟩

/-- the revisions do not matter -/
theorem isolated_congr {t' : Tables} (hgroups : t'.groups = w.groups) (hselectors : t'.selectors = w.selectors) :
    Isolated e t t' ↔ Isolated e t w := by
  have hgroupsOf : ∀ f, t'.groupsOf f = w.groupsOf f := by
    intro f
    rw [Tables.groupsOf, Tables.groupsOf, hgroups]
  have hselectorsOf : ∀ f, t'.selectorsOf f = w.selectorsOf f := by
    intro f
    rw [Tables.selectorsOf, Tables.selectorsOf, hgroupsOf, hselectors]
  have hclean : Clean e t' ↔ Clean e w := by
    rw [clean_iff, clean_iff]
    simp only [Tables.Stray, hgroups]
  constructor
  · intro h
    exact ⟨fun f hf => (hgroupsOf f).symm.trans (h.groups f hf), fun f hf => (hselectorsOf f).symm.trans (h.selectors f hf),
      hclean.1 h.clean⟩
  · intro h
    exact ⟨fun f hf => (hgroupsOf f).trans (h.groups f hf), fun f hf => (hselectorsOf f).trans (h.selectors f hf),
      hclean.2 h.clean⟩

end Frames

/-! ## Write by write -/

section Lands

variable {e f : String} {t : Tables}

theorem isolated_setGroups {key : Option ℤ} {settings : List Setting} :
    Isolated e t (t.setGroups (GroupRow.at key e) settings) ↔ ∀ g ∈ t.groups, ¬ t.Stray e g := by
  have hgroups : ∀ f, f ≠ e → (t.setGroups (GroupRow.at key e) settings).groupsOf f = t.groupsOf f := by
    intro f hf
    unfold Tables.groupsOf
    change (t.groups.map (GroupRow.edited (GroupRow.at key e) settings)).filter _ = _
    rw [List.filter_map]
    have hsame : ∀ g ∈ t.groups.filter fun g => g.environment = some f, g.edited (GroupRow.at key e) settings = g := by
      intro g hg
      have henvironment : g.environment = some f := by simpa using (List.mem_filter.1 hg).2
      apply if_neg
      simp [GroupRow.at, henvironment, hf]
    have hwhere : ((fun g : GroupRow => decide (g.environment = some f)) ∘ GroupRow.edited (GroupRow.at key e) settings) =
        fun g => decide (g.environment = some f) := by
      funext g
      simp [(g.edited_frame (GroupRow.at key e) settings).2.1]
    rw [hwhere, List.map_congr_left hsame, List.map_id']
  have hclean : Clean e (t.setGroups (GroupRow.at key e) settings) ↔ ∀ g ∈ t.groups, ¬ t.Stray e g := by
    rw [clean_iff]
    have hframe := fun g : GroupRow => g.edited_frame (GroupRow.at key e) settings
    simp only [Tables.Stray, Tables.setGroups, List.mem_map, exists_exists_and_eq_and, forall_exists_index, and_imp,
      forall_apply_eq_imp_iff₂, GroupRow.Foreign, fun g => (hframe g).1,
      fun g => (hframe g).2.1, fun g => (hframe g).2.2]
  constructor
  · exact fun h => hclean.1 h.clean
  · intro h
    refine ⟨hgroups, ?_, hclean.2 h⟩
    intro f hf
    rw [Tables.selectorsOf, Tables.selectorsOf, hgroups f hf]
    rfl

theorem isolated_addGroup {row : GroupRow} {hid hparent} (hrow : row.environment = some e) :
    Isolated e t (t.addGroup row hid hparent) ↔
      (∀ g ∈ t.groups, ¬ t.Stray e g) ∧ ∀ q ∈ t.groups, row.parent = some q.id → ¬ q.Foreign e := by
  have hgroups : ∀ f, f ≠ e → (t.addGroup row hid hparent).groupsOf f = t.groupsOf f := by
    intro f hf
    unfold Tables.groupsOf
    change (t.groups ++ [row]).filter _ = _
    have hnot : row.environment ≠ some f := by
      rw [hrow]
      exact fun h => hf (Option.some.inj h).symm
    simp [List.filter_append, hnot]
  have hown : ¬ row.Foreign e := fun h => h.2 hrow
  have hclean : Clean e (t.addGroup row hid hparent) ↔
      (∀ g ∈ t.groups, ¬ t.Stray e g) ∧ ∀ q ∈ t.groups, row.parent = some q.id → ¬ q.Foreign e := by
    rw [clean_iff]
    constructor
    · intro h
      constructor
      · intro g hg hlink
        obtain ⟨henvironment, q, hq, hparent', hforeign⟩ := hlink
        exact h g (List.mem_append_left _ hg) ⟨henvironment, q, List.mem_append_left _ hq, hparent', hforeign⟩
      · intro q hq hparent' hforeign
        exact h row (List.mem_append_right _ (List.mem_singleton.2 rfl))
          ⟨hrow, q, List.mem_append_left _ hq, hparent', hforeign⟩
    · intro hlink g hg hlink'
      obtain ⟨hstray, hnew⟩ := hlink
      obtain ⟨henvironment, q, hq, hparent', hforeign⟩ := hlink'
      have hq' : q ∈ t.groups := by
        rcases List.mem_append.1 hq with hq | hq
        · exact hq
        · obtain rfl := List.mem_singleton.1 hq
          exact absurd hforeign hown
      rcases List.mem_append.1 hg with hg | hg
      · exact hstray g hg ⟨henvironment, q, hq', hparent', hforeign⟩
      · obtain rfl := List.mem_singleton.1 hg
        exact hnew q hq' hparent' hforeign
  constructor
  · exact fun h => hclean.1 h.clean
  · intro h
    refine ⟨hgroups, ?_, hclean.2 h⟩
    intro f hf
    rw [Tables.selectorsOf, Tables.selectorsOf, hgroups f hf]
    rfl

/-- a key is in one environment at most -/
theorem same_environment {key : ℤ} (he : key ∈ (t.groupsOf e).map GroupRow.id) (hf : key ∈ (t.groupsOf f).map GroupRow.id) :
    e = f := by
  obtain ⟨g, hg, hid⟩ := List.mem_map.1 he
  obtain ⟨q, hq, rfl⟩ := List.mem_map.1 hf
  obtain ⟨hg, hge⟩ := mem_groupsOf.1 hg
  obtain ⟨hq, hqf⟩ := mem_groupsOf.1 hq
  obtain rfl := same_row hg hq hid
  exact Option.some.inj (hge.symm.trans hqf)

theorem isolated_addSelector {row : SelectorRow} {hid htarget} :
    Isolated e t (t.addSelector row hid htarget) ↔
      (∀ g ∈ t.groups, ¬ t.Stray e g) ∧ ∀ q ∈ t.groups, row.target = q.id → ¬ q.Foreign e := by
  have hselectors : ∀ f, (t.addSelector row hid htarget).selectorsOf f =
      t.selectorsOf f ++ [row].filter fun s => s.target ∈ (t.groupsOf f).map GroupRow.id := by
    intro f
    exact List.filter_append ..
  constructor
  · intro h
    have hclean := clean_iff.1 h.clean
    refine ⟨hclean, ?_⟩
    intro q hq hid' hforeign
    obtain ⟨f, hf, henvironment⟩ := foreign_iff.1 hforeign
    have hsame := h.selectors f hf
    rw [hselectors, List.append_right_eq_self, List.filter_eq_nil_iff] at hsame
    apply hsame row (List.mem_singleton.2 rfl)
    rw [decide_eq_true_eq, hid']
    exact List.mem_map_of_mem (mem_groupsOf.2 ⟨hq, henvironment⟩)
  · intro hlink
    obtain ⟨hstray, hnew⟩ := hlink
    refine ⟨fun _ _ => rfl, ?_, clean_iff.2 hstray⟩
    intro f hf
    rw [hselectors, List.append_right_eq_self, List.filter_eq_nil_iff]
    intro s hs hmem
    obtain rfl := List.mem_singleton.1 hs
    obtain ⟨q, hq, hid'⟩ := List.mem_map.1 (of_decide_eq_true hmem)
    obtain ⟨hq, henvironment⟩ := mem_groupsOf.1 hq
    exact hnew q hq hid'.symm (foreign_iff.2 ⟨f, hf, henvironment⟩)

theorem isolated_dropSelectors {key : Option ℤ} :
    Isolated e t (t.dropSelectors (t.selectorAt key e)) ↔ ∀ g ∈ t.groups, ¬ t.Stray e g := by
  constructor
  · intro h
    have hclean := clean_iff.1 h.clean
    exact hclean
  · intro h
    refine ⟨fun _ _ => rfl, ?_, clean_iff.2 h⟩
    intro f hf
    change (t.selectors.filter _).filter _ = t.selectors.filter _
    rw [List.filter_filter]
    apply List.filter_congr
    intro s _
    have hkept : s.target ∈ (t.groupsOf f).map GroupRow.id → t.selectorAt key e s = false := by
      intro hmem
      have hother : s.target ∉ (t.groupsOf e).map GroupRow.id := fun he => hf (same_environment he hmem).symm
      rw [Tables.selectorAt, decide_eq_false hother, Bool.and_false]
    by_cases hmem : s.target ∈ (t.groupsOf f).map GroupRow.id
    · rw [hkept hmem]
      exact Bool.and_true _
    · change (decide (s.target ∈ (t.groupsOf f).map GroupRow.id) && _) = _
      rw [decide_eq_false hmem]
      rfl

/-! ## What goes with a group -/

/-- what stays keeps the rows of the other environments if none of them goes -/
theorem groupsOf_dropGroups {hit : GroupRow → Bool} :
    (t.dropGroups hit).groupsOf f = (t.groupsOf f).filter fun g => g.id ∉ t.doomed hit := by
  unfold Tables.groupsOf
  change (t.groups.filter _).filter _ = _
  rw [List.filter_filter, List.filter_filter]
  simp only [Bool.and_comm]

theorem dropGroups_keeps_iff {hit : GroupRow → Bool} :
    (∀ f, f ≠ e → (t.dropGroups hit).groupsOf f = t.groupsOf f) ↔ ∀ g ∈ t.groups, g.Foreign e → g.id ∉ t.doomed hit := by
  constructor
  · intro h g hg hforeign
    obtain ⟨f, hf, henvironment⟩ := foreign_iff.1 hforeign
    have hsame := h f hf
    rw [groupsOf_dropGroups, List.filter_eq_self] at hsame
    exact of_decide_eq_true (hsame g (mem_groupsOf.2 ⟨hg, henvironment⟩))
  · intro h f hf
    rw [groupsOf_dropGroups, List.filter_eq_self]
    intro g hg
    obtain ⟨hg, henvironment⟩ := mem_groupsOf.1 hg
    exact decide_eq_true (h g hg (foreign_iff.2 ⟨f, hf, henvironment⟩))

theorem dropGroups_selectors {hit : GroupRow → Bool} (h : (t.dropGroups hit).groupsOf f = t.groupsOf f) :
    (t.dropGroups hit).selectorsOf f = t.selectorsOf f := by
  unfold Tables.selectorsOf
  rw [h]
  change (t.selectors.filter _).filter _ = _
  rw [List.filter_filter]
  apply List.filter_congr
  intro s _
  by_cases hmem : s.target ∈ (t.groupsOf f).map GroupRow.id
  · have hkept : s.target ∉ t.doomed hit := by
      obtain ⟨g, hg, hid⟩ := List.mem_map.1 hmem
      rw [← h, groupsOf_dropGroups] at hg
      rw [← hid]
      exact of_decide_eq_true (List.mem_filter.1 hg).2
    rw [decide_eq_true hmem, decide_eq_true hkept]
    rfl
  · rw [decide_eq_false hmem]
    rfl

theorem clean_dropGroups {hit : GroupRow → Bool} :
    Clean e (t.dropGroups hit) ↔ ∀ g ∈ t.groups, t.Stray e g → g.id ∈ t.doomed hit := by
  rw [clean_iff]
  constructor
  · intro h g hg hlink
    obtain ⟨henvironment, q, hq, hparent, hforeign⟩ := hlink
    by_contra hkept
    have hqkept : q.id ∉ t.doomed hit := fun hdoomed => hkept (Links.below_closed hg hparent hdoomed)
    exact h g (List.mem_filter.2 ⟨hg, decide_eq_true hkept⟩)
      ⟨henvironment, q, List.mem_filter.2 ⟨hq, decide_eq_true hqkept⟩, hparent, hforeign⟩
  · intro h g hg hlink
    obtain ⟨henvironment, q, hq, hparent, hforeign⟩ := hlink
    obtain ⟨hg, hkept⟩ := List.mem_filter.1 hg
    exact of_decide_eq_true hkept (h g hg ⟨henvironment, q, (List.mem_filter.1 hq).1, hparent, hforeign⟩)

theorem isolated_dropGroups {hit : GroupRow → Bool} :
    Isolated e t (t.dropGroups hit) ↔ (∀ g ∈ t.groups, g.Foreign e → g.id ∉ t.doomed hit) ∧
      ∀ g ∈ t.groups, t.Stray e g → g.id ∈ t.doomed hit := by
  rw [← dropGroups_keeps_iff, ← clean_dropGroups]
  constructor
  · exact fun h => ⟨h.groups, h.clean⟩
  · intro hlink
    obtain ⟨hgroups, hclean⟩ := hlink
    exact ⟨hgroups, fun f hf => dropGroups_selectors (hgroups f hf), hclean⟩

theorem isolated_restored {snapshot : Tree} {w : Tables} (h : Restored e snapshot (t.dropGroups (GroupRow.within e)) w) :
    Isolated e t w ↔ ∀ g ∈ t.groups, g.Foreign e → g.id ∉ t.doomed (GroupRow.within e) := by
  obtain ⟨rows, selectors, hgroups, hselectors, henvironment, hparents, htargets⟩ := restored_rows h
  have hothers : ∀ f, f ≠ e → w.groupsOf f = (t.dropGroups (GroupRow.within e)).groupsOf f := by
    intro f hf
    unfold Tables.groupsOf
    rw [hgroups, List.filter_append, List.append_right_eq_self, List.filter_eq_nil_iff]
    intro row hrow hown
    rw [henvironment row hrow] at hown
    exact hf (Option.some.inj (of_decide_eq_true hown)).symm
  have hkeys : ∀ id ∈ rows.map GroupRow.id, id ∈ (w.groupsOf e).map GroupRow.id := by
    intro id hid
    obtain ⟨row, hrow, rfl⟩ := List.mem_map.1 hid
    refine List.mem_map_of_mem (mem_groupsOf.2 ⟨?_, henvironment row hrow⟩)
    rw [hgroups]
    exact List.mem_append_right _ hrow
  have hclean : Clean e w := by
    rw [clean_iff]
    intro g hg hlink
    obtain ⟨hown, q, hq, hparent, hforeign⟩ := hlink
    rw [hgroups] at hg
    rcases List.mem_append.1 hg with hg | hg
    · exact nothing_left hg hown
    · obtain ⟨q', hq', hid⟩ := List.mem_map.1 (hkeys _ (hparents g hg q.id hparent))
      obtain ⟨hq', hown'⟩ := mem_groupsOf.1 hq'
      obtain rfl := same_row hq' hq hid
      exact hforeign.2 hown'
  rw [← dropGroups_keeps_iff]
  constructor
  · intro h f hf
    rw [← hothers f hf]
    exact h.groups f hf
  · intro hkeeps
    refine ⟨fun f hf => (hothers f hf).trans (hkeeps f hf), ?_, hclean⟩
    intro f hf
    rw [← dropGroups_selectors (hkeeps f hf)]
    unfold Tables.selectorsOf
    rw [hothers f hf, hselectors, List.filter_append, List.append_right_eq_self, List.filter_eq_nil_iff]
    intro s hs hmem
    rw [← hothers f hf] at hmem
    exact hf (same_environment (of_decide_eq_true hmem) (hkeys _ (htargets s hs)))

/-- write by write -/
theorem lands_isolated_iff {write : Write} {w : Tables} (h : Lands e t write w) : Isolated e t w ↔ Apart e t write := by
  cases h with
  | updated hkey hone => exact isolated_setGroups
  | @created name parent values key id hid hparent hkey =>
    refine (isolated_addGroup rfl).trans (and_congr_right fun _ => forall₂_congr ?_)
    intro q _
    cases parent with
    | null =>
      obtain rfl := Except.ok.inj hkey
      simp
    | number p =>
      obtain rfl := Except.ok.inj hkey
      simp
    | unreadable => cases hkey
  | @deleted row key hkey hone =>
    refine isolated_dropGroups.trans ?_
    constructor
    · rintro h key' hkey'
      obtain rfl := Except.ok.inj (hkey.symm.trans hkey')
      exact h
    · exact fun h => h key hkey
  | @pointed target priority matchers key id hid htarget hkey =>
    refine isolated_addSelector.trans (and_congr_right fun _ => forall₂_congr ?_)
    intro q _
    obtain ⟨text, value⟩ := target
    cases value with
    | null => cases hkey
    | number p =>
      obtain rfl := Option.some.inj (Except.ok.inj hkey)
      simp
    | unreadable => cases hkey
  | unpointed hkey hone => exact isolated_dropSelectors
  | reverted hkey hr henvironment hrestored => exact isolated_restored hrestored

/-- **Isolation of environments.** A write that returns keeps them apart exactly if `Apart` holds of it before; one that
raises, exactly if they were apart. -/
theorem isolated_iff (lib : Library) (req : Request) (write : Write) (faults : List (Option String)) (db : Db) :
    match Prog.run handle faults (write.run lib req) db with
    | (.ok _, db') => Isolated req.environment db.committed db'.committed ↔ Apart req.environment db.committed write
    | (.error _, db') => Isolated req.environment db.committed db'.committed ↔ Clean req.environment db.committed := by
  have h := @write_lands lib req write faults db
  revert h
  cases Prog.run handle faults (write.run lib req) db with
  | mk result db' =>
    cases result with
    | ok result =>
      intro hlink
      obtain ⟨w, hlands, hrecorded⟩ := hlink
      exact (isolated_congr hrecorded.groups hrecorded.selectors).trans (lands_isolated_iff hlands)
    | error e =>
      intro h
      change Isolated req.environment db.committed db'.committed ↔ _
      rw [show db'.committed = db.committed from h]
      exact Isolated.refl_iff

end Lands

/-! ## A parent of another environment -/

def limited : Limits := { Limits.null with hardConcurrencyLimit := some 100, maxQueued := some 1000 }

/-- two environments, each with a root and a catch-all selector -/
def twoClusters : Db where
  committed :=
    { groups := [⟨1, some "cluster1", "global", none, limited⟩, ⟨2, some "cluster2", "global", none, limited⟩]
      selectors := [⟨1, 1, 10, []⟩, ⟨2, 2, 10, []⟩]
      revisions := []
      groupKeys := by decide
      selectorKeys := by decide
      revisionKeys := List.nodup_nil
      parents := by decide
      targets := by decide }
  working := none
  groupSeq := 3
  selectorSeq := 3
  revisionSeq := 1

def onCluster (environment : String) : Request := ⟨environment, "admin", "more room", "9f1c", false⟩

/-- `create_group` on the second environment, with the first one's root as parent -/
def createBelow : Write :=
  .createGroup "adhoc" (.number 1) [.editable (.hardConcurrencyLimit (some 8)), .editable (.maxQueued (some 100))]

def afterCreate : Except StoreError ChangeResult × Db :=
  Prog.run handle [] (createBelow.run .plain (onCluster "cluster2")) twoClusters

/-- then `delete_group` of that root on the first one -/
def afterDelete : Except StoreError ChangeResult × Db :=
  Prog.run handle [] ((Write.deleteGroup ⟨"1", .number 1⟩).run .plain (onCluster "cluster1")) afterCreate.2

/-- **A group below another environment's.** Environments that are apart, and then a group of the second one refers to a
group of the first one, with which it goes. -/
theorem foreign_parent_accepted :
    Clean "cluster2" twoClusters.committed ∧ afterCreate.1.isOk = true ∧
    ¬ Isolated "cluster2" twoClusters.committed afterCreate.2.committed ∧
    afterDelete.1.isOk = true ∧ ¬ Isolated "cluster1" afterCreate.2.committed afterDelete.2.committed := by
  have hbefore : ∀ g ∈ twoClusters.committed.groups, ¬ twoClusters.committed.Stray "cluster2" g := by decide +kernel
  have hafter : ∃ g ∈ afterCreate.2.committed.groups, afterCreate.2.committed.Stray "cluster2" g := by decide +kernel
  have hgone : afterDelete.2.committed.groupsOf "cluster2" ≠ afterCreate.2.committed.groupsOf "cluster2" := by
    decide +kernel
  refine ⟨clean_iff.2 hbefore, by decide +kernel, ?_, by decide +kernel, ?_⟩
  · intro h
    obtain ⟨g, hg, hstray⟩ := hafter
    exact h.clean.parents g hg hstray
  · exact fun h => hgone (h.groups "cluster2" (by decide))

end TrinoManagement.ResourceGroups
