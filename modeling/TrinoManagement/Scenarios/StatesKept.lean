/-
Every state kept: the revision history of resource groups accounts for the whole life of an environment's tree, and any
state the tree was ever in can be had back.

The store reads the tree of one environment before and after a write of it. Between two writes of that environment come
writes of others, which have no revision of its own; so the history accounts for the tree only as long as they leave it.
They do when inserts stay in their own environment: deletes then take nothing of another environment along.
- `Tidy`, `OwnEnvironment`: rows that stay in their environment, and the writes that keep them there.
- `lands_elsewhere`: such a write of one environment leaves the tree of every other one.
- `every_state_kept`: the property, over any calls of any environments, whatever fails during them.
-/
import Mathlib.Tactic
import TrinoManagement.Core.Journal
import TrinoManagement.Core.Run
import TrinoManagement.ResourceGroups.Writes
import TrinoManagement.Scenarios.Isolation
import TrinoManagement.Scenarios.RevertUndoes
import TrinoManagement.Scenarios.WriteAtomic

namespace TrinoManagement.ResourceGroups

open TrinoManagement.Journal (Accounts Entry Logs accounts_nil run_accounts)
open TrinoManagement.Run (Meets meets_append run_append)

/-! ## Environments that do not mix -/

/-- every group is of some environment, and its parent is of the same one -/
structure Tidy (t : Tables) : Prop where
  placed : ∀ g ∈ t.groups, g.environment.isSome = true
  parents : ∀ g ∈ t.groups, ∀ q ∈ t.groups, g.parent = some q.id → q.environment = g.environment

instance (t : Tables) : Decidable (Tidy t) :=
  decidable_of_iff ((∀ g ∈ t.groups, g.environment.isSome = true) ∧
    ∀ g ∈ t.groups, ∀ q ∈ t.groups, g.parent = some q.id → q.environment = g.environment)
    ⟨fun h => ⟨h.1, h.2⟩, fun h => ⟨h.placed, h.parents⟩⟩

/-- the parent or the target that an INSERT names is of the environment that it is for -/
def OwnEnvironment (e : String) (t : Tables) : Write → Prop
  | .createGroup _ parent _ => ∀ q ∈ t.groups, parent = .number q.id → q.environment = some e
  | .createSelector target _ _ => ∀ q ∈ t.groups, target.value = .number q.id → q.environment = some e
  | _ => True

instance (e : String) (t : Tables) : ∀ write, Decidable (OwnEnvironment e t write)
  | .createGroup _ parent _ => inferInstanceAs (Decidable (∀ q ∈ t.groups, parent = .number q.id → q.environment = some e))
  | .createSelector target _ _ =>
    inferInstanceAs (Decidable (∀ q ∈ t.groups, target.value = .number q.id → q.environment = some e))
  | .updateGroup _ _ | .deleteGroup _ | .deleteSelector _ | .revert _ => inferInstanceAs (Decidable True)

section Tidy

variable {e f : String} {t w : Tables}

/-- what goes with groups of one environment is of that environment -/
theorem Tidy.doomed (h : Tidy t) {hit : GroupRow → Bool} (hhit : ∀ g ∈ t.groups, hit g = true → g.environment = some e)
    {g : GroupRow} (hg : g ∈ t.groups) (hdoomed : g.id ∈ t.doomed hit) : g.environment = some e := by
  have hbelow := Links.mem_below_iff.1 hdoomed
  generalize hid : g.id = id at hbelow
  induction hbelow generalizing g with
  | top hk =>
    obtain ⟨q, hq, rfl⟩ := List.mem_map.1 hk
    obtain ⟨hq, hqhit⟩ := List.mem_filter.1 hq
    obtain rfl := same_row hg hq hid
    exact hhit g hg hqhit
  | @under r p hr hp hbelow ih =>
    obtain rfl := same_row hg hr hid
    obtain ⟨q, hq, rfl⟩ := List.mem_map.1 (t.parents g hg p hp)
    have hqdoomed : q.id ∈ t.doomed hit := Links.mem_below_iff.2 hbelow
    rw [← h.parents g hg q hq hp]
    exact ih hq hqdoomed rfl

theorem Tidy.not_stray (h : Tidy t) {g : GroupRow} (hg : g ∈ t.groups) : ¬ t.Stray e g := by
  rintro ⟨henvironment, q, hq, hparent, hforeign⟩
  apply hforeign.2
  rw [h.parents g hg q hq hparent, henvironment]

/-- **Tidy tables keep environments apart.** A write that inserts into its own environment leaves all others as they were. -/
theorem Tidy.apart (h : Tidy t) {write : Write} (hown : OwnEnvironment e t write) : Apart e t write := by
  cases write with
  | updateGroup row changes => exact fun g hg => h.not_stray hg
  | createGroup name parent values =>
    exact ⟨fun g hg => h.not_stray hg, fun q hq hparent hforeign => hforeign.2 (hown q hq hparent)⟩
  | deleteGroup row =>
    intro key _
    have hhit : ∀ g ∈ t.groups, GroupRow.at key e g = true → g.environment = some e :=
      fun g _ hat => (of_decide_eq_true hat).2
    exact ⟨fun g hg hforeign hdoomed => hforeign.2 (h.doomed hhit hg hdoomed), fun g hg hstray => absurd hstray (h.not_stray hg)⟩
  | createSelector target priority matchers =>
    exact ⟨fun g hg => h.not_stray hg, fun q hq htarget hforeign => hforeign.2 (hown q hq htarget)⟩
  | deleteSelector selector => exact fun g hg => h.not_stray hg
  | revert revision =>
    intro g hg hforeign hdoomed
    exact hforeign.2 (h.doomed (fun q _ hwithin => of_decide_eq_true hwithin) hg hdoomed)

theorem Tidy.congr {t' : Tables} (h : Tidy t) (hgroups : t'.groups = t.groups) : Tidy t' := by
  constructor
  · rw [hgroups]
    exact h.placed
  · rw [hgroups]
    exact h.parents

theorem Tidy.setGroups (h : Tidy t) (hit : GroupRow → Bool) (settings : List Setting) : Tidy (t.setGroups hit settings) := by
  have hframe := fun g : GroupRow => g.edited_frame hit settings
  constructor
  · intro g hg
    obtain ⟨row, hrow, rfl⟩ := List.mem_map.1 hg
    rw [(hframe row).2.1]
    exact h.placed row hrow
  · intro g hg q hq hparent
    obtain ⟨row, hrow, rfl⟩ := List.mem_map.1 hg
    obtain ⟨above, habove, rfl⟩ := List.mem_map.1 hq
    rw [(hframe row).2.2, (hframe above).1] at hparent
    rw [(hframe row).2.1, (hframe above).2.1]
    exact h.parents row hrow above habove hparent

theorem Tidy.dropGroups (h : Tidy t) (hit : GroupRow → Bool) : Tidy (t.dropGroups hit) := by
  constructor
  · exact fun g hg => h.placed g (List.mem_filter.1 hg).1
  · exact fun g hg q hq => h.parents g (List.mem_filter.1 hg).1 q (List.mem_filter.1 hq).1

/-- rows are added below each other or below rows of the same environment -/
theorem Tidy.append (h : Tidy t) {rows : List GroupRow} (hgroups : w.groups = t.groups ++ rows)
    (hown : ∀ row ∈ rows, row.environment = some e)
    (hparents : ∀ row ∈ rows, ∀ q ∈ t.groups, row.parent = some q.id → q.environment = some e) : Tidy w := by
  have hkeys := w.groupKeys
  rw [hgroups, List.map_append] at hkeys
  constructor
  · intro g hg
    rw [hgroups] at hg
    rcases List.mem_append.1 hg with hg | hg
    · exact h.placed g hg
    · rw [hown g hg]
      rfl
  · intro g hg q hq hparent
    rw [hgroups] at hg hq
    rcases List.mem_append.1 hg with hg | hg
    · -- an old row is below an old one
      have hq' : q ∈ t.groups := by
        rcases List.mem_append.1 hq with hq | hq
        · exact hq
        · have hold := t.parents g hg q.id hparent
          exact absurd rfl ((List.nodup_append.1 hkeys).2.2 _ hold _ (List.mem_map_of_mem hq))
      exact h.parents g hg q hq' hparent
    · rw [hown g hg]
      rcases List.mem_append.1 hq with hq | hq
      · exact hparents g hg q hq hparent
      · exact hown q hq

theorem lands_tidy {write : Write} (h : Tidy t) (hown : OwnEnvironment e t write) (hlands : Lands e t write w) : Tidy w := by
  cases hlands with
  | updated _ _ => exact h.setGroups _ _
  | @created name parent values key id hid hparent hkey =>
    refine h.append (e := e) rfl (by simp) ?_
    intro row hrow q hq hrowparent
    obtain rfl := List.mem_singleton.1 hrow
    apply hown q hq
    cases parent with
    | null =>
      obtain rfl := Except.ok.inj hkey
      cases hrowparent
    | number p =>
      obtain rfl := Except.ok.inj hkey
      rw [Option.some.inj hrowparent]
    | unreadable => cases hkey
  | deleted _ _ => exact h.dropGroups _
  | pointed _ => exact h.congr rfl
  | unpointed _ _ => exact h.congr rfl
  | reverted _ _ _ hrestored =>
    obtain ⟨rows, selectors, hgroups, -, henvironment, hparents, -⟩ := restored_rows hrestored
    refine (h.dropGroups _).append hgroups henvironment ?_
    intro row hrow q hq hparent
    -- a row put back is below one of those put back
    obtain ⟨r, hr, hid⟩ := List.mem_map.1 (hparents row hrow q.id hparent)
    have hkeys := w.groupKeys
    rw [hgroups, List.map_append] at hkeys
    have hne := (List.nodup_append.1 hkeys).2.2 q.id (List.mem_map_of_mem hq) r.id (List.mem_map_of_mem hr)
    exact absurd hid.symm hne

end Tidy

/-! ## The history of one environment -/

/-- a revision as an entry of the journal of its environment's tree -/
def Revision.entry (r : Revision) : Entry Tree := ⟨r.treeBefore, r.treeAfter⟩

/-- the revisions of one environment, from the oldest on -/
def Tables.historyOf (t : Tables) (e : String) : List Revision := t.revisions.filter fun r => r.environment = e

/-- the store's calls that insert into their own environment -/
def StaysHome (db : Db) (call : Call) : Prop := OwnEnvironment call.request.environment db.committed call.write

instance (db : Db) (call : Call) : Decidable (StaysHome db call) :=
  inferInstanceAs (Decidable (OwnEnvironment call.request.environment db.committed call.write))

section History

variable {lib : Library} {db : Db} {call : Call} {e : String} {t t' : Tables}

/-- a tree is what the rows of its environment make of it -/
theorem tree_congr (hgroups : t'.groupsOf e = t.groupsOf e) (hselectors : t'.selectorsOf e = t.selectorsOf e) :
    t'.tree e = t.tree e := by
  have hrows : t'.selectGroups e = t.selectGroups e := by
    unfold Tables.selectGroups
    simp only [hgroups]
  have hordered : t'.selectSelectors e = t.selectSelectors e := by
    unfold Tables.selectSelectors
    simp only [hselectors]
  rw [Tables.tree, Tables.tree, hrows, hordered]

/-- what one call does: nothing, or it lands and is recorded -/
theorem step_cases (lib : Library) (db : Db) (call : Call) :
    (call.step lib db).committed = db.committed ∨
    ∃ w result, Lands call.request.environment db.committed call.write w ∧
      Recorded lib call.request db.committed w result (call.step lib db).committed := by
  have h := @write_lands lib call.request call.write call.faults db
  unfold Call.step
  revert h
  cases (Prog.run handle call.faults (call.write.run lib call.request) db).1 with
  | ok result =>
    intro hlanded
    obtain ⟨w, hlands, hrecorded⟩ := hlanded
    exact .inr ⟨w, result, hlands, hrecorded⟩
  | error e => exact .inl

theorem step_tidy (h : Tidy db.committed) (hhome : StaysHome db call) : Tidy (call.step lib db).committed := by
  rcases step_cases lib db call with hsame | ⟨w, result, hlands, hrecorded⟩
  · exact h.congr (congrArg Tables.groups hsame)
  · exact (lands_tidy h hhome hlands).congr hrecorded.groups

/-- **A call accounts for what it does.** To any environment's tree, the one it is for and all others. -/
theorem step_logs (e : String) (h : Tidy db.committed) (hhome : StaysHome db call) :
    Logs (Call.step lib) (fun db => db.committed.tree e) (fun db => (db.committed.historyOf e).map Revision.entry) db call := by
  unfold Logs
  dsimp only
  rcases step_cases lib db call with hsame | ⟨w, result, hlands, hrecorded⟩
  · refine ⟨[], ?_, ?_⟩
    · rw [hsame, List.append_nil]
    · rw [hsame]
      exact .nil
  · obtain ⟨kind, target, hrevisions⟩ := hrecorded.revisions
    by_cases henvironment : call.request.environment = e
    · subst henvironment
      refine ⟨[⟨db.committed.tree call.request.environment, (call.step lib db).committed.tree call.request.environment⟩], ?_,
        .cons .nil⟩
      rw [Tables.historyOf, hrevisions, List.filter_append, List.map_append]
      simp [Tables.historyOf, Revision.entry]
    · -- a write of another environment: no revision for this one, and its rows are left
      have hkept := (lands_isolated_iff hlands).2 (h.apart hhome)
      have hisolated := (isolated_congr hrecorded.groups hrecorded.selectors).2 hkept
      have hother : e ≠ call.request.environment := fun heq => henvironment heq.symm
      refine ⟨[], ?_, ?_⟩
      · rw [Tables.historyOf, hrevisions, List.filter_append]
        simp [Tables.historyOf, henvironment]
      · rw [accounts_nil]
        exact (tree_congr (hisolated.groups e hother) (hisolated.selectors e hother)).symm

/-- the calls of a run find tidy tables wherever they are made -/
theorem meets_tidy {calls : List Call} (h : Tidy db.committed) (hhome : Meets (Call.step lib) StaysHome db calls) :
    Meets (Call.step lib) (fun db call => Tidy db.committed ∧ StaysHome db call) db calls :=
  hhome.with_inv (fun db => Tidy db.committed) (fun _ _ hdb hcall => step_tidy hdb hcall) h

/-- **The history accounts for the tree.** -/
theorem history_accounts (e : String) {calls : List Call} (h : Tidy db.committed)
    (hhome : Meets (Call.step lib) StaysHome db calls) :
    ∃ new, (runCalls lib calls db).committed.revisions = db.committed.revisions ++ new ∧
      Accounts (db.committed.tree e) ((new.filter fun r => r.environment = e).map Revision.entry)
        ((runCalls lib calls db).committed.tree e) := by
  obtain ⟨entries, hentries, haccounts⟩ := run_accounts (fun db call hcall => step_logs e hcall.1 hcall.2) (meets_tidy h hhome)
  obtain ⟨new, hnew⟩ := run_history calls db
  refine ⟨new, hnew.symm, ?_⟩
  change ((runCalls lib calls db).committed.historyOf e).map Revision.entry = _ at hentries
  rw [Tables.historyOf, ← hnew, List.filter_append, List.map_append] at hentries
  rw [List.append_cancel_left hentries]
  exact haccounts

/-- a valid tree stays valid: every write that lands leaves one -/
theorem run_tree_allowed {calls : List Call} (h : Tidy db.committed) (hhome : Meets (Call.step lib) StaysHome db calls)
    (hallowed : HistoryAllowed lib db) (hstart : ∃ provider, Allowed lib (db.committed.tree e) provider) :
    ∃ provider, Allowed lib ((runCalls lib calls db).committed.tree e) provider := by
  obtain ⟨new, hnew, haccounts⟩ := history_accounts e h hhome
  have hafter := history_allowed calls db hallowed
  unfold HistoryAllowed at hafter
  rw [hnew] at hafter
  refine (haccounts.before_of_after (P := fun tree => ∃ provider, Allowed lib tree provider) hstart ?_).1
  intro entry hentry
  obtain ⟨r, hr, rfl⟩ := List.mem_map.1 hentry
  exact hafter r (List.mem_append_right _ (List.mem_filter.1 hr).1)

theorem runCalls_append (earlier later : List Call) (db : Db) :
    runCalls lib (earlier ++ later) db = runCalls lib later (runCalls lib earlier db) := run_append

/-- **Every state kept.** Start from rows that stay in their environments, with a history of revisions that the rules allow
and a tree of `e` that they allow, and let inserts stay in their environment. The revisions that are new since some moment account for
each environment's tree, from the tree at that moment to the tree now. A tree it had in between is the tree now, or some
revision keeps it: whatever else is done, an accepted revert of that revision brings it back. -/
theorem every_state_kept (lib : Library) (db : Db) (e : String) (htidy : Tidy db.committed) (hallowed : HistoryAllowed lib db)
    (hstart : ∃ provider, Allowed lib (db.committed.tree e) provider) (earlier later : List Call)
    (hhome : Meets (Call.step lib) StaysHome db (earlier ++ later)) :
    (∃ new, (runCalls lib (earlier ++ later) db).committed.revisions = db.committed.revisions ++ new ∧
      Accounts (db.committed.tree e) ((new.filter fun r => r.environment = e).map Revision.entry)
        ((runCalls lib (earlier ++ later) db).committed.tree e)) ∧
    ((runCalls lib (earlier ++ later) db).committed.tree e = (runCalls lib earlier db).committed.tree e ∨
      ∃ r ∈ (runCalls lib (earlier ++ later) db).committed.revisions, r.environment = e ∧
        ∀ further req revision faults result db', req.environment = e → revision.value = .number r.id →
          Prog.run handle faults (Write.run lib req (.revert revision))
            (runCalls lib further (runCalls lib (earlier ++ later) db)) = (.ok result, db') →
          SameTree (db'.committed.tree e) ((runCalls lib earlier db).committed.tree e)) := by
  refine ⟨history_accounts e htidy hhome, ?_⟩
  obtain ⟨hearlier, hlater⟩ := meets_append.1 hhome
  have hstart' := run_tree_allowed htidy hearlier hallowed hstart
  have htidy' : Tidy (runCalls lib earlier db).committed :=
    Run.run_inv (fun db => Tidy db.committed) (fun _ _ hdb hcall => step_tidy hdb hcall) hearlier htidy
  obtain ⟨new, hnew, haccounts'⟩ := history_accounts e htidy' hlater
  rw [← runCalls_append] at hnew haccounts'
  rcases haccounts'.starts with hsame | ⟨entry, hentry, hfound⟩
  · exact .inl hsame.symm
  · obtain ⟨r, hr, rfl⟩ := List.mem_map.1 hentry
    obtain ⟨hnewer, henvironment⟩ := List.mem_filter.1 hr
    obtain rfl := of_decide_eq_true henvironment
    have hmem : r ∈ (runCalls lib (earlier ++ later) db).committed.revisions := by
      rw [hnew]
      exact List.mem_append_right _ hnewer
    obtain ⟨provider, hprovider⟩ : ∃ provider, Allowed lib r.treeBefore provider := by
      rw [show r.treeBefore = (runCalls lib earlier db).committed.tree r.environment from hfound]
      exact hstart'
    refine .inr ⟨r, hmem, rfl, ?_⟩
    intro further req revision faults result db' hreq hrevision haccepted
    have hundone := (revert_undoes lib _ r hmem provider hprovider further req hreq revision hrevision faults result db' haccepted).1
    rwa [show r.treeBefore = (runCalls lib earlier db).committed.tree r.environment from hfound] at hundone

end History

/-! ## A run -/

/-- fewer queued queries on the first environment -/
def tightened : List Call := [⟨onCluster "cluster1", .updateGroup ⟨"1", .number 1⟩ [.editable (.maxQueued (some 50))], []⟩]

/-- a new group on the second one, with a selector, and a second update of the first one -/
def afterwards : List Call :=
  [⟨onCluster "cluster2", .createGroup "adhoc" (.number 2)
      [.editable (.hardConcurrencyLimit (some 8)), .editable (.maxQueued (some 100))], []⟩,
    ⟨onCluster "cluster2", .createSelector ⟨"3", .number 3⟩ (some 20) [("source_regex", some "adhoc")], []⟩,
    ⟨onCluster "cluster1", .updateGroup ⟨"1", .number 1⟩ [.editable (.maxQueued (some 5))], []⟩]

theorem every_state_kept_tightened :
    ∃ r ∈ (runCalls .plain (tightened ++ afterwards) twoClusters).committed.revisions, r.environment = "cluster1" ∧
      ∀ further req revision faults result db', req.environment = "cluster1" → revision.value = .number r.id →
        Prog.run handle faults (Write.run .plain req (.revert revision))
          (runCalls .plain further (runCalls .plain (tightened ++ afterwards) twoClusters)) = (.ok result, db') →
        SameTree (db'.committed.tree "cluster1") ((runCalls .plain tightened twoClusters).committed.tree "cluster1") := by
  have hkept := every_state_kept .plain twoClusters "cluster1" (by decide) (by simp [HistoryAllowed, twoClusters])
    ⟨false, by decide +kernel⟩ tightened afterwards (by decide +kernel)
  refine hkept.2.resolve_left ?_
  intro hsame
  have hqueued := congrArg (fun tree : Tree => tree.groups.map fun g => g.limits.maxQueued) hsame
  revert hqueued
  decide +kernel

end TrinoManagement.ResourceGroups
