/-
The database behind `tms/ops/config_store.py`: Trino's two resource group tables, TMS's revision history, and what each
statement of the store does to them. Keys are unique, links lead to rows, and a delete takes along whatever hangs below,
as the schema declares; `Tables` carries all of that.

A statement of an open transaction works on the `working` tables; `commit` makes them the committed ones. The oracle of a
statement is how it fails, if it does: it then takes no effect, `commit` included. Numbers a sequence has given out stay
given out, whatever becomes of the transaction.

- `handle_committed`: no statement but `commit` changes what is committed.
-/
import Mathlib.Data.List.Sort
import Mathlib.Tactic
import TrinoManagement.Core.Links
import TrinoManagement.Core.Value
import TrinoManagement.ResourceGroups.Tree

namespace TrinoManagement.ResourceGroups

/-! ## What statements are given -/

/-- an id as a statement gets it: what PostgreSQL reads in the parameter -/
inductive Param where
  | null
  | number (id : ℤ)
  | unreadable
deriving DecidableEq, Repr

/-- an id as a caller names it; `text` is `str` of it -/
structure RowRef where
  text : String
  value : Param
deriving DecidableEq, Repr

/-- a column of `_EDITABLE_GROUP_COLUMNS` and a value for it -/
inductive Setting where
  | name (value : Option String)
  | softMemoryLimit (value : Option String)
  | softConcurrencyLimit (value : Option ℤ)
  | hardConcurrencyLimit (value : Option ℤ)
  | maxQueued (value : Option ℤ)
  | schedulingPolicy (value : Option String)
  | schedulingWeight (value : Option ℤ)
  | jmxExport (value : Option Bool)
  | softCpuLimit (value : Option String)
  | hardCpuLimit (value : Option String)
  | hardPhysicalDataScanLimit (value : Option String)
deriving DecidableEq, Repr

def Limits.null : Limits := ⟨none, none, none, none, none, none, none, none, none, none⟩

/-- the name is no limit -/
def Limits.set (l : Limits) : Setting → Limits
  | .name _ => l
  | .softMemoryLimit v => { l with softMemoryLimit := v }
  | .softConcurrencyLimit v => { l with softConcurrencyLimit := v }
  | .hardConcurrencyLimit v => { l with hardConcurrencyLimit := v }
  | .maxQueued v => { l with maxQueued := v }
  | .schedulingPolicy v => { l with schedulingPolicy := v }
  | .schedulingWeight v => { l with schedulingWeight := v }
  | .jmxExport v => { l with jmxExport := v }
  | .softCpuLimit v => { l with softCpuLimit := v }
  | .hardCpuLimit v => { l with hardCpuLimit := v }
  | .hardPhysicalDataScanLimit v => { l with hardPhysicalDataScanLimit := v }

def GroupRow.set (row : GroupRow) : Setting → GroupRow
  | .name v => { row with name := v.getD row.name }
  | s => { row with limits := row.limits.set s }

def GroupRow.setAll (row : GroupRow) (settings : List Setting) : GroupRow := settings.foldl GroupRow.set row

/-- NULL for a column that is NOT NULL -/
def Setting.nulls : Setting → Bool
  | .name none | .maxQueued none | .hardConcurrencyLimit none => true
  | _ => false

@[simp] theorem GroupRow.set_id (row : GroupRow) (s : Setting) : (row.set s).id = row.id := by cases s <;> rfl

@[simp] theorem GroupRow.set_environment (row : GroupRow) (s : Setting) : (row.set s).environment = row.environment := by
  cases s <;> rfl

@[simp] theorem GroupRow.set_parent (row : GroupRow) (s : Setting) : (row.set s).parent = row.parent := by cases s <;> rfl

/-- an edit leaves id, environment and parent alone -/
theorem GroupRow.setAll_frame (row : GroupRow) (settings : List Setting) :
    (row.setAll settings).id = row.id ∧ (row.setAll settings).environment = row.environment ∧
      (row.setAll settings).parent = row.parent := by
  induction settings generalizing row with
  | nil => exact ⟨rfl, rfl, rfl⟩
  | cons s settings ih =>
    obtain ⟨hid, henvironment, hparent⟩ := ih (row.set s)
    simp only [GroupRow.setAll, List.foldl_cons] at *
    simp [hid, henvironment, hparent]

/-- the row after an UPDATE of those that are hit -/
def GroupRow.edited (hit : GroupRow → Bool) (settings : List Setting) (row : GroupRow) : GroupRow :=
  if hit row then row.setAll settings else row

theorem GroupRow.edited_frame (hit : GroupRow → Bool) (settings : List Setting) (row : GroupRow) :
    (row.edited hit settings).id = row.id ∧ (row.edited hit settings).environment = row.environment ∧
      (row.edited hit settings).parent = row.parent := by
  unfold GroupRow.edited
  split_ifs
  · exact row.setAll_frame settings
  · exact ⟨rfl, rfl, rfl⟩

theorem map_id_edited (hit : GroupRow → Bool) (settings : List Setting) (rows : List GroupRow) :
    (rows.map (GroupRow.edited hit settings)).map GroupRow.id = rows.map GroupRow.id := by
  rw [List.map_map]
  apply List.map_congr_left
  intro row _
  exact (row.edited_frame hit settings).1

/-! ## The tables -/

structure Revision where
  id : ℤ
  environment : String
  actor : String
  reason : String
  requestId : String
  kind : String
  target : String
  treeBefore : Tree
  treeAfter : Tree

structure Tables where
  groups : List GroupRow
  selectors : List SelectorRow
  revisions : List Revision
  groupKeys : (groups.map GroupRow.id).Nodup
  selectorKeys : (selectors.map SelectorRow.id).Nodup
  revisionKeys : (revisions.map Revision.id).Nodup
  parents : ∀ g ∈ groups, ∀ p, g.parent = some p → p ∈ groups.map GroupRow.id
  targets : ∀ s ∈ selectors, s.target ∈ groups.map GroupRow.id

/-- SELECT from the groups -/
structure GroupRows where
  rows : List GroupRow
  keys : (rows.map GroupRow.id).Nodup

/-- ORDER BY s.priority DESC, s.id -/
def SelectorRow.Before (s s' : SelectorRow) : Prop := s'.priority < s.priority ∨ s'.priority = s.priority ∧ s.id ≤ s'.id

instance : DecidableRel SelectorRow.Before := fun s s' =>
  inferInstanceAs (Decidable (s'.priority < s.priority ∨ s'.priority = s.priority ∧ s.id ≤ s'.id))

instance : Std.Total SelectorRow.Before where
  total s s' := by
    unfold SelectorRow.Before
    omega

instance : IsTrans SelectorRow SelectorRow.Before where
  trans s s' s'' h h' := by
    unfold SelectorRow.Before at *
    omega

/-- SELECT from the selectors, with the order -/
structure SelectorRows where
  rows : List SelectorRow
  ordered : rows.Pairwise SelectorRow.Before

/-- `_shape` -/
def shape (groups : GroupRows) (selectors : SelectorRows) : Tree where
  groups := groupViews groups.rows
  selectors := selectors.rows.map (SelectorRow.view (groupViews groups.rows))
  shaped := by
    apply shaped_views groups.keys
    refine selectors.ordered.imp ?_
    intro s s' h
    unfold SelectorRow.Before at h
    omega

namespace Tables

variable (t : Tables)

def groupsOf (e : String) : List GroupRow := t.groups.filter fun g => g.environment = some e

def selectGroups (e : String) : GroupRows where
  rows := t.groupsOf e
  keys := t.groupKeys.sublist (List.filter_sublist.map _)

def selectorsOf (e : String) : List SelectorRow := t.selectors.filter fun s => s.target ∈ (t.groupsOf e).map GroupRow.id

def selectSelectors (e : String) : SelectorRows where
  rows := (t.selectorsOf e).insertionSort SelectorRow.Before
  ordered := List.pairwise_insertionSort SelectorRow.Before (t.selectorsOf e)

/-- the tree of one environment -/
def tree (e : String) : Tree := shape (t.selectGroups e) (t.selectSelectors e)

/-! ## Changes -/

section Changes

variable {t}

/-- UPDATE of the groups that are hit -/
def setGroups (t : Tables) (hit : GroupRow → Bool) (settings : List Setting) : Tables where
  groups := t.groups.map (GroupRow.edited hit settings)
  selectors := t.selectors
  revisions := t.revisions
  groupKeys := by
    rw [map_id_edited]
    exact t.groupKeys
  selectorKeys := t.selectorKeys
  revisionKeys := t.revisionKeys
  parents := by
    intro g hg p hp
    obtain ⟨row, hrow, rfl⟩ := List.mem_map.1 hg
    rw [(row.edited_frame hit settings).2.2] at hp
    rw [map_id_edited]
    exact t.parents row hrow p hp
  targets := by
    intro s hs
    rw [map_id_edited]
    exact t.targets s hs

/-- INSERT of a group -/
def addGroup (t : Tables) (row : GroupRow) (hkey : row.id ∉ t.groups.map GroupRow.id)
    (hparent : ∀ p, row.parent = some p → p ∈ t.groups.map GroupRow.id) : Tables where
  groups := t.groups ++ [row]
  selectors := t.selectors
  revisions := t.revisions
  groupKeys := by
    rw [List.map_append, List.map_singleton]
    exact t.groupKeys.append (List.nodup_singleton _) (by simpa using hkey)
  selectorKeys := t.selectorKeys
  revisionKeys := t.revisionKeys
  parents := by
    intro g hg p hp
    rw [List.map_append]
    apply List.mem_append_left
    rcases List.mem_append.1 hg with hg | hg
    · exact t.parents g hg p hp
    · obtain rfl := List.mem_singleton.1 hg
      exact hparent p hp
  targets := by
    intro s hs
    rw [List.map_append]
    exact List.mem_append_left _ (t.targets s hs)

/-- the ids of the groups that go with those that are hit -/
def doomed (t : Tables) (hit : GroupRow → Bool) : List ℤ :=
  Links.below GroupRow.id GroupRow.parent t.groups ((t.groups.filter hit).map GroupRow.id)

/-- DELETE of the groups that are hit, with everything below them and the selectors that point there -/
def dropGroups (t : Tables) (hit : GroupRow → Bool) : Tables where
  groups := t.groups.filter fun g => g.id ∉ t.doomed hit
  selectors := t.selectors.filter fun s => s.target ∉ t.doomed hit
  revisions := t.revisions
  groupKeys := t.groupKeys.sublist (List.filter_sublist.map _)
  selectorKeys := t.selectorKeys.sublist (List.filter_sublist.map _)
  revisionKeys := t.revisionKeys
  parents := by
    intro g hg p hp
    obtain ⟨hg, hkept⟩ := List.mem_filter.1 hg
    obtain ⟨q, hq, rfl⟩ := List.mem_map.1 (t.parents g hg p hp)
    refine List.mem_map_of_mem (List.mem_filter.2 ⟨hq, decide_eq_true ?_⟩)
    intro hdoomed
    exact of_decide_eq_true hkept (Links.below_closed hg hp hdoomed)
  targets := by
    intro s hs
    obtain ⟨hs, hkept⟩ := List.mem_filter.1 hs
    obtain ⟨q, hq, hid⟩ := List.mem_map.1 (t.targets s hs)
    rw [← hid] at hkept ⊢
    exact List.mem_map_of_mem (List.mem_filter.2 ⟨hq, hkept⟩)

/-- INSERT of a selector -/
def addSelector (t : Tables) (row : SelectorRow) (hkey : row.id ∉ t.selectors.map SelectorRow.id)
    (htarget : row.target ∈ t.groups.map GroupRow.id) : Tables where
  groups := t.groups
  selectors := t.selectors ++ [row]
  revisions := t.revisions
  groupKeys := t.groupKeys
  selectorKeys := by
    rw [List.map_append, List.map_singleton]
    exact t.selectorKeys.append (List.nodup_singleton _) (by simpa using hkey)
  revisionKeys := t.revisionKeys
  parents := t.parents
  targets := by
    intro s hs
    rcases List.mem_append.1 hs with hs | hs
    · exact t.targets s hs
    · obtain rfl := List.mem_singleton.1 hs
      exact htarget

/-- DELETE of the selectors that are hit -/
def dropSelectors (t : Tables) (hit : SelectorRow → Bool) : Tables where
  groups := t.groups
  selectors := t.selectors.filter fun s => !hit s
  revisions := t.revisions
  groupKeys := t.groupKeys
  selectorKeys := t.selectorKeys.sublist (List.filter_sublist.map _)
  revisionKeys := t.revisionKeys
  parents := t.parents
  targets := fun s hs => t.targets s (List.mem_filter.1 hs).1

/-- INSERT of a revision -/
def addRevision (t : Tables) (r : Revision) (hkey : r.id ∉ t.revisions.map Revision.id) : Tables where
  groups := t.groups
  selectors := t.selectors
  revisions := t.revisions ++ [r]
  groupKeys := t.groupKeys
  selectorKeys := t.selectorKeys
  revisionKeys := by
    rw [List.map_append, List.map_singleton]
    exact t.revisionKeys.append (List.nodup_singleton _) (by simpa using hkey)
  parents := t.parents
  targets := t.targets

end Changes

end Tables

/-! ## Statements -/

inductive SqlError where
  | uniqueViolation | foreignKeyViolation | notNullViolation | checkViolation | invalidText
  | failed (message : String)
deriving DecidableEq, Repr

/-- a revision as it is inserted, before it has an id -/
structure Record where
  environment : String
  actor : String
  reason : String
  requestId : String
  kind : String
  target : String
  treeBefore : Tree
  treeAfter : Tree

def Record.revision (r : Record) (id : ℤ) : Revision :=
  ⟨id, r.environment, r.actor, r.reason, r.requestId, r.kind, r.target, r.treeBefore, r.treeAfter⟩

/-- the statements of `ResourceGroupStore`, and what it asks of its connections; a column that an INSERT leaves out is NULL -/
inductive Sql where
  | connect
  | connectTx
  | lock (environment : String)
  | selectGroups (environment : String)
  | selectSelectors (environment : String)
  | selectSnapshot (revision : Param) (environment : String)
  | updateGroup (settings : List Setting) (row : Param) (environment : String)
  | insertGroup (environment name : String) (parent : Param) (limits : Limits)
  | deleteGroup (row : Param) (environment : String)
  | deleteGroups (environment : String)
  | insertSelector (target : Param) (priority : ℤ) (matchers : List (MatcherColumn × String))
  | deleteSelector (selector : Param) (environment : String)
  | insertRevision (record : Record)
  | commit
  | rollback
  | close

/-- rows, a number of rows, or the id of a new one -/
def Sql.Reply : Sql → Type
  | .selectGroups _ => GroupRows
  | .selectSelectors _ => SelectorRows
  | .selectSnapshot _ _ => Option Tree
  | .updateGroup _ _ _ | .deleteGroup _ _ | .deleteSelector _ _ => ℕ
  | .insertGroup _ _ _ _ | .insertRevision _ => ℤ
  | _ => Unit

/-- what is committed, the tables of the open transaction, and the sequences of the three keys -/
structure Db where
  committed : Tables
  working : Option Tables
  groupSeq : ℤ
  selectorSeq : ℤ
  revisionSeq : ℤ

/-- what `= %s` compares with; NULL is equal to nothing -/
def Param.key : Param → Except SqlError (Option ℤ)
  | .null => .ok none
  | .number id => .ok (some id)
  | .unreadable => .error .invalidText

/-- `None` is NULL -/
def Param.ofOption : Option ℤ → Param
  | none => .null
  | some id => .number id

@[simp] theorem Param.key_ofOption (o : Option ℤ) : (Param.ofOption o).key = .ok o := by cases o <;> rfl

/-- `resource_group_id = %s AND environment = %s` -/
def GroupRow.at (key : Option ℤ) (e : String) (g : GroupRow) : Bool := some g.id = key ∧ g.environment = some e

/-- `environment = %s` -/
def GroupRow.within (e : String) (g : GroupRow) : Bool := g.environment = some e

namespace Tables

variable (t : Tables)

/-- the number of rows, as `cursor.rowcount` has it, is without those that go by cascade -/
def execDelete (hit : GroupRow → Bool) : ℕ × Tables := (t.groups.countP hit, t.dropGroups hit)

def execUpdateGroup (settings : List Setting) (row : Param) (e : String) : Except SqlError (ℕ × Tables) := do
  let key ← row.key
  if t.groups.any (GroupRow.at key e) ∧ settings.any Setting.nulls then throw .notNullViolation
  else pure (t.groups.countP (GroupRow.at key e), t.setGroups (GroupRow.at key e) settings)

def execInsertGroup (id : ℤ) (e name : String) (parent : Param) (limits : Limits) : Except SqlError (ℤ × Tables) := do
  let key ← parent.key
  if limits.maxQueued = none ∨ limits.hardConcurrencyLimit = none then throw .notNullViolation
  else if hkey : id ∈ t.groups.map GroupRow.id then throw .uniqueViolation
  else if hparent : ∀ p ∈ key, p ∈ t.groups.map GroupRow.id then
    pure (id, t.addGroup ⟨id, some e, name, key, limits⟩ hkey hparent)
  else throw .foreignKeyViolation

def execInsertSelector (id : ℤ) (target : Param) (priority : ℤ) (matchers : List (MatcherColumn × String)) :
    Except SqlError (Unit × Tables) := do
  match ← target.key with
  | none => throw .notNullViolation
  | some key =>
    if hkey : id ∈ t.selectors.map SelectorRow.id then throw .uniqueViolation
    else if htarget : key ∈ t.groups.map GroupRow.id then pure ((), t.addSelector ⟨id, key, priority, matchers⟩ hkey htarget)
    else throw .foreignKeyViolation

/-- `s.id = %s AND g.environment = %s`, joined -/
def selectorAt (key : Option ℤ) (e : String) (s : SelectorRow) : Bool :=
  some s.id = key && s.target ∈ (t.groupsOf e).map GroupRow.id

def execDeleteSelector (selector : Param) (e : String) : Except SqlError (ℕ × Tables) := do
  let key ← selector.key
  pure (t.selectors.countP (t.selectorAt key e), t.dropSelectors (t.selectorAt key e))

/-- a reason of spaces only is refused -/
def execInsertRevision (id : ℤ) (record : Record) : Except SqlError (ℤ × Tables) :=
  if record.reason.toList.all (· = ' ') then throw .checkViolation
  else if hkey : id ∈ t.revisions.map Revision.id then throw .uniqueViolation
  else pure (id, t.addRevision (record.revision id) hkey)

def execSelectSnapshot (revision : Param) (e : String) : Except SqlError (Option Tree) := do
  let key ← revision.key
  pure ((t.revisions.find? fun r => some r.id = key && r.environment = e).map Revision.treeBefore)

end Tables

/-- a statement of the open transaction -/
def Db.transact {α : Type} (db : Db) (f : Tables → Except SqlError (α × Tables)) : Except SqlError α × Db :=
  match db.working with
  | none => (.error (.failed "the connection is closed"), db)
  | some t =>
    match f t with
    | .error e => (.error e, db)
    | .ok (a, t') => (.ok a, { db with working := some t' })

/-- a statement that reaches the database -/
def answer : (q : Sql) → Db → Except SqlError q.Reply × Db
  | .connect, db => (.ok (), db)
  | .connectTx, db => (.ok (), { db with working := some db.committed })
  | .lock _, db => db.transact fun t => .ok ((), t)
  | .selectGroups e, db => db.transact fun t => .ok (t.selectGroups e, t)
  | .selectSelectors e, db => db.transact fun t => .ok (t.selectSelectors e, t)
  | .selectSnapshot revision e, db => (db.committed.execSelectSnapshot revision e, db)
  | .updateGroup settings row e, db => db.transact fun t => t.execUpdateGroup settings row e
  | .insertGroup e name parent limits, db =>
    { db with groupSeq := db.groupSeq + 1 }.transact fun t => t.execInsertGroup db.groupSeq e name parent limits
  | .deleteGroup row e, db => db.transact fun t => row.key.map fun key => t.execDelete (GroupRow.at key e)
  | .deleteGroups e, db => db.transact fun t => .ok ((), (t.execDelete (GroupRow.within e)).2)
  | .insertSelector target priority matchers, db =>
    { db with selectorSeq := db.selectorSeq + 1 }.transact fun t =>
      t.execInsertSelector db.selectorSeq target priority matchers
  | .deleteSelector selector e, db => db.transact fun t => t.execDeleteSelector selector e
  | .insertRevision record, db =>
    { db with revisionSeq := db.revisionSeq + 1 }.transact fun t => t.execInsertRevision db.revisionSeq record
  | .commit, db =>
    match db.working with
    | none => (.error (.failed "the connection is closed"), db)
    | some t => (.ok (), { db with committed := t })
  | .rollback, db => (.ok (), { db with working := some db.committed })
  | .close, db => (.ok (), { db with working := none })

/-- closing cannot fail -/
def handle : Option String → (q : Sql) → Db → Except SqlError q.Reply × Db
  | some _, .close, db => answer .close db
  | some message, _, db => (.error (.failed message), db)
  | none, q, db => answer q db

/-! ## What a statement does -/

section Statements

variable {db db' : Db} {w : Tables}

theorem transact_committed {α : Type} {f : Tables → Except SqlError (α × Tables)} :
    (db.transact f).2.committed = db.committed := by
  unfold Db.transact
  cases db.working with
  | none => rfl
  | some t =>
    dsimp only
    cases f t <;> rfl

/-- **Only `commit` commits.** -/
theorem handle_committed {fault : Option String} {q : Sql} (hq : q ≠ .commit) :
    (handle fault q db).2.committed = db.committed := by
  cases fault with
  | some message => cases q <;> rfl
  | none =>
    cases q with
    | commit => exact absurd rfl hq
    | connect | connectTx | selectSnapshot | rollback | close => rfl
    | _ => exact transact_committed

theorem handle_ok {fault : Option String} {q : Sql} {a : q.Reply} (h : handle fault q db = (.ok a, db')) :
    answer q db = (.ok a, db') := by
  cases fault with
  | none => exact h
  | some message =>
    cases q with
    | close => exact h
    | _ => cases (Prod.mk.inj h).1

theorem transact_ok {α : Type} {f : Tables → Except SqlError (α × Tables)} {a : α} (hw : db.working = some w)
    (h : db.transact f = (.ok a, db')) : ∃ w', f w = .ok (a, w') ∧ db' = { db with working := some w' } := by
  unfold Db.transact at h
  rw [hw] at h
  dsimp only at h
  cases hf : f w with
  | error e =>
    rw [hf] at h
    cases (Prod.mk.inj h).1
  | ok r =>
    obtain ⟨b, w'⟩ := r
    rw [hf] at h
    obtain ⟨ha, rfl⟩ := Prod.mk.inj h
    cases ha
    exact ⟨w', rfl, rfl⟩

theorem query_ok {α : Type} {f : Tables → α} {a : α} (hw : db.working = some w)
    (h : db.transact (fun t => .ok (f t, t)) = (.ok a, db')) : a = f w ∧ db' = db := by
  obtain ⟨w', hf, rfl⟩ := transact_ok hw h
  obtain ⟨rfl, rfl⟩ := Prod.mk.inj (Except.ok.inj hf)
  rw [← hw]
  exact ⟨rfl, rfl⟩

theorem lock_ok {e : String} {u : Unit} (hw : db.working = some w) (h : answer (.lock e) db = (.ok u, db')) : db' = db :=
  (query_ok (f := fun _ => ()) hw h).2

theorem selectGroups_ok {e : String} {rows : GroupRows} (hw : db.working = some w)
    (h : answer (.selectGroups e) db = (.ok rows, db')) : rows = w.selectGroups e ∧ db' = db :=
  query_ok (f := fun t => t.selectGroups e) hw h

theorem selectSelectors_ok {e : String} {rows : SelectorRows} (hw : db.working = some w)
    (h : answer (.selectSelectors e) db = (.ok rows, db')) : rows = w.selectSelectors e ∧ db' = db :=
  query_ok (f := fun t => t.selectSelectors e) hw h

theorem updateGroup_ok {settings : List Setting} {row : Param} {e : String} {n : ℕ} (hw : db.working = some w)
    (h : answer (.updateGroup settings row e) db = (.ok n, db')) :
    ∃ key, row.key = .ok key ∧ n = w.groups.countP (GroupRow.at key e) ∧
      db' = { db with working := some (w.setGroups (GroupRow.at key e) settings) } := by
  obtain ⟨w', hf, rfl⟩ := transact_ok hw h
  rw [Tables.execUpdateGroup] at hf
  obtain ⟨key, hkey, hf⟩ := bind_eq_ok.1 hf
  split_ifs at hf
  obtain ⟨rfl, rfl⟩ := Prod.mk.inj (Except.ok.inj hf)
  exact ⟨key, hkey, rfl, rfl⟩

theorem insertGroup_ok {e name : String} {parent : Param} {limits : Limits} {id : ℤ} (hw : db.working = some w)
    (h : answer (.insertGroup e name parent limits) db = (.ok id, db')) :
    ∃ key hkey hparent, parent.key = .ok key ∧ id = db.groupSeq ∧
      db' = { db with groupSeq := db.groupSeq + 1,
                      working := some (w.addGroup ⟨id, some e, name, key, limits⟩ hkey hparent) } := by
  obtain ⟨w', hf, rfl⟩ := @transact_ok { db with groupSeq := db.groupSeq + 1 } _ _ _ _ _ hw h
  rw [Tables.execInsertGroup] at hf
  obtain ⟨key, hkey, hf⟩ := bind_eq_ok.1 hf
  split_ifs at hf with hnull hid hparent
  obtain ⟨rfl, rfl⟩ := Prod.mk.inj (Except.ok.inj hf)
  exact ⟨key, hid, hparent, hkey, rfl, rfl⟩

theorem deleteGroup_ok {row : Param} {e : String} {n : ℕ} (hw : db.working = some w)
    (h : answer (.deleteGroup row e) db = (.ok n, db')) :
    ∃ key, row.key = .ok key ∧ n = w.groups.countP (GroupRow.at key e) ∧
      db' = { db with working := some (w.dropGroups (GroupRow.at key e)) } := by
  obtain ⟨w', hf, rfl⟩ := transact_ok hw h
  cases hkey : row.key with
  | error err =>
    rw [hkey] at hf
    cases hf
  | ok key =>
    rw [hkey] at hf
    obtain ⟨rfl, rfl⟩ := Prod.mk.inj (Except.ok.inj hf)
    exact ⟨key, rfl, rfl, rfl⟩

theorem deleteGroups_ok {e : String} {u : Unit} (hw : db.working = some w)
    (h : answer (.deleteGroups e) db = (.ok u, db')) :
    db' = { db with working := some (w.dropGroups (GroupRow.within e)) } := by
  obtain ⟨w', hf, rfl⟩ := transact_ok (f := fun t => .ok ((), (t.execDelete (GroupRow.within e)).2)) hw h
  obtain ⟨-, rfl⟩ := Prod.mk.inj (Except.ok.inj hf)
  rfl

theorem insertSelector_ok {target : Param} {priority : ℤ} {matchers : List (MatcherColumn × String)} {u : Unit}
    (hw : db.working = some w) (h : answer (.insertSelector target priority matchers) db = (.ok u, db')) :
    ∃ key hkey htarget, target.key = .ok (some key) ∧
      db' = { db with selectorSeq := db.selectorSeq + 1,
                      working := some (w.addSelector ⟨db.selectorSeq, key, priority, matchers⟩ hkey htarget) } := by
  obtain ⟨w', hf, rfl⟩ := @transact_ok { db with selectorSeq := db.selectorSeq + 1 } _ _ _ _ _ hw h
  rw [Tables.execInsertSelector] at hf
  obtain ⟨key, hkey, hf⟩ := bind_eq_ok.1 hf
  cases key with
  | none => cases hf
  | some key =>
    dsimp only at hf
    split_ifs at hf with hid htarget
    obtain ⟨-, rfl⟩ := Prod.mk.inj (Except.ok.inj hf)
    exact ⟨key, hid, htarget, hkey, rfl⟩

theorem deleteSelector_ok {selector : Param} {e : String} {n : ℕ} (hw : db.working = some w)
    (h : answer (.deleteSelector selector e) db = (.ok n, db')) :
    ∃ key, selector.key = .ok key ∧ n = w.selectors.countP (w.selectorAt key e) ∧
      db' = { db with working := some (w.dropSelectors (w.selectorAt key e)) } := by
  obtain ⟨w', hf, rfl⟩ := transact_ok hw h
  rw [Tables.execDeleteSelector] at hf
  obtain ⟨key, hkey, hf⟩ := bind_eq_ok.1 hf
  obtain ⟨rfl, rfl⟩ := Prod.mk.inj (Except.ok.inj hf)
  exact ⟨key, hkey, rfl, rfl⟩

theorem insertRevision_ok {record : Record} {id : ℤ} (hw : db.working = some w)
    (h : answer (.insertRevision record) db = (.ok id, db')) :
    ∃ hkey, db'.committed = db.committed ∧ db'.working = some (w.addRevision (record.revision id) hkey) := by
  obtain ⟨w', hf, rfl⟩ := @transact_ok { db with revisionSeq := db.revisionSeq + 1 } _ _ _ _ _ hw h
  rw [Tables.execInsertRevision] at hf
  split_ifs at hf with hblank hid
  obtain ⟨rfl, rfl⟩ := Prod.mk.inj (Except.ok.inj hf)
  exact ⟨hid, rfl, rfl⟩

theorem selectSnapshot_ok {revision : Param} {e : String} {snapshot : Tree}
    (h : answer (.selectSnapshot revision e) db = (.ok (some snapshot), db')) :
    ∃ r ∈ db.committed.revisions, revision.key = .ok (some r.id) ∧ r.environment = e ∧ r.treeBefore = snapshot := by
  obtain ⟨h, -⟩ := Prod.mk.inj h
  rw [Tables.execSelectSnapshot] at h
  obtain ⟨key, hkey, h⟩ := bind_eq_ok.1 h
  obtain ⟨r, hr, hsnapshot⟩ := Option.map_eq_some_iff.1 (Except.ok.inj h)
  have hfound := List.find?_some hr
  simp only [Bool.and_eq_true, decide_eq_true_eq] at hfound
  exact ⟨r, List.mem_of_find?_eq_some hr, by rw [hkey, hfound.1], hfound.2, hsnapshot⟩

theorem commit_ok {u : Unit} (hw : db.working = some w) (h : answer .commit db = (.ok u, db')) : db'.committed = w := by
  rw [answer, hw] at h
  rw [← (Prod.mk.inj h).2]

end Statements

end TrinoManagement.ResourceGroups
