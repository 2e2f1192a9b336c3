/-
The writes of `ResourceGroupStore`: each runs one mutation inside one transaction, reads the tree back, validates what the
change produced and records a revision with the trees before and after.

- `apply`: the transaction. `Write.run`: the six writes over it.
- `Lands`: what each write makes of the tables when its statements succeed.
- `write_lands`: a write that returns has committed that, valid and recorded; one that raises has committed nothing.
-/
import Mathlib.Tactic
import TrinoManagement.Core.Prog
import TrinoManagement.ResourceGroups.Rules
import TrinoManagement.ResourceGroups.Store

namespace TrinoManagement.ResourceGroups

open TrinoManagement.Prog (Yields demonic demonic_mono perform yields_bind yields_ite yields_tryCatch)

inductive StoreError where
  | rejected (findings : List Finding)
  | driver (e : SqlError)
  | badPriority
deriving DecidableEq, Repr

abbrev StoreM := Prog Sql (fun q => Except SqlError q.Reply) StoreError

/-- a statement that fails raises -/
def sql (q : Sql) : StoreM q.Reply := do
  match ← perform q with
  | .ok reply => pure reply
  | .error e => throw (.driver e)

/-! ## The transaction -/

/-- what every write is told besides the change; the last comes from the configuration -/
structure Request where
  environment : String
  actor : String
  reason : String
  requestId : String
  groupProviderConfigured : Bool
deriving DecidableEq, Repr

structure ChangeResult where
  treeBefore : Tree
  treeAfter : Tree
  warnings : List Finding
  revisionId : ℤ

def noOpFinding : Finding := ⟨.error, "V0", "-", "Nothing was changed."⟩

def missingRowFinding (row environment : String) : Finding :=
  ⟨.error, "V0", row, "No such row in '" ++ environment ++ "'. It may have been deleted since this screen was loaded."⟩

/-- `_fetch` -/
def fetch (e : String) : StoreM Tree := do
  let groups ← sql (.selectGroups e)
  let selectors ← sql (.selectSelectors e)
  pure (shape groups selectors)

/-- the group that the operator sees, if `target_row_id` is one -/
def seenTarget (before : Tree) (targetRow : Option String) (target : String) : String :=
  ((before.groups.find? fun g => some (toString g.rowId) = targetRow).map GroupView.id).getD target

section Apply

variable (lib : Library) (req : Request) (kind target : String) (targetRow : Option String) (mutate : StoreM Unit)

/-- the body of `_apply`, up to `connection.commit()` -/
def change : StoreM ChangeResult := do
  sql (.lock req.environment)
  let before ← fetch req.environment
  mutate
  let after ← fetch req.environment
  let findings := validate lib after req.groupProviderConfigured
  if blocking findings ≠ [] then do
    sql .rollback
    throw (.rejected (blocking findings))
  else do
    let id ← sql (.insertRevision ⟨req.environment, req.actor, req.reason, req.requestId, kind,
      seenTarget before targetRow target, before, after⟩)
    sql .commit
    pure ⟨before, after, findings.filter fun f => !f.blocking, id⟩

/-- a change that is rejected is not rolled back: closing does that -/
def recover : StoreError → StoreM ChangeResult
  | .rejected findings => throw (.rejected findings)
  | e => do
    sql .rollback
    throw e

/-- `_apply` -/
def apply : StoreM ChangeResult := do
  sql .connectTx
  let result ← tryCatch (tryCatch (change lib req kind target targetRow mutate) recover) fun e => do
    sql .close
    throw e
  sql .close
  pure result

end Apply

/-! ## The writes -/

/-- an item of `changes` or `values` -/
inductive Change where
  | editable (s : Setting)
  | other (column : String)
deriving DecidableEq, Repr

/-- the items that are in `_EDITABLE_GROUP_COLUMNS` -/
def editable (changes : List Change) : List Setting :=
  changes.filterMap fun
    | .editable s => some s
    | .other _ => none

/-- `if cursor.rowcount != 1` -/
def requireOne (req : Request) (row : String) (rowcount : ℕ) : StoreM Unit :=
  if rowcount ≠ 1 then throw (.rejected [missingRowFinding row req.environment]) else pure ()

/-- the column of a name -/
def matcherColumn (name : String) : Option MatcherColumn :=
  [MatcherColumn.userRegex, .userGroupRegex, .sourceRegex, .queryType, .clientTags, .originalUserRegex,
    .authenticatedUserRegex].find? fun column => column.key = name

/-- the matchers of a new selector: known columns with something in them -/
def wanted (matchers : List (String × Option String)) : List (MatcherColumn × String) :=
  matchers.filterMap fun m => do
    let column ← matcherColumn m.1
    let text ← present m.2
    pure (column, text)

/-- each group goes below the one that now has its parent's path -/
def restoreGroups (e : String) : List GroupView → List (String × ℤ) → StoreM (List (String × ℤ))
  | [], ids => pure ids
  | g :: groups, ids => do
    let id ← sql (.insertGroup e g.name (.ofOption (ids.lookup g.parentId)) g.limits)
    restoreGroups e groups ((g.id, id) :: ids)

def restoreSelectors (ids : List (String × ℤ)) : List SelectorView → StoreM Unit
  | [] => pure ()
  | s :: selectors =>
    match ids.lookup s.target with
    | none => restoreSelectors ids selectors
    | some target => do
      sql (.insertSelector (.number target) s.priority s.matchers)
      restoreSelectors ids selectors

/-- the groups in the order of their insertion -/
def byDepth (groups : List GroupView) : List GroupView := groups.insertionSort fun g g' => g.path.length ≤ g'.path.length

/-- `_restore` -/
def restore (e : String) (snapshot : Tree) : StoreM Unit := do
  sql (.deleteGroups e)
  let ids ← restoreGroups e (byDepth snapshot.groups) []
  restoreSelectors ids snapshot.selectors

inductive Write where
  | updateGroup (row : RowRef) (changes : List Change)
  | createGroup (name : String) (parent : Param) (values : List Change)
  | deleteGroup (row : RowRef)
  | createSelector (target : RowRef) (priority : Option ℤ) (matchers : List (String × Option String))
  | deleteSelector (selector : RowRef)
  | revert (revision : RowRef)
deriving DecidableEq, Repr

section Writes

variable (lib : Library) (req : Request)

def updateGroup (row : RowRef) (changes : List Change) : StoreM ChangeResult :=
  let fields := editable changes
  if fields = [] then throw (.rejected [noOpFinding])
  else
    apply lib req "group_update" row.text (some row.text) do
      let rowcount ← sql (.updateGroup fields row.value req.environment)
      requireOne req row.text rowcount

def createGroup (name : String) (parent : Param) (values : List Change) : StoreM ChangeResult :=
  apply lib req "group_create" name none do
    let _ ← sql (.insertGroup req.environment name parent ((editable values).foldl Limits.set .null))

def deleteGroup (row : RowRef) : StoreM ChangeResult :=
  apply lib req "group_delete" row.text (some row.text) do
    let rowcount ← sql (.deleteGroup row.value req.environment)
    requireOne req row.text rowcount

/-- the priority is what `int` makes of it -/
def createSelector (target : RowRef) (priority : Option ℤ) (matchers : List (String × Option String)) : StoreM ChangeResult :=
  match priority with
  | none => throw .badPriority
  | some priority =>
    apply lib req "selector_create" target.text (some target.text) (sql (.insertSelector target.value priority (wanted matchers)))

def deleteSelector (selector : RowRef) : StoreM ChangeResult :=
  apply lib req "selector_delete" selector.text none do
    let rowcount ← sql (.deleteSelector selector.value req.environment)
    requireOne req selector.text rowcount

def revert (revision : RowRef) : StoreM ChangeResult := do
  sql .connect
  match ← sql (.selectSnapshot revision.value req.environment) with
  | none => throw (.rejected [missingRowFinding revision.text req.environment])
  | some snapshot => apply lib req "revert" revision.text none (restore req.environment snapshot)

def Write.run : Write → StoreM ChangeResult
  | .updateGroup row changes => ResourceGroups.updateGroup lib req row changes
  | .createGroup name parent values => ResourceGroups.createGroup lib req name parent values
  | .deleteGroup row => ResourceGroups.deleteGroup lib req row
  | .createSelector target priority matchers => ResourceGroups.createSelector lib req target priority matchers
  | .deleteSelector selector => ResourceGroups.deleteSelector lib req selector
  | .revert revision => ResourceGroups.revert lib req revision

end Writes

/-! ## What a write makes of the tables -/

/-- the rows that `_restore` inserts for groups, and the new ids by path -/
inductive Placed (e : String) : List (String × ℤ) → List GroupView → List GroupRow → List (String × ℤ) → Prop where
  | nil {ids : List (String × ℤ)} : Placed e ids [] [] ids
  | cons {ids ids' : List (String × ℤ)} {g : GroupView} {groups : List GroupView} {id : ℤ} {rows : List GroupRow}
    (hrest : Placed e ((g.id, id) :: ids) groups rows ids') :
    Placed e ids (g :: groups) (⟨id, some e, g.name, ids.lookup g.parentId, g.limits⟩ :: rows) ids'

/-- the rows that it inserts for selectors, from some id on -/
inductive Pointed (ids : List (String × ℤ)) : ℤ → List SelectorView → List SelectorRow → Prop where
  | nil {n : ℤ} : Pointed ids n [] []
  | skip {n : ℤ} {s : SelectorView} {selectors : List SelectorView} {rows : List SelectorRow}
    (hnone : ids.lookup s.target = none) (hrest : Pointed ids n selectors rows) : Pointed ids n (s :: selectors) rows
  | cons {n target : ℤ} {s : SelectorView} {selectors : List SelectorView} {rows : List SelectorRow}
    (htarget : ids.lookup s.target = some target) (hrest : Pointed ids (n + 1) selectors rows) :
    Pointed ids n (s :: selectors) (⟨n, target, s.priority, s.matchers⟩ :: rows)

/-- tables with the rows of a snapshot added -/
def Restored (e : String) (snapshot : Tree) (t t' : Tables) : Prop :=
  ∃ ids rows n selectors, Placed e [] (byDepth snapshot.groups) rows ids ∧ Pointed ids n snapshot.selectors selectors ∧
    t'.groups = t.groups ++ rows ∧ t'.selectors = t.selectors ++ selectors

/-- what a write makes of the tables when its statements succeed -/
inductive Lands (e : String) (t : Tables) : Write → Tables → Prop where
  | updated {row : RowRef} {changes : List Change} {key : Option ℤ} (hkey : row.value.key = .ok key)
    (hone : t.groups.countP (GroupRow.at key e) = 1) :
    Lands e t (.updateGroup row changes) (t.setGroups (GroupRow.at key e) (editable changes))
  | created {name : String} {parent : Param} {values : List Change} {key : Option ℤ} {id : ℤ} {hid} {hparent}
    (hkey : parent.key = .ok key) :
    Lands e t (.createGroup name parent values)
      (t.addGroup ⟨id, some e, name, key, (editable values).foldl Limits.set .null⟩ hid hparent)
  | deleted {row : RowRef} {key : Option ℤ} (hkey : row.value.key = .ok key)
    (hone : t.groups.countP (GroupRow.at key e) = 1) : Lands e t (.deleteGroup row) (t.dropGroups (GroupRow.at key e))
  | pointed {target : RowRef} {priority : ℤ} {matchers : List (String × Option String)} {key id : ℤ} {hid} {htarget}
    (hkey : target.value.key = .ok (some key)) :
    Lands e t (.createSelector target (some priority) matchers) (t.addSelector ⟨id, key, priority, wanted matchers⟩ hid htarget)
  | unpointed {selector : RowRef} {key : Option ℤ} (hkey : selector.value.key = .ok key)
    (hone : t.selectors.countP (t.selectorAt key e) = 1) :
    Lands e t (.deleteSelector selector) (t.dropSelectors (t.selectorAt key e))
  | reverted {revision : RowRef} {r : Revision} {t' : Tables} (hkey : revision.value.key = .ok (some r.id))
    (hr : r ∈ t.revisions) (henvironment : r.environment = e)
    (hrestored : Restored e r.treeBefore (t.dropGroups (GroupRow.within e)) t') : Lands e t (.revert revision) t'

/-- committed: valid, and with a revision that has the trees before and after -/
structure Recorded (lib : Library) (req : Request) (t w : Tables) (result : ChangeResult) (t' : Tables) : Prop where
  groups : t'.groups = w.groups
  selectors : t'.selectors = w.selectors
  revisions : ∃ kind target, t'.revisions = t.revisions ++ [⟨result.revisionId, req.environment, req.actor, req.reason,
    req.requestId, kind, target, t.tree req.environment, t'.tree req.environment⟩]
  allowed : Allowed lib (t'.tree req.environment) req.groupProviderConfigured

/-! ## What a snapshot puts back -/

section Snapshots

variable {e : String}

theorem Placed.rows {ids ids' : List (String × ℤ)} {groups : List GroupView} {rows : List GroupRow}
    (h : Placed e ids groups rows ids') :
    (∀ row ∈ rows, row.environment = some e) ∧
    (∀ row ∈ rows, ∀ p, row.parent = some p → p ∈ ids.map Prod.snd ∨ p ∈ rows.map GroupRow.id) ∧
    ∀ id ∈ ids'.map Prod.snd, id ∈ ids.map Prod.snd ∨ id ∈ rows.map GroupRow.id := by
  induction h with
  | nil => simp
  | @cons ids ids' g groups id rows hrest ih =>
    obtain ⟨henvironment, hparents, hids⟩ := ih
    refine ⟨?_, ?_, ?_⟩
    · intro row hrow
      rcases List.mem_cons.1 hrow with rfl | hrow
      · rfl
      · exact henvironment row hrow
    · intro row hrow p hp
      rcases List.mem_cons.1 hrow with rfl | hrow
      · exact .inl (List.mem_map.2 ⟨_, Assoc.mem_of_lookup hp, rfl⟩)
      · rcases hparents row hrow p hp with hknown | hnew
        · rcases List.mem_cons.1 hknown with rfl | hknown
          · exact .inr List.mem_cons_self
          · exact .inl hknown
        · exact .inr (List.mem_cons_of_mem _ hnew)
    · intro k hk
      rcases hids k hk with hknown | hnew
      · rcases List.mem_cons.1 hknown with rfl | hknown
        · exact .inr List.mem_cons_self
        · exact .inl hknown
      · exact .inr (List.mem_cons_of_mem _ hnew)

theorem Pointed.targets {ids : List (String × ℤ)} {n : ℤ} {selectors : List SelectorView} {rows : List SelectorRow}
    (h : Pointed ids n selectors rows) : ∀ row ∈ rows, row.target ∈ ids.map Prod.snd := by
  induction h with
  | nil => simp
  | skip _ _ ih => exact ih
  | cons htarget _ ih =>
    intro row hrow
    rcases List.mem_cons.1 hrow with rfl | hrow
    · exact List.mem_map.2 ⟨_, Assoc.mem_of_lookup htarget, rfl⟩
    · exact ih row hrow

variable {t : Tables}

/-- nothing of the environment is left when its groups are deleted -/
theorem nothing_left {g : GroupRow} (hg : g ∈ (t.dropGroups (GroupRow.within e)).groups) : g.environment ≠ some e := by
  intro hown
  obtain ⟨hg, hkept⟩ := List.mem_filter.1 hg
  apply of_decide_eq_true hkept
  apply Links.mem_below_iff.2
  exact .top (List.mem_map_of_mem (List.mem_filter.2 ⟨hg, decide_eq_true hown⟩))

/-- all that is put back is of the environment, below and pointing at what is put back -/
theorem restored_rows {snapshot : Tree} {w : Tables} (h : Restored e snapshot (t.dropGroups (GroupRow.within e)) w) :
    ∃ rows selectors, w.groups = (t.dropGroups (GroupRow.within e)).groups ++ rows ∧
      w.selectors = (t.dropGroups (GroupRow.within e)).selectors ++ selectors ∧
      (∀ row ∈ rows, row.environment = some e) ∧
      (∀ row ∈ rows, ∀ p, row.parent = some p → p ∈ rows.map GroupRow.id) ∧
      ∀ s ∈ selectors, s.target ∈ rows.map GroupRow.id := by
  obtain ⟨ids, rows, n, selectors, hplaced, hpointed, hgroups, hselectors⟩ := h
  obtain ⟨henvironment, hparents, hids⟩ := hplaced.rows
  refine ⟨rows, selectors, hgroups, hselectors, henvironment, ?_, ?_⟩
  · intro row hrow p hp
    exact (hparents row hrow p hp).resolve_left (by simp)
  · intro s hs
    exact (hids _ (hpointed.targets s hs)).resolve_left (by simp)

end Snapshots

/-! ## Runs -/

section Runs

variable {lib : Library} {req : Request} {t w : Tables} {db : Db} {α : Type}

/-- a result meets `K`, whichever statements fail; an exception leaves what is committed -/
abbrev Does (t : Tables) (p : StoreM α) (K : α → Db → Prop) (db : Db) : Prop :=
  Yields (demonic (fun _ => True) handle) (fun db' => db'.committed = t) p K db

theorem does_bind {β : Type} {p : StoreM α} {f : α → StoreM β} {K : β → Db → Prop} :
    Does t (p >>= f) K db ↔ Does t p (fun a db' => Does t (f a) K db') db := yields_bind

theorem does_sql {q : Sql} {K : q.Reply → Db → Prop} (hq : q ≠ .commit) (h : db.committed = t)
    (hok : ∀ a db', answer q db = (.ok a, db') → db'.committed = t → K a db') : Does t (sql q) K db := by
  refine does_bind.2 ?_
  intro fault _
  have hkept := @handle_committed db fault q hq
  generalize hr : handle fault q db = r at hkept
  obtain ⟨r, db'⟩ := r
  cases r with
  | error e => exact hkept.trans h
  | ok a => exact hok a db' (handle_ok hr) (hkept.trans h)

theorem does_commit {K : Unit → Db → Prop} (h : db.committed = t) (hw : db.working = some w)
    (hK : ∀ db', db'.committed = w → K () db') : Does t (sql .commit) K db := by
  refine does_bind.2 ?_
  intro fault _
  cases fault with
  | some message => exact h
  | none =>
    generalize hr : handle none .commit db = r
    obtain ⟨r, db'⟩ := r
    cases r with
    | error e =>
      rw [handle, answer, hw] at hr
      cases (Prod.mk.inj hr).1
    | ok a => exact hK db' (commit_ok hw hr)

theorem does_close {K : Unit → Db → Prop} (hK : K () { db with working := none }) : Does t (sql .close) K db := by
  refine does_bind.2 ?_
  intro fault _
  cases fault <;> exact hK

theorem does_fetch {e : String} {K : Tree → Db → Prop} (h : db.committed = t) (hw : db.working = some w)
    (hK : K (w.tree e) db) : Does t (fetch e) K db := by
  refine does_bind.2 (does_sql (by simp) h ?_)
  intro groups db' hgroups hkept
  obtain ⟨rfl, rfl⟩ := selectGroups_ok hw hgroups
  refine does_bind.2 (does_sql (by simp) hkept ?_)
  intro selectors db'' hselectors _
  obtain ⟨rfl, rfl⟩ := selectSelectors_ok hw hselectors
  exact hK

theorem does_recover {e : StoreError} {K : ChangeResult → Db → Prop} (h : db.committed = t) : Does t (recover e) K db := by
  cases e with
  | rejected findings => exact h
  | driver e => exact does_bind.2 (does_sql (by simp) h fun _ _ _ hkept => hkept)
  | badPriority => exact does_bind.2 (does_sql (by simp) h fun _ _ _ hkept => hkept)

/-- the mutation of a write: `Post` holds of the working tables after it -/
abbrev Makes (t : Tables) (mutate : StoreM Unit) (Post : Tables → Prop) : Prop :=
  ∀ db, db.committed = t → db.working = some t →
    Does t mutate (fun _ db' => db'.committed = t ∧ ∃ w, db'.working = some w ∧ w.revisions = t.revisions ∧ Post w) db

variable {kind target : String} {targetRow : Option String} {mutate : StoreM Unit} {Post : Tables → Prop}

theorem does_change (hmutate : Makes t mutate Post) (h : db.committed = t) (hw : db.working = some t) :
    Does t (change lib req kind target targetRow mutate)
      (fun result db' => ∃ w, Post w ∧ Recorded lib req t w result db'.committed) db := by
  refine does_bind.2 (does_sql (by simp) h ?_)
  intro _ db₁ hlock hkept₁
  obtain rfl := lock_ok hw hlock
  refine does_bind.2 (does_fetch h hw ?_)
  refine does_bind.2 ((hmutate _ h hw).mono demonic_mono (fun _ h => h) ?_)
  intro _ db₂ hafter
  obtain ⟨hkept₂, w, hw₂, hrevisions, hpost⟩ := hafter
  refine does_bind.2 (does_fetch hkept₂ hw₂ ?_)
  refine yields_ite (fun _ => ?_) fun hallowed => ?_
  · exact does_bind.2 (does_sql (by simp) hkept₂ fun _ _ _ hkept => hkept)
  · refine does_bind.2 (does_sql (by simp) hkept₂ ?_)
    intro id db₃ hinsert hkept₃
    obtain ⟨hid, -, hw₃⟩ := insertRevision_ok hw₂ hinsert
    refine does_bind.2 (does_commit hkept₃ hw₃ ?_)
    intro db₄ hcommitted
    refine ⟨w, hpost, ?_, ?_, ⟨kind, seenTarget (t.tree req.environment) targetRow target, ?_⟩, ?_⟩
    · rw [hcommitted]
      rfl
    · rw [hcommitted]
      rfl
    · rw [hcommitted, ← hrevisions]
      rfl
    · rw [hcommitted]
      exact not_not.1 hallowed

/-- **One transaction or none of it.** -/
theorem does_apply (hmutate : Makes t mutate Post) (h : db.committed = t) :
    Does t (apply lib req kind target targetRow mutate)
      (fun result db' => ∃ w, Post w ∧ Recorded lib req t w result db'.committed) db := by
  refine does_bind.2 (does_sql (by simp) h ?_)
  intro _ db₁ hconnect hkept₁
  have hw : db₁.working = some t := by
    rw [← h, ← (Prod.mk.inj hconnect).2]
  refine does_bind.2 (yields_tryCatch demonic_mono (fun db' => db'.committed = t) ?_ ?_)
  · refine yields_tryCatch demonic_mono (fun db' => db'.committed = t) ?_ fun e db' hkept => does_recover hkept
    refine (does_change hmutate hkept₁ hw).mono demonic_mono (fun _ h => h) ?_
    intro result db' hresult
    exact does_bind.2 (does_close hresult)
  · exact fun e db' hkept => does_bind.2 (does_sql (by simp) hkept fun _ _ _ hkept' => hkept')

/-! ## The mutations -/

theorem does_requireOne {row : String} {n : ℕ} {K : Unit → Db → Prop} (h : db.committed = t) (hK : n = 1 → K () db) :
    Does t (requireOne req row n) K db :=
  yields_ite (fun _ => h) fun hone => hK (not_not.1 hone)

theorem does_restoreGroups {e : String} {groups : List GroupView} {ids : List (String × ℤ)} (h : db.committed = t)
    (hw : db.working = some w) :
    Does t (restoreGroups e groups ids) (fun ids' db' => db'.committed = t ∧ ∃ w' rows, db'.working = some w' ∧
      Placed e ids groups rows ids' ∧ w'.groups = w.groups ++ rows ∧ w'.selectors = w.selectors ∧
      w'.revisions = w.revisions) db := by
  induction groups generalizing ids db w with
  | nil => exact ⟨h, w, [], hw, .nil, (List.append_nil _).symm, rfl, rfl⟩
  | cons g groups ih =>
    refine does_bind.2 (does_sql (by simp) h ?_)
    intro id db' hinsert hkept
    obtain ⟨key, hid, hparent, hkey, rfl, rfl⟩ := insertGroup_ok hw hinsert
    rw [Param.key_ofOption] at hkey
    obtain rfl := Except.ok.inj hkey
    refine (ih hkept rfl).mono demonic_mono (fun _ h => h) ?_
    intro ids' db'' hafter
    obtain ⟨hkept', w', rows, hw', hplaced, hgroups, hselectors, hrevisions⟩ := hafter
    refine ⟨hkept', w', _, hw', .cons hplaced, ?_, hselectors, hrevisions⟩
    rw [hgroups]
    exact List.append_assoc w.groups [_] rows

theorem does_restoreSelectors {ids : List (String × ℤ)} {selectors : List SelectorView} (h : db.committed = t)
    (hw : db.working = some w) :
    Does t (restoreSelectors ids selectors) (fun _ db' => db'.committed = t ∧ ∃ w' rows, db'.working = some w' ∧
      Pointed ids db.selectorSeq selectors rows ∧ w'.groups = w.groups ∧ w'.selectors = w.selectors ++ rows ∧
      w'.revisions = w.revisions) db := by
  induction selectors generalizing db w with
  | nil => exact ⟨h, w, [], hw, .nil, rfl, (List.append_nil _).symm, rfl⟩
  | cons s selectors ih =>
    rw [restoreSelectors]
    cases htarget : ids.lookup s.target with
    | none =>
      refine (ih h hw).mono demonic_mono (fun _ h => h) ?_
      intro _ db' hafter
      obtain ⟨hkept, w', rows, hw', hpointed, hrest⟩ := hafter
      exact ⟨hkept, w', rows, hw', .skip htarget hpointed, hrest⟩
    | some target =>
      refine does_bind.2 (does_sql (by simp) h ?_)
      intro _ db' hinsert hkept
      obtain ⟨key, hid, hgroup, hkey, rfl⟩ := insertSelector_ok hw hinsert
      obtain rfl := Option.some.inj (Except.ok.inj hkey)
      refine (ih hkept rfl).mono demonic_mono (fun _ h => h) ?_
      intro _ db'' hafter
      obtain ⟨hkept', w', rows, hw', hpointed, hgroups, hselectors, hrevisions⟩ := hafter
      refine ⟨hkept', w', _, hw', .cons htarget hpointed, hgroups, ?_, hrevisions⟩
      rw [hselectors]
      exact List.append_assoc w.selectors [_] rows

theorem makes_restore {e : String} {snapshot : Tree} :
    Makes t (restore e snapshot) (Restored e snapshot (t.dropGroups (GroupRow.within e))) := by
  intro db h hw
  refine does_bind.2 (does_sql (by simp) h ?_)
  intro _ db₁ hdelete hkept₁
  obtain rfl := deleteGroups_ok hw hdelete
  refine does_bind.2 ((does_restoreGroups hkept₁ rfl).mono demonic_mono (fun _ h => h) ?_)
  intro ids db₂ hafter
  obtain ⟨hkept₂, w₂, rows, hw₂, hplaced, hgroups₂, hselectors₂, hrevisions₂⟩ := hafter
  refine (does_restoreSelectors hkept₂ hw₂).mono demonic_mono (fun _ h => h) ?_
  intro _ db₃ hafter
  obtain ⟨hkept₃, w₃, selectors, hw₃, hpointed, hgroups₃, hselectors₃, hrevisions₃⟩ := hafter
  refine ⟨hkept₃, w₃, hw₃, hrevisions₃.trans hrevisions₂, ?_⟩
  exact ⟨ids, rows, _, selectors, hplaced, hpointed, hgroups₃.trans hgroups₂, by rw [hselectors₃, hselectors₂]⟩

theorem does_write {write : Write} (h : db.committed = t) :
    Does t (write.run lib req) (fun result db' => ∃ w, Lands req.environment t write w ∧
      Recorded lib req t w result db'.committed) db := by
  cases write with
  | updateGroup row changes =>
    refine yields_ite (fun _ => h) fun _ => does_apply ?_ h
    intro db h hw
    refine does_bind.2 (does_sql (by simp) h ?_)
    intro n db' hupdate hkept
    obtain ⟨key, hkey, rfl, rfl⟩ := updateGroup_ok hw hupdate
    exact does_requireOne hkept fun hone => ⟨hkept, _, rfl, rfl, .updated hkey hone⟩
  | createGroup name parent values =>
    refine does_apply ?_ h
    intro db h hw
    refine does_bind.2 (does_sql (by simp) h ?_)
    intro id db' hinsert hkept
    obtain ⟨key, hid, hparent, hkey, rfl, rfl⟩ := insertGroup_ok hw hinsert
    exact ⟨hkept, _, rfl, rfl, .created hkey⟩
  | deleteGroup row =>
    refine does_apply ?_ h
    intro db h hw
    refine does_bind.2 (does_sql (by simp) h ?_)
    intro n db' hdelete hkept
    obtain ⟨key, hkey, rfl, rfl⟩ := deleteGroup_ok hw hdelete
    exact does_requireOne hkept fun hone => ⟨hkept, _, rfl, rfl, .deleted hkey hone⟩
  | createSelector target priority matchers =>
    cases priority with
    | none => exact h
    | some priority =>
      refine does_apply ?_ h
      intro db h hw
      refine does_sql (by simp) h ?_
      intro _ db' hinsert hkept
      obtain ⟨key, hid, htarget, hkey, rfl⟩ := insertSelector_ok hw hinsert
      exact ⟨hkept, _, rfl, rfl, .pointed hkey⟩
  | deleteSelector selector =>
    refine does_apply ?_ h
    intro db h hw
    refine does_bind.2 (does_sql (by simp) h ?_)
    intro n db' hdelete hkept
    obtain ⟨key, hkey, rfl, rfl⟩ := deleteSelector_ok hw hdelete
    exact does_requireOne hkept fun hone => ⟨hkept, _, rfl, rfl, .unpointed hkey hone⟩
  | revert revision =>
    refine does_bind.2 (does_sql (by simp) h ?_)
    intro _ db₁ _ hkept₁
    refine does_bind.2 (does_sql (by simp) hkept₁ ?_)
    intro snapshot db₂ hselect hkept₂
    cases snapshot with
    | none => exact hkept₂
    | some snapshot =>
      obtain ⟨r, hr, hkey, henvironment, rfl⟩ := selectSnapshot_ok hselect
      rw [hkept₁] at hr
      refine (does_apply makes_restore hkept₂).mono demonic_mono (fun _ h => h) ?_
      intro result db' hafter
      obtain ⟨w, hrestored, hrecorded⟩ := hafter
      exact ⟨w, .reverted hkey hr henvironment hrestored, hrecorded⟩

/-- what a write has to do with the tables before and after it, whatever fails on the way -/
def Outcome (lib : Library) (req : Request) (t : Tables) (write : Write) (result : Except StoreError ChangeResult)
    (t' : Tables) : Prop :=
  match result with
  | .ok result => ∃ w, Lands req.environment t write w ∧ Recorded lib req t w result t'
  | .error _ => t' = t

/-- **A write lands or nothing happens.** -/
theorem write_lands (write : Write) (faults : List (Option String)) (db : Db) :
    Outcome lib req db.committed write (Prog.run handle faults (write.run lib req) db).1
      (Prog.run handle faults (write.run lib req) db).2.committed := by
  have h := @Prog.wp_run Sql (fun q => Except SqlError q.Reply) StoreError ChangeResult (Option String) Db (fun _ => True)
    handle _ (write.run lib req) _ db faults trivial (fun _ _ => trivial) (does_write rfl)
  revert h
  cases (Prog.run handle faults (write.run lib req) db).1 with
  | ok result => exact fun h => h
  | error e => exact fun h => h

end Runs

/-! ## Many writes -/

/-- one call of the store, and what fails during it -/
structure Call where
  request : Request
  write : Write
  faults : List (Option String)

section Calls

variable (lib : Library)

def Call.step (db : Db) (call : Call) : Db := (Prog.run handle call.faults (call.write.run lib call.request) db).2

/-- one call after the other, of any environments -/
def runCalls (calls : List Call) (db : Db) : Db := calls.foldl (Call.step lib) db

variable {lib} {db : Db}

theorem step_history (call : Call) : db.committed.revisions <+: (call.step lib db).committed.revisions := by
  have h := @write_lands lib call.request call.write call.faults db
  unfold Call.step
  revert h
  cases (Prog.run handle call.faults (call.write.run lib call.request) db).1 with
  | ok result =>
    intro hafter
    obtain ⟨w, -, hrecorded⟩ := hafter
    obtain ⟨kind, target, hrevisions⟩ := hrecorded.revisions
    rw [hrevisions]
    exact List.prefix_append _ _
  | error e =>
    intro h
    rw [show _ = db.committed from h]

/-- **The history only grows.** -/
theorem run_history (calls : List Call) (db : Db) : db.committed.revisions <+: (runCalls lib calls db).committed.revisions := by
  induction calls generalizing db with
  | nil => exact List.prefix_refl _
  | cons call calls ih => exact (step_history call).trans (ih (call.step lib db))

end Calls

end TrinoManagement.ResourceGroups
