/-
Resource groups as Trino's tables hold them and as the rest of TMS speaks of them: `_dotted_paths` and `_shape` of
`tms/ops/config_store.py`. A row names its parent by id; a view names itself by the path of names down to it.

- `resolve`, `dottedPaths`: the paths, with what is known and what has been seen on the way up. Links may be cyclic.
- `dottedPaths_chain`: a row whose parents end at a root has the names from that root down to it as its path.
- `Shaped`: what every tree that was read from rows has, so that it can be written back. `shaped_views`: it does.
-/
import Mathlib.Tactic
import TrinoManagement.Core.Dict

namespace TrinoManagement.ResourceGroups

/-! ## Rows and views -/

/-- the columns of a group besides its name, parent and environment -/
structure Limits where
  softMemoryLimit : Option String
  softConcurrencyLimit : Option ℤ
  hardConcurrencyLimit : Option ℤ
  maxQueued : Option ℤ
  schedulingPolicy : Option String
  schedulingWeight : Option ℤ
  jmxExport : Option Bool
  softCpuLimit : Option String
  hardCpuLimit : Option String
  hardPhysicalDataScanLimit : Option String
deriving DecidableEq, Repr

structure GroupRow where
  id : ℤ
  environment : Option String
  name : String
  parent : Option ℤ
  limits : Limits
deriving DecidableEq, Repr

/-- `_MATCHER_COLUMNS` -/
inductive MatcherColumn where
  | userRegex | userGroupRegex | sourceRegex | queryType | clientTags | originalUserRegex | authenticatedUserRegex
deriving DecidableEq, Repr

/-- a selector with the matchers that are not NULL -/
structure SelectorRow where
  id : ℤ
  target : ℤ
  priority : ℤ
  matchers : List (MatcherColumn × String)
deriving DecidableEq, Repr

structure GroupView where
  path : List String
  name : String
  rowId : ℤ
  limits : Limits
deriving DecidableEq, Repr

/-- the dotted path -/
def GroupView.id (g : GroupView) : String := ".".intercalate g.path

def GroupView.depth (g : GroupView) : ℕ := g.path.length - 1

structure SelectorView where
  id : ℤ
  priority : ℤ
  target : String
  targetRowId : ℤ
  matchers : List (MatcherColumn × String)
deriving DecidableEq, Repr

def SelectorView.catchAll (s : SelectorView) : Bool := s.matchers.isEmpty

/-! ## Dotted paths -/

abbrev Paths := List (ℤ × List String)

/-- `by_id`: of several rows with one id the last one counts -/
def byId (rows : List GroupRow) (id : ℤ) : Option GroupRow := rows.reverse.find? fun row => row.id = id

/-- `resolve`; the first argument bounds the depth of the recursion -/
def resolve (rows : List GroupRow) : ℕ → List ℤ → Paths → ℤ → List String × Paths
  | 0, _, paths, _ => ([], paths)
  | n + 1, seen, paths, id =>
    match paths.lookup id with
    | some path => (path, paths)
    | none =>
      match byId rows id with
      | none => ([], paths)
      | some row =>
        if id ∈ seen then ([], paths)
        else
          let above :=
            match row.parent with
            | some parent => resolve rows n (id :: seen) paths parent
            | none => ([], paths)
          (above.1 ++ [row.name], (id, above.1 ++ [row.name]) :: above.2)

/-- `_dotted_paths`; each step up sees one more row, so the recursion is no deeper than there are rows, and one -/
def dottedPaths (rows : List GroupRow) : Paths :=
  rows.foldl (fun paths row => (resolve rows (rows.length + 1) [] paths row.id).2) []

/-! ## Shape -/

/-- `paths.get(row_id) or [name]` -/
def pathOf (paths : Paths) (row : GroupRow) : List String :=
  let path := (paths.lookup row.id).getD []
  if path = [] then [row.name] else path

def GroupRow.view (paths : Paths) (row : GroupRow) : GroupView :=
  { path := pathOf paths row
    name := row.name
    rowId := row.id
    limits := { row.limits with jmxExport := some (row.limits.jmxExport.getD false) } }

/-- `target_of.get(row_id, "")` -/
def targetOf (groups : List GroupView) (rowId : ℤ) : String :=
  ((groups.reverse.find? fun g => g.rowId = rowId).map GroupView.id).getD ""

def SelectorRow.view (groups : List GroupView) (row : SelectorRow) : SelectorView :=
  { id := row.id
    priority := row.priority
    target := targetOf groups row.target
    targetRowId := row.target
    matchers := row.matchers.filter fun m => m.2 ≠ "" }

/-- the groups of `_shape` -/
def groupViews (rows : List GroupRow) : List GroupView := rows.map (GroupRow.view (dottedPaths rows))

/-- what a tree has that was read from rows -/
structure Shaped (groups : List GroupView) (selectors : List SelectorView) : Prop where
  rooted : ∀ g ∈ groups, ∃ above, g.path = above ++ [g.name] ∧ (above = [] ∨ ∃ q ∈ groups, q.path = above)
  exported : ∀ g ∈ groups, g.limits.jmxExport.isSome = true
  ordered : selectors.Pairwise fun s s' => s'.priority ≤ s.priority
  spoken : ∀ s ∈ selectors, ∀ m ∈ s.matchers, m.2 ≠ ""

/-- groups and selectors of one environment, read from the store -/
structure Tree where
  groups : List GroupView
  selectors : List SelectorView
  shaped : Shaped groups selectors

/-! ## Rows by id -/

section ById

variable {rows : List GroupRow} {id : ℤ} {row : GroupRow}

theorem byId_mem (h : byId rows id = some row) : row ∈ rows ∧ row.id = id := by
  refine ⟨List.mem_reverse.1 (List.mem_of_find?_eq_some h), ?_⟩
  simpa using List.find?_some h

theorem byId_eq_some (hkeys : (rows.map GroupRow.id).Nodup) (hrow : row ∈ rows) : byId rows row.id = some row := by
  cases h : byId rows row.id with
  | none => exact absurd (List.find?_eq_none.1 h row (List.mem_reverse.2 hrow)) (by simp)
  | some row' =>
    obtain ⟨hrow', hid⟩ := byId_mem h
    rw [List.inj_on_of_nodup_map hkeys hrow' hrow hid]

end ById

/-! ## What is remembered -/

section Memo

variable {rows : List GroupRow}

/-- each remembered path is that of a row, below a remembered one or at the top -/
structure Memo (rows : List GroupRow) (paths : Paths) : Prop where
  keys : (paths.map Prod.fst).Nodup
  rooted : ∀ e ∈ paths, ∃ row, byId rows e.1 = some row ∧ ∃ above, e.2 = above ++ [row.name] ∧
    (above = [] ∨ ∃ p, (p, above) ∈ paths)

/-- one call of `resolve`: what was known stays, nothing that has been seen is added, and the path is remembered -/
structure Resolved (rows : List GroupRow) (seen : List ℤ) (paths : Paths) (id : ℤ) (result : List String × Paths) : Prop where
  memo : Memo rows result.2
  grows : paths ⊆ result.2
  unseen : ∀ k ∈ seen, k ∈ result.2.map Prod.fst → k ∈ paths.map Prod.fst
  found : result.1 = [] ∨ (id, result.1) ∈ result.2

theorem resolve_resolved (n : ℕ) {seen : List ℤ} {paths : Paths} {id : ℤ} (h : Memo rows paths) :
    Resolved rows seen paths id (resolve rows n seen paths id) := by
  have stop : ∀ path, path = [] ∨ (id, path) ∈ paths → Resolved rows seen paths id (path, paths) := by
    intro path hpath
    exact ⟨h, fun _ he => he, fun _ _ hk => hk, hpath⟩
  induction n generalizing seen paths id with
  | zero => exact stop [] (.inl rfl)
  | succ n ih =>
    rw [resolve]
    cases hlookup : paths.lookup id with
    | some path => exact stop path (.inr (Assoc.mem_of_lookup hlookup))
    | none =>
      cases hrow : byId rows id with
      | none => exact stop [] (.inl rfl)
      | some row =>
        dsimp only
        by_cases hseen : id ∈ seen
        · rw [if_pos hseen]
          exact stop [] (.inl rfl)
        · rw [if_neg hseen]
          -- above the row: nothing, or what its parent resolves to
          have habove : ∃ above : List String × Paths, above = (match row.parent with
              | some parent => resolve rows n (id :: seen) paths parent
              | none => ([], paths)) ∧ Memo rows above.2 ∧ paths ⊆ above.2 ∧
              (∀ k ∈ id :: seen, k ∈ above.2.map Prod.fst → k ∈ paths.map Prod.fst) ∧
              (above.1 = [] ∨ ∃ p, (p, above.1) ∈ above.2) := by
            cases row.parent with
            | none => exact ⟨_, rfl, h, fun _ he => he, fun _ _ hk => hk, .inl rfl⟩
            | some parent =>
              obtain ⟨hmemo, hgrows, hunseen, hfound⟩ := @ih (id :: seen) paths parent h
                (fun path hpath => ⟨h, fun _ he => he, fun _ _ hk => hk, hpath⟩)
              exact ⟨_, rfl, hmemo, hgrows, hunseen, hfound.imp_right fun hmem => ⟨parent, hmem⟩⟩
          obtain ⟨above, heq, hmemo, hgrows, hunseen, hfound⟩ := habove
          rw [← heq]
          have hnew : id ∉ above.2.map Prod.fst := by
            intro hmem
            exact Assoc.lookup_eq_none.1 hlookup (hunseen id List.mem_cons_self hmem)
          refine ⟨⟨?_, ?_⟩, ?_, ?_, .inr List.mem_cons_self⟩
          · rw [List.map_cons, List.nodup_cons]
            exact ⟨hnew, hmemo.keys⟩
          · intro e he
            rcases List.mem_cons.1 he with rfl | he
            · refine ⟨row, hrow, above.1, rfl, hfound.imp_right ?_⟩
              rintro ⟨p, hp⟩
              exact ⟨p, List.mem_cons_of_mem _ hp⟩
            · obtain ⟨row', hrow', up, hpath, hup⟩ := hmemo.rooted e he
              refine ⟨row', hrow', up, hpath, hup.imp_right ?_⟩
              rintro ⟨p, hp⟩
              exact ⟨p, List.mem_cons_of_mem _ hp⟩
          · exact fun e he => List.mem_cons_of_mem _ (hgrows he)
          · intro k hk hmem
            rw [List.map_cons, List.mem_cons] at hmem
            rcases hmem with rfl | hmem
            · exact absurd hk hseen
            · exact hunseen k (List.mem_cons_of_mem _ hk) hmem

/-- a row that has not been seen is remembered -/
theorem resolve_known {n : ℕ} {seen : List ℤ} {paths : Paths} {id : ℤ} {row : GroupRow} (hrow : byId rows id = some row)
    (hseen : id ∉ seen) : id ∈ (resolve rows (n + 1) seen paths id).2.map Prod.fst := by
  rw [resolve]
  cases hlookup : paths.lookup id with
  | some path => exact List.mem_map.2 ⟨_, Assoc.mem_of_lookup hlookup, rfl⟩
  | none =>
    rw [hrow]
    simp [hseen]

theorem dottedPaths_memo (hkeys : (rows.map GroupRow.id).Nodup) :
    Memo rows (dottedPaths rows) ∧ ∀ row ∈ rows, row.id ∈ (dottedPaths rows).map Prod.fst := by
  have main : ∀ (todo : List GroupRow) (paths : Paths), (∀ row ∈ todo, row ∈ rows) → Memo rows paths →
      Memo rows (todo.foldl (fun paths row => (resolve rows (rows.length + 1) [] paths row.id).2) paths) ∧
      paths ⊆ todo.foldl (fun paths row => (resolve rows (rows.length + 1) [] paths row.id).2) paths ∧
      ∀ row ∈ todo, row.id ∈
        (todo.foldl (fun paths row => (resolve rows (rows.length + 1) [] paths row.id).2) paths).map Prod.fst := by
    intro todo
    induction todo with
    | nil => exact fun paths _ h => ⟨h, fun _ he => he, fun row hrow => by cases hrow⟩
    | cons row todo ih =>
      intro paths htodo h
      have hresolved := @resolve_resolved rows (rows.length + 1) [] paths row.id h
      have hknown := @resolve_known rows rows.length [] paths row.id row
        (byId_eq_some hkeys (htodo row List.mem_cons_self)) List.not_mem_nil
      obtain ⟨hmemo, hgrows, hall⟩ := ih _ (fun r hr => htodo r (List.mem_cons_of_mem _ hr)) hresolved.memo
      refine ⟨hmemo, fun e he => hgrows (hresolved.grows he), ?_⟩
      intro r hr
      rcases List.mem_cons.1 hr with rfl | hr
      · obtain ⟨e, he, hid⟩ := List.mem_map.1 hknown
        exact List.mem_map.2 ⟨e, hgrows he, hid⟩
      · exact hall r hr
  have hempty : Memo rows [] := ⟨List.nodup_nil, fun e he => by cases he⟩
  obtain ⟨hmemo, -, hall⟩ := main rows [] (fun _ h => h) hempty
  exact ⟨hmemo, hall⟩

/-- **Dotted paths.** Each row's ends in its name, and what stands before that is nothing or another row's. -/
theorem dottedPaths_rooted (hkeys : (rows.map GroupRow.id).Nodup) {row : GroupRow} (hrow : row ∈ rows) :
    ∃ above, (dottedPaths rows).lookup row.id = some (above ++ [row.name]) ∧
      (above = [] ∨ ∃ q ∈ rows, (dottedPaths rows).lookup q.id = some above) := by
  obtain ⟨hmemo, hall⟩ := dottedPaths_memo hkeys
  obtain ⟨e, he, hid⟩ := List.mem_map.1 (hall row hrow)
  obtain ⟨row', hrow', above, hpath, habove⟩ := hmemo.rooted e he
  rw [hid, byId_eq_some hkeys hrow] at hrow'
  obtain rfl := Option.some.inj hrow'
  refine ⟨above, ?_, ?_⟩
  · rw [← hid, ← hpath]
    exact Assoc.lookup_of_mem hmemo.keys he
  · rcases habove with rfl | ⟨p, hp⟩
    · exact .inl rfl
    · obtain ⟨q, hq, -⟩ := hmemo.rooted _ hp
      obtain ⟨hqrows, hqid⟩ := byId_mem hq
      refine .inr ⟨q, hqrows, ?_⟩
      rw [hqid]
      exact Assoc.lookup_of_mem hmemo.keys hp

theorem pathOf_eq {paths : Paths} {row : GroupRow} {path : List String} (h : paths.lookup row.id = some path)
    (hne : path ≠ []) : pathOf paths row = path := by
  simp [pathOf, h, hne]

/-- **What is read is shaped.** -/
theorem shaped_views (hkeys : (rows.map GroupRow.id).Nodup) {selectors : List SelectorRow}
    (hordered : selectors.Pairwise fun s s' => s'.priority ≤ s.priority) :
    Shaped (groupViews rows) (selectors.map (SelectorRow.view (groupViews rows))) where
  rooted := by
    intro g hg
    obtain ⟨row, hrow, rfl⟩ := List.mem_map.1 hg
    obtain ⟨above, hpath, habove⟩ := dottedPaths_rooted hkeys hrow
    refine ⟨above, pathOf_eq hpath (by simp), ?_⟩
    rcases habove with rfl | ⟨q, hq, hqpath⟩
    · exact .inl rfl
    · by_cases hnil : above = []
      · exact .inl hnil
      · exact .inr ⟨q.view (dottedPaths rows), List.mem_map_of_mem hq, pathOf_eq hqpath hnil⟩
  exported := by
    intro g hg
    obtain ⟨row, hrow, rfl⟩ := List.mem_map.1 hg
    rfl
  ordered := by
    rw [List.pairwise_map]
    exact hordered
  spoken := by
    intro s hs m hm
    obtain ⟨row, hrow, rfl⟩ := List.mem_map.1 hs
    simpa using (List.mem_filter.1 hm).2

end Memo

/-! ## Chains of parents -/

section Chain

variable {rows : List GroupRow}

/-- the parents of the row end at a root, and these are the names from there down to it -/
inductive Chain (rows : List GroupRow) : ℤ → List String → Prop where
  | root {id : ℤ} {row : GroupRow} (hrow : byId rows id = some row) (hparent : row.parent = none) : Chain rows id [row.name]
  | child {id parent : ℤ} {row : GroupRow} {above : List String} (hrow : byId rows id = some row)
    (hparent : row.parent = some parent) (habove : Chain rows parent above) : Chain rows id (above ++ [row.name])

theorem Chain.unique {id : ℤ} {path path' : List String} (h : Chain rows id path) (h' : Chain rows id path') : path = path' := by
  induction h generalizing path' with
  | root hrow hparent =>
    cases h' with
    | root hrow' _ =>
      rw [hrow] at hrow'
      rw [Option.some.inj hrow']
    | child hrow' hparent' _ =>
      rw [hrow] at hrow'
      rw [← Option.some.inj hrow', hparent] at hparent'
      cases hparent'
  | child hrow hparent _ ih =>
    cases h' with
    | root hrow' hparent' =>
      rw [hrow] at hrow'
      rw [← Option.some.inj hrow', hparent] at hparent'
      cases hparent'
    | child hrow' hparent' habove' =>
      rw [hrow] at hrow'
      obtain rfl := Option.some.inj hrow'
      rw [hparent] at hparent'
      obtain rfl := Option.some.inj hparent'
      rw [ih habove']

/-- what is remembered of a row on a chain is its chain -/
def Remembers (rows : List GroupRow) (paths : Paths) : Prop :=
  ∀ id path path', Chain rows id path → paths.lookup id = some path' → path' = path

theorem Remembers.cons {paths : Paths} (h : Remembers rows paths) {id : ℤ} {path : List String}
    (hpath : ∀ path', Chain rows id path' → path = path') : Remembers rows ((id, path) :: paths) := by
  intro k chain found hchain hlookup
  by_cases hk : k = id
  · subst hk
    simp only [List.lookup_cons, beq_self_eq_true] at hlookup
    rw [← Option.some.inj hlookup]
    exact hpath chain hchain
  · rw [List.lookup_cons, beq_false_of_ne hk] at hlookup
    exact h k chain found hchain hlookup

/-- what has been seen on the way is below, so a row on a chain is never taken for a cycle -/
structure OnTheWay (rows : List GroupRow) (n : ℕ) (seen : List ℤ) (path : List String) : Prop where
  nodup : seen.Nodup
  known : ∀ k ∈ seen, (byId rows k).isSome = true
  fuel : n + seen.length = rows.length + 1
  longer : ∀ k ∈ seen, ∀ path', Chain rows k path' → path.length < path'.length

/-- while rows are seen once each there is one left to go to -/
theorem pos_of_seen {n : ℕ} {seen : List ℤ} (hnodup : seen.Nodup) (hknown : ∀ k ∈ seen, (byId rows k).isSome = true)
    (hfuel : n + seen.length = rows.length + 1) : 0 < n := by
  have hsub : seen ⊆ rows.map GroupRow.id := by
    intro k hk
    obtain ⟨row, hrow⟩ := Option.isSome_iff_exists.1 (hknown k hk)
    obtain ⟨hmem, rfl⟩ := byId_mem hrow
    exact List.mem_map_of_mem hmem
  have hle := (hnodup.subperm hsub).length_le
  rw [List.length_map] at hle
  omega

theorem OnTheWay.pos {n : ℕ} {seen : List ℤ} {path : List String} (h : OnTheWay rows n seen path) : 0 < n :=
  pos_of_seen h.nodup h.known h.fuel

theorem resolve_chain {id : ℤ} {path : List String} (h : Chain rows id path) {n : ℕ} {seen : List ℤ} {paths : Paths}
    (hway : OnTheWay rows n seen path) (hremembers : Remembers rows paths) :
    (resolve rows n seen paths id).1 = path ∧ Remembers rows (resolve rows n seen paths id).2 := by
  induction h generalizing n seen paths with
  | @root id row hrow hparent =>
    obtain ⟨n, rfl⟩ := Nat.exists_eq_succ_of_ne_zero hway.pos.ne'
    rw [resolve]
    cases hlookup : paths.lookup id with
    | some found => exact ⟨hremembers id _ found (.root hrow hparent) hlookup, hremembers⟩
    | none =>
      have hseen : id ∉ seen := by
        intro hmem
        exact absurd (hway.longer id hmem _ (.root hrow hparent)) (lt_irrefl _)
      simp only [hrow, hparent, if_neg hseen, List.nil_append, true_and]
      exact hremembers.cons fun path' h' => (Chain.root hrow hparent).unique h'
  | @child id parent row above hrow hparent habove ih =>
    have hchain := Chain.child hrow hparent habove
    obtain ⟨n, rfl⟩ := Nat.exists_eq_succ_of_ne_zero hway.pos.ne'
    rw [resolve]
    cases hlookup : paths.lookup id with
    | some found => exact ⟨hremembers id _ found hchain hlookup, hremembers⟩
    | none =>
      have hseen : id ∉ seen := by
        intro hmem
        exact absurd (hway.longer id hmem _ hchain) (lt_irrefl _)
      have hway' : OnTheWay rows n (id :: seen) above := by
        refine ⟨List.nodup_cons.2 ⟨hseen, hway.nodup⟩, ?_, ?_, ?_⟩
        · intro k hk
          rcases List.mem_cons.1 hk with rfl | hk
          · simp [hrow]
          · exact hway.known k hk
        · have hfuel := hway.fuel
          rw [List.length_cons]
          omega
        · intro k hk path' h'
          rcases List.mem_cons.1 hk with rfl | hk
          · rw [← hchain.unique h']
            simp
          · have hlt := hway.longer k hk path' h'
            rw [List.length_append] at hlt
            omega
      obtain ⟨hpath, hremembers'⟩ := ih hway' hremembers
      simp only [hrow, hparent, if_neg hseen, hpath, true_and]
      exact hremembers'.cons fun path' h' => hchain.unique h'

/-- a row on no chain has no row above it that is on one -/
theorem resolve_unchained {n : ℕ} {seen : List ℤ} {paths : Paths} {id : ℤ} (h : ∀ path, ¬ Chain rows id path)
    (hremembers : Remembers rows paths) : Remembers rows (resolve rows n seen paths id).2 := by
  induction n generalizing seen paths id with
  | zero => exact hremembers
  | succ n ih =>
    rw [resolve]
    cases hlookup : paths.lookup id with
    | some found => exact hremembers
    | none =>
      cases hrow : byId rows id with
      | none => exact hremembers
      | some row =>
        dsimp only
        split_ifs
        · exact hremembers
        · cases hparent : row.parent with
          | none => exact absurd (Chain.root hrow hparent) (h _)
          | some parent =>
            have habove : ∀ path, ¬ Chain rows parent path := fun path hpath => h _ (.child hrow hparent hpath)
            exact (ih habove hremembers).cons fun path' h' => absurd h' (h path')

/-- **Paths and chains.** In whatever order the rows come, and whatever cycles others are in. -/
theorem dottedPaths_chain (hkeys : (rows.map GroupRow.id).Nodup) {row : GroupRow} (hrow : row ∈ rows) {path : List String}
    (h : Chain rows row.id path) : (dottedPaths rows).lookup row.id = some path := by
  have main : ∀ (todo : List GroupRow) (paths : Paths), Remembers rows paths →
      Remembers rows (todo.foldl (fun paths row => (resolve rows (rows.length + 1) [] paths row.id).2) paths) := by
    intro todo
    induction todo with
    | nil => exact fun _ h => h
    | cons row todo ih =>
      intro paths hremembers
      apply ih
      by_cases hchain : ∃ path, Chain rows row.id path
      · obtain ⟨path, hpath⟩ := hchain
        have hway : OnTheWay rows (rows.length + 1) [] path :=
          ⟨List.nodup_nil, by simp, by simp, by simp⟩
        exact (resolve_chain hpath hway hremembers).2
      · exact resolve_unchained (not_exists.1 hchain) hremembers
  have hremembers : Remembers rows (dottedPaths rows) := main rows [] fun _ _ _ _ hnone => by cases hnone
  obtain ⟨above, hlookup, -⟩ := dottedPaths_rooted hkeys hrow
  rw [hlookup, hremembers row.id path _ h hlookup]

theorem chain_ne_nil {id : ℤ} {path : List String} (h : Chain rows id path) : path ≠ [] := by
  cases h <;> simp

theorem chain_row {id : ℤ} {path : List String} (h : Chain rows id path) : ∃ row ∈ rows, row.id = id := by
  cases h with
  | root hrow _ => exact ⟨_, byId_mem hrow⟩
  | child hrow _ _ => exact ⟨_, byId_mem hrow⟩

theorem path_of_chain {row : GroupRow} {path : List String} (hkeys : (rows.map GroupRow.id).Nodup) (hrow : row ∈ rows)
    (h : Chain rows row.id path) : (row.view (dottedPaths rows)).path = path :=
  pathOf_eq (dottedPaths_chain hkeys hrow h) (chain_ne_nil h)

/-- a selector's target is the path of the row it points at -/
theorem targetOf_row {row : GroupRow} (hkeys : (rows.map GroupRow.id).Nodup) (hrow : row ∈ rows) :
    targetOf (groupViews rows) row.id = (row.view (dottedPaths rows)).id := by
  unfold targetOf groupViews
  cases h : (rows.map (GroupRow.view (dottedPaths rows))).reverse.find? fun g => g.rowId = row.id with
  | none =>
    have hnone := List.find?_eq_none.1 h (row.view (dottedPaths rows)) (List.mem_reverse.2 (List.mem_map_of_mem hrow))
    exact absurd rfl (of_decide_eq_false (Bool.eq_false_of_not_eq_true hnone))
  | some g =>
    have hid : g.rowId = row.id := by simpa using List.find?_some h
    obtain ⟨row', hrow', rfl⟩ := List.mem_map.1 (List.mem_reverse.1 (List.mem_of_find?_eq_some h))
    rw [List.inj_on_of_nodup_map hkeys hrow' hrow hid]
    rfl

end Chain

end TrinoManagement.ResourceGroups
