/-
Dotted paths of whatever a table of resource groups holds.

`resolve` goes up from a row to its parents and remembers the paths it finds. The table is Trino's: a parent may be missing,
a row may be its own parent, and rows may be above one another in a circle.

- `Resolves`: a call of `resolve` with the calls below it, as deep as they go. `resolves_resolve`: they end.
- `Visits`: the rows one after another, with what is remembered. `visits_dottedPaths`, `visits_unique`: `dottedPaths` is
  what that comes to.
- `paths_resolved`: every row has a path that ends in its name, and a row below a root the names from there down, in
  whatever order the rows come.
-/
import Mathlib.Tactic
import TrinoManagement.ResourceGroups.Tree

namespace TrinoManagement.ResourceGroups

variable {rows : List GroupRow}

/-! ## Calls without a bound -/

/-- a call of `resolve`, with how deep the calls below it go -/
inductive Resolves (rows : List GroupRow) : ℕ → List ℤ → Paths → ℤ → List String × Paths → Prop where
  | known {seen : List ℤ} {paths : Paths} {id : ℤ} {path : List String} (hlookup : paths.lookup id = some path) :
    Resolves rows 1 seen paths id (path, paths)
  | missing {seen : List ℤ} {paths : Paths} {id : ℤ} (hlookup : paths.lookup id = none) (hrow : byId rows id = none) :
    Resolves rows 1 seen paths id ([], paths)
  | circle {seen : List ℤ} {paths : Paths} {id : ℤ} (hlookup : paths.lookup id = none) (hseen : id ∈ seen) :
    Resolves rows 1 seen paths id ([], paths)
  | root {seen : List ℤ} {paths : Paths} {id : ℤ} {row : GroupRow} (hlookup : paths.lookup id = none)
    (hrow : byId rows id = some row) (hseen : id ∉ seen) (hparent : row.parent = none) :
    Resolves rows 1 seen paths id ([row.name], (id, [row.name]) :: paths)
  | child {n : ℕ} {seen : List ℤ} {paths : Paths} {id parent : ℤ} {row : GroupRow} {above : List String × Paths}
    (hlookup : paths.lookup id = none) (hrow : byId rows id = some row) (hseen : id ∉ seen)
    (hparent : row.parent = some parent) (habove : Resolves rows n (id :: seen) paths parent above) :
    Resolves rows (n + 1) seen paths id (above.1 ++ [row.name], (id, above.1 ++ [row.name]) :: above.2)

/-- the rows one after another, none with calls deeper than `depth` -/
inductive Visits (rows : List GroupRow) (depth : ℕ) : List GroupRow → Paths → Paths → Prop where
  | nil {paths : Paths} : Visits rows depth [] paths paths
  | cons {n : ℕ} {row : GroupRow} {todo : List GroupRow} {paths paths' : Paths} {result : List String × Paths}
    (hrow : Resolves rows n [] paths row.id result) (hdepth : n ≤ depth) (hrest : Visits rows depth todo result.2 paths') :
    Visits rows depth (row :: todo) paths paths'

/-- a bound that is not reached makes no difference -/
theorem resolve_of_resolves {n m : ℕ} {seen : List ℤ} {paths : Paths} {id : ℤ} {result : List String × Paths}
    (h : Resolves rows n seen paths id result) (hm : n ≤ m) : resolve rows m seen paths id = result := by
  induction h generalizing m with
  | known hlookup =>
    obtain ⟨m, rfl⟩ := Nat.exists_eq_add_of_le' hm
    rw [resolve, hlookup]
  | missing hlookup hrow =>
    obtain ⟨m, rfl⟩ := Nat.exists_eq_add_of_le' hm
    rw [resolve, hlookup, hrow]
  | circle hlookup hseen =>
    obtain ⟨m, rfl⟩ := Nat.exists_eq_add_of_le' hm
    rw [resolve, hlookup]
    cases hrow : byId rows _ with
    | none => rfl
    | some row =>
      dsimp only
      rw [if_pos hseen]
  | root hlookup hrow hseen hparent =>
    obtain ⟨m, rfl⟩ := Nat.exists_eq_add_of_le' hm
    rw [resolve, hlookup, hrow]
    dsimp only
    rw [if_neg hseen, hparent]
    rfl
  | child hlookup hrow hseen hparent habove ih =>
    obtain ⟨m, rfl⟩ := Nat.exists_eq_add_of_le' (Nat.one_le_of_lt hm)
    rw [resolve, hlookup, hrow]
    dsimp only
    rw [if_neg hseen, hparent]
    dsimp only
    rw [ih (Nat.le_of_succ_le_succ hm)]

/-- **Every call ends**: each row on the way up is one more that has been seen. -/
theorem resolves_resolve {n : ℕ} {seen : List ℤ} {paths : Paths} {id : ℤ} (hnodup : seen.Nodup)
    (hknown : ∀ k ∈ seen, (byId rows k).isSome = true) (hfuel : n + seen.length = rows.length + 1) :
    ∃ depth ≤ n, Resolves rows depth seen paths id (resolve rows n seen paths id) := by
  induction n generalizing seen id with
  | zero => exact absurd (pos_of_seen hnodup hknown hfuel) (lt_irrefl 0)
  | succ n ih =>
    have hone : 1 ≤ n + 1 := Nat.le_add_left 1 n
    rw [resolve]
    cases hlookup : paths.lookup id with
    | some path => exact ⟨1, hone, .known hlookup⟩
    | none =>
      cases hrow : byId rows id with
      | none => exact ⟨1, hone, .missing hlookup hrow⟩
      | some row =>
        dsimp only
        by_cases hseen : id ∈ seen
        · rw [if_pos hseen]
          exact ⟨1, hone, .circle hlookup hseen⟩
        · rw [if_neg hseen]
          cases hparent : row.parent with
          | none => exact ⟨1, hone, .root hlookup hrow hseen hparent⟩
          | some parent =>
            have hknown' : ∀ k ∈ id :: seen, (byId rows k).isSome = true := by
              intro k hk
              rcases List.mem_cons.1 hk with rfl | hk
              · rw [hrow]
                rfl
              · exact hknown k hk
            have hfuel' : n + (id :: seen).length = rows.length + 1 := by
              rw [List.length_cons]
              omega
            obtain ⟨depth, hdepth, habove⟩ := @ih (id :: seen) parent (List.nodup_cons.2 ⟨hseen, hnodup⟩) hknown' hfuel'
            exact ⟨depth + 1, Nat.succ_le_succ hdepth, .child hlookup hrow hseen hparent habove⟩

/-! ## All rows -/

theorem visits_foldl (todo : List GroupRow) (paths : Paths) : Visits rows (rows.length + 1) todo paths
    (todo.foldl (fun paths row => (resolve rows (rows.length + 1) [] paths row.id).2) paths) := by
  induction todo generalizing paths with
  | nil => exact .nil
  | cons row todo ih =>
    obtain ⟨depth, hdepth, hrow⟩ := @resolves_resolve rows (rows.length + 1) [] paths row.id List.nodup_nil
      (fun k hk => by cases hk) rfl
    exact .cons hrow hdepth (ih _)

/-- no call goes deeper than there are rows, and one -/
theorem visits_dottedPaths (rows : List GroupRow) : Visits rows (rows.length + 1) rows [] (dottedPaths rows) :=
  visits_foldl rows []

theorem visits_unique {depth : ℕ} {todo : List GroupRow} {paths paths' : Paths} (h : Visits rows depth todo paths paths') :
    paths' = todo.foldl (fun paths row => (resolve rows (rows.length + 1) [] paths row.id).2) paths := by
  induction h with
  | nil => rfl
  | @cons n row todo paths paths' result hrow _ _ ih =>
    obtain ⟨depth', -, hrow'⟩ := @resolves_resolve rows (rows.length + 1) [] paths row.id List.nodup_nil
      (fun k hk => by cases hk) rfl
    have hsame : result = resolve rows (rows.length + 1) [] paths row.id :=
      calc result = resolve rows (max n depth') [] paths row.id := (resolve_of_resolves hrow (le_max_left ..)).symm
        _ = resolve rows (rows.length + 1) [] paths row.id := resolve_of_resolves hrow' (le_max_right ..)
    rw [ih, hsame, List.foldl_cons]

/-! ## In any order -/

theorem byId_perm {rows' : List GroupRow} (hkeys : (rows.map GroupRow.id).Nodup) (hperm : rows'.Perm rows) (id : ℤ) :
    byId rows' id = byId rows id := by
  have hkeys' : (rows'.map GroupRow.id).Nodup := (hperm.map _).nodup_iff.2 hkeys
  cases h : byId rows id with
  | some row =>
    obtain ⟨hrow, rfl⟩ := byId_mem h
    exact byId_eq_some hkeys' (hperm.mem_iff.2 hrow)
  | none =>
    cases h' : byId rows' id with
    | none => rfl
    | some row =>
      obtain ⟨hrow, rfl⟩ := byId_mem h'
      rw [byId_eq_some hkeys (hperm.mem_iff.1 hrow)] at h
      cases h

theorem Chain.perm {rows' : List GroupRow} {id : ℤ} {path : List String} (hkeys : (rows.map GroupRow.id).Nodup)
    (hperm : rows'.Perm rows) (h : Chain rows id path) : Chain rows' id path := by
  induction h with
  | root hrow hparent => exact .root ((byId_perm hkeys hperm _).trans hrow) hparent
  | child hrow hparent _ ih => exact .child ((byId_perm hkeys hperm _).trans hrow) hparent ih

/-- **Dotted paths of any table.** However its rows refer to each other, the calls end, and there is one result of them;
every row has a path, which ends in its name; and a row whose parents end at a root has the names from there down to it,
in whatever order the rows are visited. -/
theorem paths_resolved (rows : List GroupRow) (hkeys : (rows.map GroupRow.id).Nodup) :
    Visits rows (rows.length + 1) rows [] (dottedPaths rows) ∧
    (∀ (depth : ℕ) (paths : Paths), Visits rows depth rows [] paths → paths = dottedPaths rows) ∧
    (∀ row ∈ rows, ∃ above, (dottedPaths rows).lookup row.id = some (above ++ [row.name])) ∧
    ∀ row ∈ rows, ∀ path, Chain rows row.id path → ∀ order : List GroupRow, order.Perm rows →
      (dottedPaths order).lookup row.id = some path := by
  refine ⟨visits_dottedPaths rows, fun _ _ h => visits_unique h, ?_, ?_⟩
  · intro row hrow
    obtain ⟨above, hlookup, -⟩ := dottedPaths_rooted hkeys hrow
    exact ⟨above, hlookup⟩
  · intro row hrow path hchain order horder
    exact dottedPaths_chain ((horder.map _).nodup_iff.2 hkeys) (horder.mem_iff.2 hrow) (hchain.perm hkeys horder)

/-! ## A tangled table -/

namespace Tangled

def group (id : ℤ) (name : String) (parent : Option ℤ) : GroupRow :=
  ⟨id, none, name, parent, ⟨none, none, none, none, none, none, none, none, none, none⟩⟩

/-- a root with a group below it, a row that is its own parent, two above one another, and one below nothing -/
def table : List GroupRow :=
  [group 5 "loop" (some 5), group 2 "adhoc" (some 1), group 3 "etl" (some 4), group 1 "global" none, group 4 "nightly" (some 3),
    group 6 "orphan" (some 9)]

theorem chain_adhoc : Chain table 2 ["global", "adhoc"] := by
  have hroot : byId table 1 = some (group 1 "global" none) := by decide
  have hadhoc : byId table 2 = some (group 2 "adhoc" (some 1)) := by decide
  exact .child hadhoc rfl (.root hroot rfl)

end Tangled

/-- "adhoc" has its path whichever end the table is read from, and the others have one, too -/
theorem paths_resolved_tangled :
    (∀ row ∈ Tangled.table, ∃ above, (dottedPaths Tangled.table).lookup row.id = some (above ++ [row.name])) ∧
      (dottedPaths Tangled.table.reverse).lookup 2 = some ["global", "adhoc"] := by
  obtain ⟨-, -, hpaths, hchains⟩ := paths_resolved Tangled.table (by decide)
  exact ⟨hpaths, hchains (Tangled.group 2 "adhoc" (some 1)) (by decide) _ Tangled.chain_adhoc _ (List.reverse_perm _)⟩

end TrinoManagement.ResourceGroups
