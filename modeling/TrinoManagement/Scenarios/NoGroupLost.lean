/-
No group lost: whether the tree view shows every group once, each below a group of its parent's path where there is one.

`build_tree` promotes a group whose parent is not there "rather than dropped", but its dict by dotted path keeps one group of
each. The store accepts two rows of one path, and then the tree view shows one of them.
- `nested_iff`: the view loses no group iff all dotted paths are different, and no group is below one without a name: an
  empty parent's path is taken for none.
- `second_row_lost`: two groups of one name at the top.
-/
import Mathlib.Tactic
import TrinoManagement.Collector.GroupTree

namespace TrinoManagement.GroupTree

open TrinoManagement.Forest

section NoGroupLost

variable {α : Type} {path : α → List String} {groups : List α} {forest : List (Forest.Tree α)} {g : α}

/-! ## What the view is for -/

/-- the dotted path of the parent, of a group that is not at the top -/
def parentPath (path : α → List String) (g : α) : Option String :=
  if (path g).length ≤ 1 then none else some (".".intercalate (path g).dropLast)

/-- a view of the groups that loses none -/
structure Nested (path : α → List String) (groups : List α) (forest : List (Forest.Tree α)) : Prop where
  /-- every group is in the forest once -/
  once : (valuesAll forest).Perm groups
  /-- a group whose parent's path is there is below a group of that path -/
  below : ∀ g ∈ groups, ∀ p ∈ groups.map (groupId path), parentPath path g = some p →
    ∃ parent, groupId path parent = p ∧ (parent, g) ∈ edgesAll forest
  /-- the others are at the top -/
  top : ∀ g ∈ groups, (∀ p, parentPath path g = some p → p ∉ groups.map (groupId path)) → g ∈ forest.map Forest.Tree.root

/-! ## What `build_tree` makes -/

theorem parentId_of_parentPath {p : String} (h : parentPath path g = some p) :
    parentId path g = if p = "" then none else some p := by
  unfold parentPath at h
  split_ifs at h with hlength
  rw [← Option.some.inj h]
  rfl

theorem parentPath_of_parentId {p : String} (h : parentId path g = some p) : parentPath path g = some p := by
  unfold parentId at h
  dsimp only at h
  split_ifs at h with hempty
  rw [parentPath, if_neg, h]
  intro hlength
  apply hempty
  have hnil : (path g).dropLast = [] := by
    rw [← List.length_eq_zero_iff, List.length_dropLast]
    omega
  rw [hnil]
  rfl

/-- a group of the dict that is not at the top is below a group of its parent's path -/
theorem exists_parent {p : String} (hg : g ∈ nodes path groups) (hparent : parentId path g = some p)
    (hp : p ∈ groups.map (groupId path)) :
    ∃ parent, groupId path parent = p ∧ (parent, g) ∈ edgesAll (buildTree path groups) := by
  rcases mem_valuesAll (tree_perm.mem_iff.2 hg) with hroot | ⟨parent, hedge⟩
  · exact absurd hp ((mem_roots.1 hroot).2 p hparent)
  · have hkey := edges_tree hedge
    rw [hparent] at hkey
    exact ⟨parent, (Option.some.inj hkey).symm, hedge⟩

theorem nodup_of_nested (h : Nested path groups (buildTree path groups)) : (groups.map (groupId path)).Nodup := by
  have hperm : (nodes path groups).Perm groups := tree_perm.symm.trans h.once
  exact (hperm.map (groupId path)).nodup_iff.1 nodup_ids

/-- no group is below one without a name -/
def NoneBelowEmpty (path : α → List String) (groups : List α) : Prop :=
  ∀ g ∈ groups, parentPath path g = some "" → "" ∉ groups.map (groupId path)

theorem noneBelowEmpty_of_nested (h : Nested path groups (buildTree path groups)) : NoneBelowEmpty path groups := by
  intro g hg hparent hempty
  obtain ⟨parent, -, hedge⟩ := h.below g hg "" hempty hparent
  have hkey := edges_tree hedge
  rw [parentId_of_parentPath hparent] at hkey
  cases hkey

/-- **No group lost.** The view shows every group once, below a group of its parent's path if there is one and else at the
top, exactly if the groups' dotted paths are different and none of them is below an empty path. -/
theorem nested_iff (path : α → List String) (groups : List α) :
    Nested path groups (buildTree path groups) ↔ (groups.map (groupId path)).Nodup ∧ NoneBelowEmpty path groups := by
  constructor
  · intro h
    exact ⟨nodup_of_nested h, noneBelowEmpty_of_nested h⟩
  rintro ⟨hnodup, hnone⟩
  have hnodes := nodes_perm hnodup
  constructor
  · exact tree_perm.trans hnodes
  · intro g hg p hp hparent
    apply exists_parent (hnodes.mem_iff.2 hg) _ hp
    rw [parentId_of_parentPath hparent, if_neg]
    rintro rfl
    exact hnone g hg hparent hp
  · intro g hg htop
    refine mem_roots.2 ⟨hnodes.mem_iff.2 hg, fun p hparent => ?_⟩
    exact htop p (parentPath_of_parentId hparent)

end NoGroupLost

/-! ## Two rows of one path -/

/-- two rows at the top with one name, as the store accepts them -/
def twoRows : List (ℕ × List String) := [(1, ["etl"]), (2, ["etl"])]

/-- one of them is not in the view -/
theorem second_row_lost : ¬ Nested Prod.snd twoRows (buildTree Prod.snd twoRows) := by
  intro h
  have hnodup := nodup_of_nested h
  simp [twoRows, groupId] at hnodup

end TrinoManagement.GroupTree
