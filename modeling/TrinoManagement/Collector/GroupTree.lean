/-
The tree of the workload screen, `build_tree` of `tms/collector/resourcegroups.py`: groups nested by dotted path.

The groups go into a dict by their dotted paths, in the order of their paths. A group whose parent is in the dict hangs below
it, and the others are at the top.
- `tree_perm`: the trees have the groups of the dict, each once.
- `byId_keys`: that is one group of each dotted path.
-/
import Mathlib.Data.List.Lex
import Mathlib.Data.String.Basic
import Mathlib.Tactic
import TrinoManagement.Core.Dict
import TrinoManagement.Core.Dotted
import TrinoManagement.Core.Forest

namespace TrinoManagement.GroupTree

open TrinoManagement.Dotted TrinoManagement.Forest

section BuildTree

variable {α : Type} (path : α → List String)

/-- `group["id"]` -/
def groupId (g : α) : String := ".".intercalate (path g)

/-- `by_id`: of several groups with one dotted path the last one -/
def byId (groups : List α) : Dict α :=
  Dict.ofPairs ((groups.insertionSort fun g g' => path g ≤ path g').map fun g => (groupId path g, g))

/-- the groups of `by_id` -/
def nodes (groups : List α) : List α := (byId path groups).map Prod.snd

/-- `".".join(node["path"][:-1])`, if it is not empty -/
def parentId (g : α) : Option String :=
  let id := ".".intercalate (path g).dropLast
  if id = "" then none else some id

/-- a parent's id is shorter than its child's, so no branch is deeper than the longest id is long -/
def depth (groups : List α) : ℕ := ((nodes path groups).map fun g => (groupId path g).length).foldr max 0

def buildTree (groups : List α) : List (Forest.Tree α) :=
  (((nodes path groups).filter (isTop (nodes path groups) (groupId path) (parentId path))).insertionSort
    fun g g' => groupId path g ≤ groupId path g').map
      (grow (nodes path groups) (groupId path) (parentId path) (depth path groups))

end BuildTree

/-! ## The groups of the dict -/

section Nodes

variable {α : Type} {path : α → List String} {groups : List α} {g : α}

theorem mem_byId {id : String} (h : (id, g) ∈ byId path groups) : g ∈ groups ∧ groupId path g = id := by
  have hlookup := Dict.lookup_of_mem (Dict.nodup_ofPairs _) h
  rw [Dict.lookup_ofPairs] at hlookup
  obtain ⟨g', hg', hpair⟩ := List.mem_map.1 (List.mem_reverse.1 (Assoc.mem_of_lookup hlookup))
  obtain ⟨rfl, rfl⟩ := Prod.mk.inj hpair
  exact ⟨(List.mem_insertionSort _).1 hg', rfl⟩

theorem mem_nodes (h : g ∈ nodes path groups) : g ∈ groups := by
  obtain ⟨⟨id, g'⟩, hmem, rfl⟩ := List.mem_map.1 h
  exact (mem_byId hmem).1

/-- the ids of the groups are the keys of the dict -/
theorem ids_nodes : (nodes path groups).map (groupId path) = (byId path groups).keys := by
  rw [nodes, List.map_map]
  refine List.map_congr_left fun p hp => ?_
  exact (mem_byId hp).2

theorem nodup_ids : ((nodes path groups).map (groupId path)).Nodup := by
  rw [ids_nodes]
  exact Dict.nodup_ofPairs _

/-- **One group of each dotted path.** -/
theorem mem_ids {id : String} : id ∈ (nodes path groups).map (groupId path) ↔ id ∈ groups.map (groupId path) := by
  constructor
  · intro h
    obtain ⟨g, hg, rfl⟩ := List.mem_map.1 h
    exact List.mem_map_of_mem (mem_nodes hg)
  · intro h
    obtain ⟨g, hg, rfl⟩ := List.mem_map.1 h
    rw [ids_nodes]
    by_contra hnot
    have hlookup := Dict.lookup_eq_none.2 hnot
    unfold byId at hlookup
    rw [Dict.lookup_ofPairs, Assoc.lookup_eq_none] at hlookup
    apply hlookup
    have hmem := List.mem_map_of_mem (f := fun g => (groupId path g, g)) ((List.mem_insertionSort (fun g g' => path g ≤ path g')).2 hg)
    exact List.mem_map_of_mem (List.mem_reverse.2 hmem)

/-- with different dotted paths all groups are there -/
theorem nodes_perm (h : (groups.map (groupId path)).Nodup) : (nodes path groups).Perm groups := by
  rw [List.perm_ext_iff_of_nodup (List.Nodup.of_map _ nodup_ids) (List.Nodup.of_map _ h)]
  intro g
  refine ⟨mem_nodes, fun hg => ?_⟩
  obtain ⟨g', hg', hid⟩ := List.mem_map.1 (mem_ids.2 (List.mem_map_of_mem (f := groupId path) hg))
  obtain rfl : g' = g := List.inj_on_of_nodup_map h (mem_nodes hg') hg hid
  exact hg'

/-! ## The trees -/

/-- a parent's id is shorter -/
theorem length_lt_of_parentId {p : String} (h : parentId path g = some p) : p.length < (groupId path g).length := by
  unfold parentId at h
  dsimp only at h
  split_ifs at h with hempty
  obtain rfl := Option.some.inj h
  have hne : (path g).dropLast ≠ [] := by
    intro hnil
    rw [hnil] at hempty
    exact hempty rfl
  have hpath : path g ≠ [] := by
    intro hnil
    rw [hnil] at hne
    exact hne rfl
  have hid : groupId path g = ".".intercalate (path g).dropLast ++ "." ++ dotted [(path g).getLast hpath] := by
    rw [groupId]
    conv_lhs => rw [← List.dropLast_append_getLast hpath]
    exact dotted_append hne (List.cons_ne_nil _ _)
  rw [hid, String.length_append, String.length_append]
  have hone : ".".length = 1 := rfl
  omega

theorem ranked : Ranked (nodes path groups) (groupId path) (parentId path) fun g => (groupId path g).length :=
  fun _ _ _ _ hparent => length_lt_of_parentId hparent

theorem length_le_depth (h : g ∈ nodes path groups) : (groupId path g).length ≤ depth path groups := by
  have hmax : ∀ (l : List ℕ) (n : ℕ), n ∈ l → n ≤ l.foldr max 0 := by
    intro l n hn
    induction l with
    | nil => cases hn
    | cons m l ih =>
      rw [List.foldr_cons]
      rcases List.mem_cons.1 hn with rfl | hn
      · exact le_max_left _ _
      · exact (ih hn).trans (le_max_right _ _)
  exact hmax _ _ (List.mem_map_of_mem (f := fun g => (groupId path g).length) h)

/-- **Each group of the dict is in the trees once.** -/
theorem tree_perm : (valuesAll (buildTree path groups)).Perm (nodes path groups) :=
  values_perm nodup_ids ranked (fun _ => length_le_depth) (List.perm_insertionSort _ _)

theorem edges_tree {e : α × α} (h : e ∈ edgesAll (buildTree path groups)) :
    parentId path e.2 = some (groupId path e.1) := by
  rw [edgesAll_eq, buildTree, List.flatMap_map] at h
  obtain ⟨g, -, hmem⟩ := List.mem_flatMap.1 h
  exact edges_parent hmem

/-- at the top are the groups whose parent is not in the dict -/
theorem mem_roots : g ∈ (buildTree path groups).map Forest.Tree.root ↔
    g ∈ nodes path groups ∧ ∀ p, parentId path g = some p → p ∉ groups.map (groupId path) := by
  rw [buildTree, List.map_map]
  have hroot : Forest.Tree.root ∘ grow (nodes path groups) (groupId path) (parentId path) (depth path groups) = id :=
    funext fun _ => root_grow
  rw [hroot, List.map_id, List.mem_insertionSort, List.mem_filter, isTop_iff]
  exact and_congr_right fun _ => forall₂_congr fun p _ => not_congr mem_ids

end Nodes

end TrinoManagement.GroupTree
