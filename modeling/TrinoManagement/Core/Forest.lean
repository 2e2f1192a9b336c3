/-
Trees grown from rows that name their parents by key, each row below its parent and the others at the top.

- `Under`: what is reached from a row by links to parents. `mem_values_grow`: a tree has exactly that.
- `mem_valuesAll`: a value of a forest is at its top or directly below another.
- `values_perm`: if keys are unique and parents come before their children in some order, a forest has every row once.
- `edges_parent`: every row below another names it as its parent.
-/
import Mathlib.Tactic

namespace TrinoManagement.Forest

/-! ## Trees -/

inductive Tree (α : Type) where
  | node (value : α) (children : List (Tree α))

variable {α κ : Type}

def Tree.root : Tree α → α
  | .node value _ => value

mutual

/-- all values of a tree -/
def Tree.values : Tree α → List α
  | .node value children => value :: valuesAll children

/-- all values of a forest -/
def valuesAll : List (Tree α) → List α
  | [] => []
  | t :: ts => t.values ++ valuesAll ts

end

mutual

/-- each value with those directly below it -/
def Tree.edges : Tree α → List (α × α)
  | .node value children => children.map (fun t => (value, t.root)) ++ edgesAll children

def edgesAll : List (Tree α) → List (α × α)
  | [] => []
  | t :: ts => t.edges ++ edgesAll ts

end

theorem valuesAll_eq (ts : List (Tree α)) : valuesAll ts = ts.flatMap Tree.values := by
  induction ts with
  | nil => rfl
  | cons t ts ih => rw [valuesAll, ih, List.flatMap_cons]

theorem edgesAll_eq (ts : List (Tree α)) : edgesAll ts = ts.flatMap Tree.edges := by
  induction ts with
  | nil => rfl
  | cons t ts ih => rw [edgesAll, ih, List.flatMap_cons]

mutual

/-- a value of a tree is its root or directly below another value -/
theorem mem_values {x : α} : ∀ {t : Tree α}, x ∈ t.values → x = t.root ∨ ∃ y, (y, x) ∈ t.edges
  | .node value children, h => by
    rw [Tree.values, List.mem_cons] at h
    rcases h with rfl | h
    · exact .inl rfl
    · rw [Tree.edges]
      rcases mem_valuesAll h with hroot | ⟨y, hy⟩
      · obtain ⟨t, ht, rfl⟩ := List.mem_map.1 hroot
        exact .inr ⟨value, List.mem_append_left _ (List.mem_map_of_mem ht)⟩
      · exact .inr ⟨y, List.mem_append_right _ hy⟩

theorem mem_valuesAll {x : α} : ∀ {ts : List (Tree α)}, x ∈ valuesAll ts → x ∈ ts.map Tree.root ∨ ∃ y, (y, x) ∈ edgesAll ts
  | t :: ts, h => by
    rw [valuesAll, List.mem_append] at h
    rw [List.map_cons, edgesAll]
    rcases h with h | h
    · rcases mem_values h with rfl | ⟨y, hy⟩
      · exact .inl List.mem_cons_self
      · exact .inr ⟨y, List.mem_append_left _ hy⟩
    · rcases mem_valuesAll h with hroot | ⟨y, hy⟩
      · exact .inl (List.mem_cons_of_mem _ hroot)
      · exact .inr ⟨y, List.mem_append_right _ hy⟩

end

/-! ## Links -/

/-- what is reached from a row -/
inductive Under (rows : List α) (key : α → κ) (parent : α → Option κ) (a : α) : α → Prop where
  | self : Under rows key parent a a
  | child {b x : α} (hb : Under rows key parent a b) (hx : x ∈ rows) (hparent : parent x = some (key b)) :
    Under rows key parent a x

/-- parents come before their children -/
def Ranked (rows : List α) (key : α → κ) (parent : α → Option κ) (rank : α → ℕ) : Prop :=
  ∀ a ∈ rows, ∀ b ∈ rows, parent b = some (key a) → rank a < rank b

section Links

variable {rows : List α} {key : α → κ} {parent : α → Option κ} {rank : α → ℕ} {a b c x : α}

theorem Under.mem (ha : a ∈ rows) (h : Under rows key parent a x) : x ∈ rows := by
  cases h with
  | self => exact ha
  | child _ hx _ => exact hx

theorem Under.trans (hab : Under rows key parent a b) (hbc : Under rows key parent b c) : Under rows key parent a c := by
  induction hbc with
  | self => exact hab
  | child _ hx hparent ih => exact .child ih hx hparent

theorem Under.rank_le (hrank : Ranked rows key parent rank) (ha : a ∈ rows) (h : Under rows key parent a x) :
    rank a ≤ rank x := by
  induction h with
  | self => exact le_rfl
  | child hb hx hparent ih => exact ih.trans (hrank _ (hb.mem ha) _ hx hparent).le

/-- rows over one row are over one another -/
theorem Under.linear (hkeys : (rows.map key).Nodup) (ha : a ∈ rows) (hb : b ∈ rows) (hax : Under rows key parent a x)
    (hbx : Under rows key parent b x) : Under rows key parent a b ∨ Under rows key parent b a := by
  induction hax with
  | self => exact .inr hbx
  | @child c x hac hx hparent ih =>
    cases hbx with
    | self => exact .inl (.child hac hx hparent)
    | @child d _ hbd _ hparent' =>
      have hkey : key d = key c := by
        rw [hparent] at hparent'
        exact (Option.some.inj hparent').symm
      obtain rfl : d = c := List.inj_on_of_nodup_map hkeys (hbd.mem hb) (hac.mem ha) hkey
      exact ih hbd

end Links

/-! ## Growing -/

section Grow

variable [DecidableEq κ] (rows : List α) (key : α → κ) (parent : α → Option κ)

/-- the rows that name this key, in their order -/
def childrenOf (k : κ) : List α := rows.filter fun row => parent row = some k

/-- a row whose parent is not there -/
def isTop (row : α) : Bool := !(parent row).any fun p => p ∈ rows.map key

/-- the tree of a row, down to a depth -/
def grow : ℕ → α → Tree α
  | 0, row => .node row []
  | n + 1, row => .node row ((childrenOf rows parent (key row)).map (grow n))

end Grow

section Facts

variable [DecidableEq κ] {rows : List α} {key : α → κ} {parent : α → Option κ} {rank : α → ℕ} {a b c x : α} {n : ℕ}

@[simp] theorem root_grow : (grow rows key parent n a).root = a := by
  cases n <;> rfl

theorem mem_childrenOf {k : κ} : x ∈ childrenOf rows parent k ↔ x ∈ rows ∧ parent x = some k := by
  simp [childrenOf]

theorem isTop_iff : isTop rows key parent a = true ↔ ∀ p, parent a = some p → p ∉ rows.map key := by
  unfold isTop
  cases parent a <;> simp

/-- **A tree has what is under its root**, if it is grown deep enough. -/
theorem mem_values_grow (hrank : Ranked rows key parent rank) (ha : a ∈ rows) (hdeep : ∀ x ∈ rows, rank x ≤ rank a + n) :
    x ∈ (grow rows key parent n a).values ↔ Under rows key parent a x := by
  -- under a row: the row itself, or under one of its children
  have hunder : ∀ a x, Under rows key parent a x ↔ x = a ∨ ∃ c ∈ childrenOf rows parent (key a), Under rows key parent c x := by
    intro a x
    constructor
    · intro h
      induction h with
      | self => exact .inl rfl
      | @child b x hb hx hparent ih =>
        rcases ih with rfl | ⟨c, hc, hcb⟩
        · exact .inr ⟨x, mem_childrenOf.2 ⟨hx, hparent⟩, .self⟩
        · exact .inr ⟨c, hc, .child hcb hx hparent⟩
    · rintro (rfl | ⟨c, hc, hcx⟩)
      · exact .self
      · obtain ⟨hmem, hparent⟩ := mem_childrenOf.1 hc
        exact (Under.child .self hmem hparent).trans hcx
  induction n generalizing a with
  | zero =>
    have hnone : childrenOf rows parent (key a) = [] := by
      rw [List.eq_nil_iff_forall_not_mem]
      intro c hc
      obtain ⟨hmem, hparent⟩ := mem_childrenOf.1 hc
      have hlt := hrank a ha c hmem hparent
      have hle := hdeep c hmem
      omega
    rw [hunder, hnone, grow, Tree.values, valuesAll]
    simp
  | succ n ih =>
    rw [hunder, grow, Tree.values, valuesAll_eq, List.flatMap_map, List.mem_cons, List.mem_flatMap]
    refine or_congr_right ?_
    refine exists_congr fun c => and_congr_right fun hc => ?_
    obtain ⟨hmem, hparent⟩ := mem_childrenOf.1 hc
    apply ih hmem
    intro x hx
    have hlt := hrank a ha c hmem hparent
    have hle := hdeep x hx
    omega

/-- a sibling is not under another -/
theorem not_under_sibling (hkeys : (rows.map key).Nodup) (hrank : Ranked rows key parent rank) (ha : a ∈ rows)
    (hb : b ∈ childrenOf rows parent (key a)) (hc : c ∈ childrenOf rows parent (key a)) (hne : b ≠ c) :
    ¬ Under rows key parent b c := by
  obtain ⟨hbmem, hbparent⟩ := mem_childrenOf.1 hb
  obtain ⟨-, hcparent⟩ := mem_childrenOf.1 hc
  intro h
  cases h with
  | self => exact hne rfl
  | @child d _ hbd _ hparent =>
    have hkey : key d = key a := by
      rw [hcparent] at hparent
      exact (Option.some.inj hparent).symm
    obtain rfl : d = a := List.inj_on_of_nodup_map hkeys (hbd.mem hbmem) ha hkey
    have hle := hbd.rank_le hrank hbmem
    have hlt := hrank d ha b hbmem hbparent
    omega

theorem nodup_values_grow (hkeys : (rows.map key).Nodup) (hrank : Ranked rows key parent rank) (ha : a ∈ rows)
    (hdeep : ∀ x ∈ rows, rank x ≤ rank a + n) : (grow rows key parent n a).values.Nodup := by
  induction n generalizing a with
  | zero => simp [grow, Tree.values, valuesAll]
  | succ n ih =>
    have hchild : ∀ c ∈ childrenOf rows parent (key a), c ∈ rows ∧ rank a < rank c ∧ ∀ x ∈ rows, rank x ≤ rank c + n := by
      intro c hc
      obtain ⟨hmem, hparent⟩ := mem_childrenOf.1 hc
      have hlt := hrank a ha c hmem hparent
      refine ⟨hmem, hlt, fun x hx => ?_⟩
      have hle := hdeep x hx
      omega
    rw [grow, Tree.values, valuesAll_eq, List.nodup_cons, List.flatMap_map]
    constructor
    · intro hmem
      obtain ⟨c, hc, hmem⟩ := List.mem_flatMap.1 hmem
      obtain ⟨hcmem, hlt, hcdeep⟩ := hchild c hc
      have hle := ((mem_values_grow hrank hcmem hcdeep).1 hmem).rank_le hrank hcmem
      omega
    · rw [List.nodup_flatMap]
      refine ⟨fun c hc => ih (hchild c hc).1 (hchild c hc).2.2, ?_⟩
      have hnodup : (childrenOf rows parent (key a)).Nodup := (List.Nodup.of_map key hkeys).filter _
      refine hnodup.imp_of_mem fun {b c} hb hc hne => ?_
      intro x hbx hcx
      have hbx' := (mem_values_grow hrank (hchild b hb).1 (hchild b hb).2.2).1 hbx
      have hcx' := (mem_values_grow hrank (hchild c hc).1 (hchild c hc).2.2).1 hcx
      rcases Under.linear hkeys (hchild b hb).1 (hchild c hc).1 hbx' hcx' with hbc | hcb
      · exact not_under_sibling hkeys hrank ha hb hc hne hbc
      · exact not_under_sibling hkeys hrank ha hc hb hne.symm hcb

/-- every row is under one at the top -/
theorem exists_top (hrank : Ranked rows key parent rank) (hx : x ∈ rows) :
    ∃ a ∈ rows, isTop rows key parent a = true ∧ Under rows key parent a x := by
  induction hn : rank x using Nat.strong_induction_on generalizing x with
  | _ n ih =>
    by_cases htop : isTop rows key parent x = true
    · exact ⟨x, hx, htop, .self⟩
    · rw [isTop_iff] at htop
      push Not at htop
      obtain ⟨p, hp, hmem⟩ := htop
      obtain ⟨b, hb, rfl⟩ := List.mem_map.1 hmem
      obtain ⟨a, ha, hatop, hab⟩ := ih (rank b) (hn ▸ hrank b hb x hx hp) hb rfl
      exact ⟨a, ha, hatop, .child hab hx hp⟩

/-- a row at the top is under itself only -/
theorem eq_of_under_top (ha : a ∈ rows) (hb : isTop rows key parent b = true) (h : Under rows key parent a b) : a = b := by
  cases h with
  | self => rfl
  | child hd _ hparent => exact absurd (List.mem_map_of_mem (hd.mem ha)) (isTop_iff.1 hb _ hparent)

/-- **Every row once**, in the forest of the rows at the top in whatever order. -/
theorem values_perm (hkeys : (rows.map key).Nodup) (hrank : Ranked rows key parent rank) (hdeep : ∀ x ∈ rows, rank x ≤ n)
    {tops : List α} (htops : tops.Perm (rows.filter (isTop rows key parent))) :
    (valuesAll (tops.map (grow rows key parent n))).Perm rows := by
  have hrows : rows.Nodup := List.Nodup.of_map key hkeys
  have hmem : ∀ a, a ∈ tops ↔ a ∈ rows ∧ isTop rows key parent a = true := fun a => by
    rw [htops.mem_iff, List.mem_filter]
  have hdeep' : ∀ a, ∀ x ∈ rows, rank x ≤ rank a + n := fun a x hx => (hdeep x hx).trans (Nat.le_add_left ..)
  rw [valuesAll_eq, List.flatMap_map]
  have hnodup : (tops.flatMap fun a => (grow rows key parent n a).values).Nodup := by
    rw [List.nodup_flatMap]
    refine ⟨fun a ha => nodup_values_grow hkeys hrank ((hmem a).1 ha).1 (hdeep' a), ?_⟩
    have htopsNodup : tops.Nodup := htops.nodup_iff.2 (hrows.filter _)
    refine htopsNodup.imp_of_mem fun {a b} ha hb hne x hax hbx => ?_
    obtain ⟨ha, hatop⟩ := (hmem a).1 ha
    obtain ⟨hb, hbtop⟩ := (hmem b).1 hb
    have hax' := (mem_values_grow hrank ha (hdeep' a)).1 hax
    have hbx' := (mem_values_grow hrank hb (hdeep' b)).1 hbx
    rcases Under.linear hkeys ha hb hax' hbx' with hab | hba
    · exact hne (eq_of_under_top ha hbtop hab)
    · exact hne (eq_of_under_top hb hatop hba).symm
  rw [List.perm_ext_iff_of_nodup hnodup hrows]
  intro x
  rw [List.mem_flatMap]
  constructor
  · rintro ⟨a, ha, hx⟩
    obtain ⟨ha, -⟩ := (hmem a).1 ha
    exact ((mem_values_grow hrank ha (hdeep' a)).1 hx).mem ha
  · intro hx
    obtain ⟨a, ha, hatop, hax⟩ := exists_top hrank hx
    exact ⟨a, (hmem a).2 ⟨ha, hatop⟩, (mem_values_grow hrank ha (hdeep' a)).2 hax⟩

/-- **A row below another names it.** -/
theorem edges_parent {e : α × α} (h : e ∈ (grow rows key parent n a).edges) : parent e.2 = some (key e.1) := by
  induction n generalizing a with
  | zero => simp [grow, Tree.edges, edgesAll] at h
  | succ n ih =>
    rw [grow, Tree.edges, edgesAll_eq, List.mem_append, List.map_map, List.flatMap_map, List.mem_map,
      List.mem_flatMap] at h
    rcases h with ⟨c, hc, rfl⟩ | ⟨c, hc, hmem⟩
    · rw [Function.comp_apply, root_grow]
      exact (mem_childrenOf.1 hc).2
    · exact ih hmem

end Facts

end TrinoManagement.Forest
