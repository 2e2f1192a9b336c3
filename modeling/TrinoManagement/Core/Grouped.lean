/-
Rows grouped by a key in a dict, in the order in which their keys first appear.

- `upsert`: `setdefault`, and a change of what is there; `group`: one for each row.
- `lookup_group`: what a key holds is the fold of its own rows, in their order; `mem_keys_group`, `nodup_group`: each key that
  occurs is there once.
- `gather`, `flatMap_gather_perm`: each key with its rows, none of which is lost.
- `sum_group`: a number that each row adds to its own group adds up to the same over the groups.
-/
import Mathlib.Tactic
import TrinoManagement.Core.Dict

namespace TrinoManagement.Grouped

variable {κ β ρ : Type} [DecidableEq κ]

/-! ## One entry -/

/-- `d.setdefault(key, fresh)`, changed by `f` -/
def upsert (key : κ) (fresh : β) (f : β → β) : List (κ × β) → List (κ × β)
  | [] => [(key, f fresh)]
  | (k, b) :: rest => if k = key then (k, f b) :: rest else (k, b) :: upsert key fresh f rest

section Upsert

variable {key : κ} {fresh : β} {f : β → β}

theorem lookup_upsert (d : List (κ × β)) (key' : κ) : (upsert key fresh f d).lookup key' =
    if key' = key then some (f ((d.lookup key).getD fresh)) else d.lookup key' := by
  induction d with
  | nil =>
    by_cases h : key' = key
    · simp [upsert, h]
    · simp [upsert, h]
  | cons p rest ih =>
    obtain ⟨k, b⟩ := p
    rw [upsert]
    by_cases hk : k = key
    · subst hk
      by_cases h : key' = k
      · simp [h]
      · simp [List.lookup_cons, h, beq_false_of_ne h]
    · have hkey : (key == k) = false := beq_false_of_ne (Ne.symm hk)
      rw [if_neg hk, List.lookup_cons, ih, List.lookup_cons, List.lookup_cons, hkey]
      by_cases h : key' = k
      · subst h
        simp [hk]
      · simp [beq_false_of_ne h]

theorem keys_upsert (d : List (κ × β)) : (upsert key fresh f d).map Prod.fst =
    if key ∈ d.map Prod.fst then d.map Prod.fst else d.map Prod.fst ++ [key] := by
  induction d with
  | nil => rfl
  | cons p rest ih =>
    obtain ⟨k, b⟩ := p
    rw [upsert]
    by_cases hk : k = key
    · subst hk
      simp
    · rw [if_neg hk, List.map_cons, ih, List.map_cons]
      by_cases hmem : key ∈ rest.map Prod.fst
      · rw [if_pos hmem, if_pos (List.mem_cons_of_mem k hmem)]
      · rw [if_neg hmem, if_neg (by simpa [Ne.symm hk] using hmem), List.cons_append]

end Upsert

/-! ## Groups -/

section Group

variable (key : ρ → κ) (fresh : ρ → β) (add : β → ρ → β)

/-- each row is added to the entry of its key, which the first of them makes -/
def group (rows : List ρ) : List (κ × β) :=
  rows.foldl (fun d r => upsert (key r) (fresh r) (fun b => add b r) d) []

/-- the rows of one key, added to the entry that the first of them makes -/
def folded : List ρ → Option β
  | [] => none
  | r :: rows => some ((r :: rows).foldl add (fresh r))

/-- the rows of one key -/
def own (k : κ) (rows : List ρ) : List ρ := rows.filter fun r => key r = k

variable {key fresh add}

theorem group_snoc (rows : List ρ) (r : ρ) :
    group key fresh add (rows ++ [r]) = upsert (key r) (fresh r) (fun b => add b r) (group key fresh add rows) := by
  rw [group, List.foldl_append]
  rfl

theorem folded_snoc (rows : List ρ) (r : ρ) :
    folded fresh add (rows ++ [r]) = some (add ((folded fresh add rows).getD (fresh r)) r) := by
  cases rows with
  | nil => rfl
  | cons first rows =>
    rw [List.cons_append, folded, ← List.cons_append, List.foldl_append]
    rfl

/-- **What a key holds** is the fold of its own rows. -/
theorem lookup_group (rows : List ρ) (k : κ) :
    (group key fresh add rows).lookup k = folded fresh add (own key k rows) := by
  induction rows using List.reverseRecOn with
  | nil => rfl
  | append_singleton rows r ih =>
    rw [group_snoc, lookup_upsert, own, List.filter_append]
    by_cases h : k = key r
    · subst h
      have hown : [r].filter (fun r' => decide (key r' = key r)) = [r] := by simp
      rw [if_pos rfl, hown, folded_snoc, ih, own]
    · have hown : [r].filter (fun r' => decide (key r' = k)) = [] := by simp [Ne.symm h]
      rw [if_neg h, hown, List.append_nil, ih, own]

theorem mem_keys_group {rows : List ρ} {k : κ} : k ∈ (group key fresh add rows).map Prod.fst ↔ ∃ r ∈ rows, key r = k := by
  induction rows using List.reverseRecOn with
  | nil => simp [group]
  | append_singleton rows r ih =>
    rw [group_snoc, keys_upsert]
    split_ifs with hmem
    · rw [ih]
      constructor
      · intro h
        obtain ⟨r', hr', hk⟩ := h
        exact ⟨r', List.mem_append_left [r] hr', hk⟩
      · intro h
        obtain ⟨r', hr', rfl⟩ := h
        rcases List.mem_append.1 hr' with hr' | hr'
        · exact ⟨r', hr', rfl⟩
        · obtain rfl := List.mem_singleton.1 hr'
          exact ih.1 hmem
    · rw [List.mem_append, List.mem_singleton, ih]
      constructor
      · intro h
        rcases h with ⟨r', hr', hk⟩ | rfl
        · exact ⟨r', List.mem_append_left [r] hr', hk⟩
        · exact ⟨r, List.mem_append_right rows List.mem_cons_self, rfl⟩
      · intro h
        obtain ⟨r', hr', rfl⟩ := h
        rcases List.mem_append.1 hr' with hr' | hr'
        · exact .inl ⟨r', hr', rfl⟩
        · exact .inr (congrArg key (List.mem_singleton.1 hr'))

/-- **Each key is there once.** -/
theorem nodup_group (rows : List ρ) : ((group key fresh add rows).map Prod.fst).Nodup := by
  induction rows using List.reverseRecOn with
  | nil => exact List.nodup_nil
  | append_singleton rows r ih =>
    rw [group_snoc, keys_upsert]
    split_ifs with hmem
    · exact ih
    · exact List.nodup_append.2 ⟨ih, List.nodup_singleton _, fun k hk k' hk' heq =>
        hmem (List.mem_singleton.1 hk' ▸ heq ▸ hk)⟩

theorem mem_group {rows : List ρ} {k : κ} {b : β} :
    (k, b) ∈ group key fresh add rows ↔ folded fresh add (own key k rows) = some b := by
  rw [← lookup_group]
  exact ⟨Assoc.lookup_of_mem (nodup_group rows), Assoc.mem_of_lookup⟩

/-- **What the rows add up to, the groups add up to.** -/
theorem sum_group {size : β → ℕ} {weight : ρ → ℕ} (hfresh : ∀ r, size (fresh r) = 0)
    (hadd : ∀ b r, size (add b r) = size b + weight r) (rows : List ρ) :
    ((group key fresh add rows).map fun p => size p.2).sum = (rows.map weight).sum := by
  have hupsert : ∀ (d : List (κ × β)) (r : ρ),
      ((upsert (key r) (fresh r) (fun b => add b r) d).map fun p => size p.2).sum =
        (d.map fun p => size p.2).sum + weight r := by
    intro d r
    induction d with
    | nil => simp [upsert, hadd, hfresh]
    | cons p rest ih =>
      obtain ⟨k, b⟩ := p
      rw [upsert]
      split_ifs with hk
      · simp only [List.map_cons, List.sum_cons, hadd]
        omega
      · simp only [List.map_cons, List.sum_cons, ih]
        omega
  induction rows using List.reverseRecOn with
  | nil => rfl
  | append_singleton rows r ih => rw [group_snoc, hupsert, ih, List.map_append, List.sum_append, List.map_singleton,
      List.sum_singleton]

end Group

/-! ## The rows themselves -/

section Gather

variable {key : ρ → κ} {rows : List ρ} {k : κ}

/-- each key with its rows -/
def gather (key : ρ → κ) (rows : List ρ) : List (κ × List ρ) := group key (fun _ => []) (fun rs r => rs ++ [r]) rows

theorem mem_gather {rs : List ρ} : (k, rs) ∈ gather key rows ↔ rs ≠ [] ∧ rs = own key k rows := by
  have hfold : ∀ l acc : List ρ, l.foldl (fun rs r => rs ++ [r]) acc = acc ++ l := by
    intro l
    induction l with
    | nil => simp
    | cons r l ih => simp [ih]
  rw [gather, mem_group]
  cases hown : own key k rows with
  | nil =>
    refine iff_of_false ?_ fun h => h.1 h.2
    intro h
    cases h
  | cons r l =>
    rw [folded, hfold, List.nil_append, Option.some_inj]
    constructor
    · rintro rfl
      exact ⟨List.cons_ne_nil r l, rfl⟩
    · intro h
      exact h.2.symm

/-- **No row is lost** when rows are gathered by their keys. -/
theorem flatMap_gather_perm (rows : List ρ) : ((gather key rows).flatMap Prod.snd).Perm rows := by
  have hupsert : ∀ (d : List (κ × List ρ)) (r : ρ),
      ((upsert (key r) [] (fun rs => rs ++ [r]) d).flatMap Prod.snd).Perm (d.flatMap Prod.snd ++ [r]) := by
    intro d r
    induction d with
    | nil => exact .refl _
    | cons p rest ih =>
      obtain ⟨k, rs⟩ := p
      rw [upsert]
      split_ifs with hk
      · simp only [List.flatMap_cons, List.append_assoc]
        exact List.perm_append_comm.append_left rs
      · simp only [List.flatMap_cons, List.append_assoc]
        exact ih.append_left rs
  induction rows using List.reverseRecOn with
  | nil => exact .refl _
  | append_singleton rows r ih =>
    rw [gather, group_snoc]
    exact (hupsert _ r).trans (ih.append_right [r])

end Gather

end TrinoManagement.Grouped
