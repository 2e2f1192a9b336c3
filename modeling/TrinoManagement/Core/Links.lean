/-
Rows with links to parent rows: what hangs below some of them. Links may form cycles and lead nowhere.

- `Below`: what hangs below the given keys, the keys themselves included. `below`: the same, computed by rounds.
- `mem_below_iff`: as many rounds as there are rows find all of it, so it is closed downwards (`below_closed`).
-/
import Mathlib.Tactic

namespace TrinoManagement.Links

variable {ρ κ : Type} [DecidableEq κ] (key : ρ → κ) (parent : ρ → Option κ) (rows : List ρ)

inductive Below (keys : List κ) : κ → Prop where
  | top {k : κ} (hk : k ∈ keys) : Below keys k
  | under {r : ρ} {p : κ} (hr : r ∈ rows) (hp : parent r = some p) (hbelow : Below keys p) : Below keys (key r)

/-- a row not found yet whose parent is found -/
def fresh (keys : List κ) (r : ρ) : Bool := key r ∉ keys ∧ ∃ p ∈ parent r, p ∈ keys

/-- one round -/
def spread (keys : List κ) : List κ := keys ++ (rows.filter (fresh key parent keys)).map key

def rounds : ℕ → List κ → List κ
  | 0, keys => keys
  | n + 1, keys => rounds n (spread key parent rows keys)

/-- everything below the keys -/
def below (keys : List κ) : List κ := rounds key parent rows rows.length keys

variable {key parent rows}

theorem subset_spread (keys : List κ) : keys ⊆ spread key parent rows keys := by
  intro k hk
  exact List.mem_append_left _ hk

theorem subset_rounds (n : ℕ) (keys : List κ) : keys ⊆ rounds key parent rows n keys := by
  induction n generalizing keys with
  | zero => exact fun _ hk => hk
  | succ n ih => exact fun k hk => ih _ (subset_spread keys hk)

/-- a round finds what is below only -/
theorem below_of_mem_rounds {n : ℕ} {keys keys' : List κ} {k : κ} (hkeys : ∀ k ∈ keys', Below key parent rows keys k)
    (hk : k ∈ rounds key parent rows n keys') : Below key parent rows keys k := by
  induction n generalizing keys' with
  | zero => exact hkeys k hk
  | succ n ih =>
    apply ih _ hk
    intro k' hk'
    rcases List.mem_append.1 hk' with hk' | hk'
    · exact hkeys k' hk'
    · obtain ⟨r, hr, rfl⟩ := List.mem_map.1 hk'
      obtain ⟨hr, hfresh⟩ := List.mem_filter.1 hr
      obtain ⟨-, p, hp, hmem⟩ := of_decide_eq_true hfresh
      exact .under hr hp (hkeys p hmem)

/-- no row hangs below that is not among the keys -/
def Closed (key : ρ → κ) (parent : ρ → Option κ) (rows : List ρ) (keys : List κ) : Prop :=
  ∀ r ∈ rows, ∀ p, parent r = some p → p ∈ keys → key r ∈ keys

theorem spread_of_closed {keys : List κ} (h : Closed key parent rows keys) : spread key parent rows keys = keys := by
  have hnone : rows.filter (fresh key parent keys) = [] := by
    rw [List.filter_eq_nil_iff]
    intro r hr hfresh
    obtain ⟨hnew, p, hp, hmem⟩ := of_decide_eq_true hfresh
    exact hnew (h r hr p hp hmem)
  rw [spread, hnone, List.map_nil, List.append_nil]

theorem rounds_of_closed {keys : List κ} (h : Closed key parent rows keys) (n : ℕ) : rounds key parent rows n keys = keys := by
  induction n with
  | zero => rfl
  | succ n ih => rw [rounds, spread_of_closed h, ih]

/-- a round that finds something leaves fewer rows to find -/
theorem countP_spread_lt {keys : List κ} (h : ¬ Closed key parent rows keys) :
    rows.countP (fun r => key r ∉ spread key parent rows keys) < rows.countP fun r => key r ∉ keys := by
  simp only [Closed, not_forall] at h
  obtain ⟨r, hr, p, hp, hmem, hnew⟩ := h
  have hfound : key r ∈ spread key parent rows keys := by
    apply List.mem_append_right
    exact List.mem_map_of_mem (List.mem_filter.2 ⟨hr, decide_eq_true ⟨hnew, p, hp, hmem⟩⟩)
  rw [List.countP_eq_length_filter, List.countP_eq_length_filter]
  have hsub : (rows.filter fun r => key r ∉ spread key parent rows keys) =
      (rows.filter fun r => key r ∉ keys).filter fun r => key r ∉ spread key parent rows keys := by
    rw [List.filter_filter]
    apply List.filter_congr
    intro r' _
    by_cases hk : key r' ∈ keys
    · have hk' := @subset_spread _ _ _ key parent rows keys _ hk
      simp [hk, hk']
    · simp [hk]
  rw [hsub]
  apply List.length_filter_lt_length_iff_exists.2
  exact ⟨r, List.mem_filter.2 ⟨hr, by simpa using hnew⟩, by simpa using hfound⟩

theorem closed_rounds {n : ℕ} {keys : List κ} (hn : rows.countP (fun r => key r ∉ keys) ≤ n) :
    Closed key parent rows (rounds key parent rows n keys) := by
  induction n generalizing keys with
  | zero =>
    intro r hr p _ _
    have hnone := List.countP_eq_zero.1 (Nat.le_zero.1 hn) r hr
    simpa [rounds] using hnone
  | succ n ih =>
    by_cases hclosed : Closed key parent rows keys
    · rw [rounds_of_closed hclosed]
      exact hclosed
    · have hlt := countP_spread_lt hclosed
      apply ih
      omega

/-- **Closed downwards.** -/
theorem below_closed {keys : List κ} {r : ρ} {p : κ} (hr : r ∈ rows) (hp : parent r = some p)
    (hmem : p ∈ below key parent rows keys) : key r ∈ below key parent rows keys :=
  closed_rounds List.countP_le_length r hr p hp hmem

/-- **All that hangs below, and nothing else.** -/
theorem mem_below_iff {keys : List κ} {k : κ} : k ∈ below key parent rows keys ↔ Below key parent rows keys k := by
  constructor
  · intro hk
    exact below_of_mem_rounds (fun _ => .top) hk
  · intro hk
    induction hk with
    | top hk => exact subset_rounds _ _ hk
    | under hr hp _ ih => exact below_closed hr hp ih

end TrinoManagement.Links
