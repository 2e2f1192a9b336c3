/-
Walks of a graph of named edges, the names still to open on a stack, each name opened once.

- `left_open`: opening a name takes one step from those that are left, whatever cycles there are.
- `walk_enough`: more steps than are left change nothing.
- `mem_walk_iff`: with enough steps a walk opens what is reached from its start, and nothing else.
-/
import Mathlib.Tactic

namespace TrinoManagement.Walk

variable {κ : Type} [DecidableEq κ] (edges : List (κ × κ))

/-- where the edges of a name lead, in their order -/
def targets (k : κ) : List κ := (edges.filter (·.1 == k)).map Prod.snd

def Edge (k k' : κ) : Prop := (k, k') ∈ edges

/-- the names opened, in order -/
def walk : ℕ → List κ → List κ → List κ
  | 0, _, _ => []
  | _, [], _ => []
  | fuel + 1, k :: stack, seen =>
    if k ∈ seen then walk fuel stack seen else k :: walk fuel (targets edges k ++ stack) (k :: seen)

/-- how many steps are left: the stack, and the edges of names not opened yet -/
def left (stack seen : List κ) : ℕ := stack.length + (edges.filter fun p => p.1 ∉ seen).length

variable {edges} {k k' : κ} {stack seen : List κ} {fuel : ℕ}

theorem mem_targets : k' ∈ targets edges k ↔ Edge edges k k' := by
  simp [targets, Edge]

/-! ## Steps -/

theorem left_open (hk : k ∉ seen) : left edges (targets edges k ++ stack) (k :: seen) + 1 = left edges (k :: stack) seen := by
  have hsplit : (edges.filter fun p => p.1 ∉ seen).length =
      (edges.filter (·.1 == k)).length + (edges.filter fun p => p.1 ∉ k :: seen).length := by
    induction edges with
    | nil => rfl
    | cons p rest ih =>
      by_cases hp : p.1 = k
      · simp [hp, hk] at ih ⊢
        omega
      · by_cases hseen : p.1 ∈ seen
        · simpa [hp, hseen] using ih
        · simp [hp, hseen] at ih ⊢
          omega
  simp only [left, targets, List.length_append, List.length_map, List.length_cons]
  omega

theorem left_skip : left edges stack seen + 1 = left edges (k :: stack) seen := by
  simp only [left, List.length_cons]
  omega

/-- **Enough steps.** -/
theorem walk_enough (h : left edges stack seen ≤ fuel) (more : ℕ) :
    walk edges (fuel + more) stack seen = walk edges fuel stack seen := by
  induction fuel generalizing stack seen with
  | zero =>
    have hnil : stack = [] := List.length_eq_zero_iff.1 (by unfold left at h; omega)
    subst hnil
    cases 0 + more <;> rfl
  | succ fuel ih =>
    rw [Nat.succ_add]
    cases stack with
    | nil => rfl
    | cons k stack =>
      rw [walk, walk]
      split_ifs with hseen
      · exact ih (by have hskip := @left_skip κ _ edges k stack seen; omega)
      · have hopen := @left_open κ _ edges k stack seen hseen
        rw [ih (by omega)]

/-! ## What is reached -/

/-- what a walk opens is reached from its stack -/
theorem reached_of_mem_walk (h : k ∈ walk edges fuel stack seen) : ∃ s ∈ stack, Relation.ReflTransGen (Edge edges) s k := by
  induction fuel generalizing stack seen with
  | zero => cases h
  | succ fuel ih =>
    cases stack with
    | nil => cases h
    | cons top stack =>
      rw [walk] at h
      split_ifs at h
      · obtain ⟨s, hs, hreach⟩ := ih h
        exact ⟨s, List.mem_cons_of_mem _ hs, hreach⟩
      · rcases List.mem_cons.1 h with rfl | h
        · exact ⟨k, List.mem_cons_self, .refl⟩
        · obtain ⟨s, hs, hreach⟩ := ih h
          rcases List.mem_append.1 hs with hs | hs
          · exact ⟨top, List.mem_cons_self, .head (mem_targets.1 hs) hreach⟩
          · exact ⟨s, List.mem_cons_of_mem _ hs, hreach⟩

/-- the targets of what was opened are opened, or on the stack -/
def Frontier (edges : List (κ × κ)) (stack seen : List κ) : Prop :=
  ∀ k ∈ seen, ∀ k', Edge edges k k' → k' ∈ seen ∨ k' ∈ stack

/-- with enough steps nothing is left on the stack, so that what was opened is closed under the edges -/
theorem walk_closed (hleft : left edges stack seen ≤ fuel) (hfrontier : Frontier edges stack seen) :
    (∀ k ∈ stack, k ∈ seen ∨ k ∈ walk edges fuel stack seen) ∧
      ∀ k, k ∈ seen ∨ k ∈ walk edges fuel stack seen → ∀ k', Edge edges k k' → k' ∈ seen ∨ k' ∈ walk edges fuel stack seen := by
  induction fuel generalizing stack seen with
  | zero =>
    have hnil : stack = [] := List.length_eq_zero_iff.1 (by unfold left at hleft; omega)
    subst hnil
    refine ⟨by simp, fun k hk k' hedge => ?_⟩
    exact (hfrontier k (hk.resolve_right (by simp [walk])) k' hedge).imp_right fun hmem => by cases hmem
  | succ fuel ih =>
    cases stack with
    | nil =>
      refine ⟨by simp, fun k hk k' hedge => ?_⟩
      exact (hfrontier k (hk.resolve_right (by simp [walk])) k' hedge).imp_right fun hmem => by cases hmem
    | cons top stack =>
      rw [walk]
      split_ifs with hseen
      · have hskip := @left_skip κ _ edges top stack seen
        have hfrontier' : Frontier edges stack seen := by
          intro k hk k' hedge
          rcases hfrontier k hk k' hedge with hmem | hmem
          · exact .inl hmem
          · rcases List.mem_cons.1 hmem with rfl | hmem
            · exact .inl hseen
            · exact .inr hmem
        obtain ⟨hstack, hclosed⟩ := ih (by omega) hfrontier'
        refine ⟨fun k hk => ?_, hclosed⟩
        rcases List.mem_cons.1 hk with rfl | hk
        · exact .inl hseen
        · exact hstack k hk
      · have hopen := @left_open κ _ edges top stack seen hseen
        have hfrontier' : Frontier edges (targets edges top ++ stack) (top :: seen) := by
          intro k hk k' hedge
          rcases List.mem_cons.1 hk with rfl | hk
          · exact .inr (List.mem_append_left _ (mem_targets.2 hedge))
          · rcases hfrontier k hk k' hedge with hmem | hmem
            · exact .inl (List.mem_cons_of_mem _ hmem)
            · rcases List.mem_cons.1 hmem with rfl | hmem
              · exact .inl List.mem_cons_self
              · exact .inr (List.mem_append_right _ hmem)
        obtain ⟨hstack, hclosed⟩ := ih (by omega) hfrontier'
        -- the top is the first that the walk opens
        have hmove : ∀ k, (k ∈ top :: seen ∨ k ∈ walk edges fuel (targets edges top ++ stack) (top :: seen)) ↔
            (k ∈ seen ∨ k ∈ top :: walk edges fuel (targets edges top ++ stack) (top :: seen)) := by
          intro k
          rw [List.mem_cons, List.mem_cons]
          tauto
        simp only [hmove] at hstack hclosed
        refine ⟨fun k hk => ?_, hclosed⟩
        rcases List.mem_cons.1 hk with rfl | hk
        · exact .inr List.mem_cons_self
        · exact hstack k (List.mem_append_right _ hk)

/-- **What a walk opens** is what is reached from its start. -/
theorem mem_walk_iff {start : κ} (hleft : left edges [start] [] ≤ fuel) :
    k ∈ walk edges fuel [start] [] ↔ Relation.ReflTransGen (Edge edges) start k := by
  constructor
  · intro h
    obtain ⟨s, hs, hreach⟩ := reached_of_mem_walk h
    rwa [List.mem_singleton.1 hs] at hreach
  · intro h
    have hfrontier : Frontier edges [start] [] := fun _ hk => by cases hk
    obtain ⟨hstack, hclosed⟩ := walk_closed hleft hfrontier
    induction h with
    | refl => exact (hstack start List.mem_cons_self).resolve_left List.not_mem_nil
    | tail _ hedge ih => exact (hclosed _ (.inr ih) _ hedge).resolve_left List.not_mem_nil

end TrinoManagement.Walk
