/-
Debouncing a sequence of readings: a reading displaces the confirmed value once it has been repeated often enough.

The memory is the confirmed value and a candidate with its count; histories are newest first.

- `Holds`: what the memory knows of the history; `holds_run`: it does after every history.
- `confirmed_changes`: the confirmed value changes exactly when the last `max polls 2` readings agree on another one. A
  single reading never suffices, since a new candidate is only written down.
-/
import Mathlib.Tactic

namespace TrinoManagement.Debounce

variable {σ : Type} [DecidableEq σ]

/-- the confirmed value, and the candidate with how often it has been seen in a row -/
structure Memory (σ : Type) where
  confirmed : Option σ
  pending : Option (σ × ℕ)
deriving DecidableEq

def fresh : Memory σ := ⟨none, none⟩

/-- one reading -/
def step (polls : ℕ) (m : Memory σ) (s : σ) : Memory σ :=
  if m.confirmed = some s then ⟨m.confirmed, none⟩
  else match m.pending with
    | none => ⟨m.confirmed, some (s, 1)⟩
    | some (candidate, count) =>
      if candidate ≠ s then ⟨m.confirmed, some (s, 1)⟩
      else if count + 1 < polls then ⟨m.confirmed, some (candidate, count + 1)⟩
      else ⟨some s, none⟩

/-- the memory after a history, newest first -/
def run (polls : ℕ) : List σ → Memory σ
  | [] => fresh
  | s :: history => step polls (run polls history) s

/-- how many of the newest readings are `s` -/
def streak (s : σ) : List σ → ℕ
  | [] => 0
  | t :: history => if t = s then streak s history + 1 else 0

/-- the newest reading completes `polls` readings in a row that agree on a value other than the confirmed one -/
def Completes (polls : ℕ) (confirmed : Option σ) (s : σ) (history : List σ) : Prop :=
  confirmed ≠ some s ∧ List.replicate polls s <+: s :: history

instance (polls : ℕ) (confirmed : Option σ) (s : σ) (history : List σ) : Decidable (Completes polls confirmed s history) := by
  unfold Completes; infer_instance

/-! ## Streaks -/

@[simp] theorem streak_cons_self (s : σ) (history : List σ) : streak s (s :: history) = streak s history + 1 := by
  simp [streak]

theorem streak_cons_of_ne {s t : σ} (h : t ≠ s) (history : List σ) : streak s (t :: history) = 0 := by
  simp [streak, h]

/-- another newest reading ends a streak -/
theorem streak_of_head {s t : σ} {history : List σ} (hhead : history.head? = some t) (h : t ≠ s) : streak s history = 0 := by
  cases history with
  | nil => rfl
  | cons u history =>
    simp only [List.head?_cons, Option.some.injEq] at hhead
    subst hhead
    exact streak_cons_of_ne h history

theorem replicate_prefix_iff {polls : ℕ} {s : σ} {history : List σ} :
    List.replicate polls s <+: history ↔ polls ≤ streak s history := by
  induction history generalizing polls with
  | nil =>
    cases polls with
    | zero => simp
    | succ n => simp [streak, List.replicate_succ]
  | cons t history ih =>
    cases polls with
    | zero => simp
    | succ n =>
      rw [List.replicate_succ, List.cons_prefix_cons, ih]
      by_cases h : t = s
      · subst h
        simp
      · have hs : ¬s = t := fun h' => h h'.symm
        simp [streak_cons_of_ne h, hs]

theorem completes_iff {polls : ℕ} {confirmed : Option σ} {s : σ} {history : List σ} :
    Completes polls confirmed s history ↔ confirmed ≠ some s ∧ polls ≤ streak s history + 1 := by
  unfold Completes
  rw [replicate_prefix_iff, streak_cons_self]

/-! ## What the memory knows -/

/-- without a candidate the newest reading is the confirmed one; a candidate is the newest reading, with its streak -/
def Holds (polls : ℕ) (m : Memory σ) (history : List σ) : Prop :=
  match m.pending with
  | none => m.confirmed = history.head?
  | some (candidate, count) => history.head? = some candidate ∧ m.confirmed ≠ some candidate ∧
      count = streak candidate history ∧ 0 < count ∧ count < max polls 2

theorem holds_fresh (polls : ℕ) : Holds polls (fresh : Memory σ) [] := rfl

/-- a reading that starts a new candidate has a streak of one -/
theorem streak_eq_zero {polls : ℕ} {m : Memory σ} {history : List σ} {s : σ} (h : Holds polls m history)
    (hconfirmed : m.confirmed ≠ some s) (hpending : ∀ candidate count, m.pending = some (candidate, count) → candidate ≠ s) :
    streak s history = 0 := by
  unfold Holds at h
  split at h
  next hnone =>
    rw [h] at hconfirmed
    cases history with
    | nil => rfl
    | cons t history => exact streak_cons_of_ne (by simpa using hconfirmed) history
  next candidate count hsome => exact streak_of_head h.1 (hpending candidate count hsome)

/-- what a reading does: it agrees with the confirmed value, starts a candidate, or continues one that is then long enough
or not -/
theorem step_cases {polls : ℕ} {m : Memory σ} {history : List σ} (h : Holds polls m history) (s : σ) :
    (m.confirmed = some s ∧ step polls m s = ⟨m.confirmed, none⟩) ∨
    (m.confirmed ≠ some s ∧ streak s history = 0 ∧ step polls m s = ⟨m.confirmed, some (s, 1)⟩) ∨
    (m.confirmed ≠ some s ∧ 0 < streak s history ∧ streak s history + 1 < polls ∧
      step polls m s = ⟨m.confirmed, some (s, streak s history + 1)⟩) ∨
    (m.confirmed ≠ some s ∧ 0 < streak s history ∧ polls ≤ streak s history + 1 ∧ step polls m s = ⟨some s, none⟩) := by
  unfold step
  by_cases hconfirmed : m.confirmed = some s
  · exact .inl ⟨hconfirmed, if_pos hconfirmed⟩
  simp only [if_neg hconfirmed]
  cases hp : m.pending with
  | none =>
    refine .inr (.inl ⟨hconfirmed, ?_, rfl⟩)
    apply streak_eq_zero h hconfirmed
    intro candidate count hsome
    rw [hp] at hsome
    cases hsome
  | some pair =>
    obtain ⟨candidate, count⟩ := pair
    by_cases hne : candidate = s
    · subst hne
      simp only [Holds, hp] at h
      obtain ⟨-, hother, rfl, hpos, -⟩ := h
      simp only [ne_eq, not_true_eq_false, if_false]
      by_cases hlt : streak candidate history + 1 < polls
      · exact .inr (.inr (.inl ⟨hother, hpos, hlt, if_pos hlt⟩))
      · exact .inr (.inr (.inr ⟨hother, hpos, not_lt.1 hlt, if_neg hlt⟩))
    · refine .inr (.inl ⟨hconfirmed, ?_, if_pos hne⟩)
      apply streak_eq_zero h hconfirmed
      intro candidate' count' hsome
      rw [hp] at hsome
      cases hsome
      exact hne

theorem holds_step {polls : ℕ} {m : Memory σ} {history : List σ} (h : Holds polls m history) (s : σ) :
    Holds polls (step polls m s) (s :: history) := by
  rcases step_cases h s with ⟨hconfirmed, heq⟩ | ⟨hother, hzero, heq⟩ | ⟨hother, hpos, hlt, heq⟩ | ⟨-, -, -, heq⟩
  · rw [heq]
    exact hconfirmed
  · rw [heq]
    refine ⟨rfl, hother, ?_, by omega, by omega⟩
    rw [streak_cons_self, hzero]
  · rw [heq]
    refine ⟨rfl, hother, ?_, by omega, by omega⟩
    rw [streak_cons_self]
  · rw [heq]
    rfl

theorem holds_run (polls : ℕ) (history : List σ) : Holds polls (run polls history) history := by
  induction history with
  | nil => exact holds_fresh polls
  | cons s history ih => exact holds_step ih s

/-! ## When the confirmed value changes -/

/-- **Two readings at least.** The confirmed value changes exactly when the reading completes `max polls 2` in a row that
agree on another value. -/
theorem confirmed_changes {polls : ℕ} {m : Memory σ} {history : List σ} (h : Holds polls m history) (s : σ) :
    (step polls m s).confirmed ≠ m.confirmed ↔ Completes (max polls 2) m.confirmed s history := by
  rw [completes_iff]
  rcases step_cases h s with ⟨hconfirmed, heq⟩ | ⟨-, hzero, heq⟩ | ⟨-, hpos, hlt, heq⟩ | ⟨hother, hpos, hle, heq⟩
  · simp [heq, hconfirmed]
  · have hshort : ¬max polls 2 ≤ streak s history + 1 := by omega
    simp [heq, hshort]
  · have hshort : ¬max polls 2 ≤ streak s history + 1 := by omega
    simp [heq, hshort]
  · have hlong : max polls 2 ≤ streak s history + 1 := by omega
    simp only [heq, hlong, and_true]
    exact ⟨fun _ => hother, fun h' heq => h' heq.symm⟩

end TrinoManagement.Debounce
