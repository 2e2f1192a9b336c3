/-
Health states and the roll-up, `tms/health/states.py`. UNKNOWN ranks worse than GOOD: missing data is not health.

- `worst`: the worst state among the enabled tests; no tests at all is UNKNOWN.
- `worst_eq_good`: the roll-up is GOOD exactly when some test ran and every test said GOOD.
-/
import Mathlib.Tactic

namespace TrinoManagement.Health

inductive State where
  | good | concerning | bad | unknown
deriving DecidableEq, Repr

/-- the stored spelling -/
def State.name : State → String
  | .good => "GOOD"
  | .concerning => "CONCERNING"
  | .bad => "BAD"
  | .unknown => "UNKNOWN"

/-- GOOD < UNKNOWN < CONCERNING < BAD -/
def severity : State → ℕ
  | .good => 0
  | .unknown => 1
  | .concerning => 2
  | .bad => 3

/-- `max(candidates, key=severity)`: the first of the worst -/
def worst : List State → State
  | [] => .unknown
  | first :: rest => rest.foldl (fun m s => if severity m < severity s then s else m) first

/-- BAD and CONCERNING must always carry a remedy -/
def requiresAdvice (state : State) : Bool := state = .bad ∨ state = .concerning

theorem name_eq_good {s : State} : s.name = "GOOD" ↔ s = .good := by cases s <;> decide

theorem severity_worst_aux (l : List State) (m : State) :
    severity m ≤ severity (l.foldl (fun m s => if severity m < severity s then s else m) m) ∧
    ∀ s ∈ l, severity s ≤ severity (l.foldl (fun m s => if severity m < severity s then s else m) m) := by
  induction l generalizing m with
  | nil => simp
  | cons t l ih =>
    simp only [List.foldl_cons, List.mem_cons, forall_eq_or_imp]
    have h := ih (if severity m < severity t then t else m)
    have hm : severity m ≤ severity (if severity m < severity t then t else m) := by split_ifs <;> omega
    have ht : severity t ≤ severity (if severity m < severity t then t else m) := by split_ifs <;> omega
    exact ⟨hm.trans h.1, ht.trans h.1, h.2⟩

/-- no candidate is worse than the roll-up -/
theorem severity_le_worst {l : List State} {s : State} (h : s ∈ l) : severity s ≤ severity (worst l) := by
  cases l with
  | nil => simp at h
  | cons first rest =>
    rcases List.mem_cons.1 h with rfl | h
    · exact (severity_worst_aux rest s).1
    · exact (severity_worst_aux rest first).2 s h

/-- **GOOD means every test said so.** -/
theorem worst_eq_good {l : List State} : worst l = .good ↔ l ≠ [] ∧ ∀ s ∈ l, s = .good := by
  constructor
  · intro h
    refine ⟨fun hl => by simp [hl, worst] at h, fun s hs => ?_⟩
    have hle := severity_le_worst hs
    rw [h] at hle
    cases s <;> simp_all [severity]
  · rintro ⟨hne, hall⟩
    obtain ⟨first, rest, rfl⟩ := List.exists_cons_of_ne_nil hne
    have fold : ∀ l : List State, (∀ s ∈ l, s = .good) →
        l.foldl (fun m s => if severity m < severity s then s else m) State.good = .good := by
      intro l hl
      induction l with
      | nil => rfl
      | cons t l ih =>
        rw [List.foldl_cons, hl t List.mem_cons_self]
        exact ih fun s hs => hl s (List.mem_cons_of_mem _ hs)
    rw [worst, hall first List.mem_cons_self]
    exact fold rest fun s hs => hall s (List.mem_cons_of_mem _ hs)

end TrinoManagement.Health
