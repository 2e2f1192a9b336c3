/-
Sliding windows: of a list of times, those that are less than `width` ago.

- `recent_recent`: pruning early and again later keeps what pruning once, later, keeps.
- `length_recent_lt`: the oldest of a sorted list falls out first.
-/
import Mathlib.Tactic

namespace TrinoManagement.Window

variable {T : Type*} [AddCommGroup T] [LinearOrder T] {width now before x t : T} {ts ts' : List T}

/-- the times less than `width` before `now` -/
def recent (width now : T) (ts : List T) : List T := ts.filter fun t => decide (now - t < width)

@[simp] theorem mem_recent : t ∈ recent width now ts ↔ t ∈ ts ∧ now - t < width := by
  simp [recent]

@[simp] theorem recent_nil : recent width now [] = [] := rfl

theorem recent_append : recent width now (ts ++ ts') = recent width now ts ++ recent width now ts' :=
  List.filter_append ..

theorem recent_sublist : (recent width now ts).Sublist ts := List.filter_sublist

variable [IsOrderedAddMonoid T]

/-- what still counts later counted before -/
theorem counts_before (h : before ≤ now) (ht : now - t < width) : before - t < width :=
  lt_of_le_of_lt (sub_le_sub_right h t) ht

/-- **Pruning early and late** keeps what pruning late keeps. -/
theorem recent_recent (h : before ≤ now) : recent width now (recent width before ts) = recent width now ts := by
  rw [recent, recent, recent, List.filter_filter]
  refine List.filter_congr fun t _ => ?_
  by_cases ht : now - t < width
  · simp [ht, counts_before h ht]
  · simp [ht]

theorem length_recent_le (h : before ≤ now) : (recent width now ts).length ≤ (recent width before ts).length := by
  rw [← recent_recent h]
  exact recent_sublist.length_le

/-- a sorted list loses an element as soon as its oldest one is `width` ago -/
theorem length_recent_lt (hsorted : (x :: ts).Pairwise (· ≤ ·)) :
    (recent width now (x :: ts)).length < (x :: ts).length ↔ width ≤ now - x := by
  constructor
  · intro hlt
    by_contra hx
    have hall : recent width now (x :: ts) = x :: ts := by
      refine List.filter_eq_self.2 fun t ht => decide_eq_true ?_
      rcases List.mem_cons.1 ht with rfl | ht
      · exact not_le.1 hx
      · exact lt_of_le_of_lt (sub_le_sub_left ((List.pairwise_cons.1 hsorted).1 t ht) now) (not_le.1 hx)
    rw [hall] at hlt
    exact lt_irrefl _ hlt
  · intro hx
    have hdrop : recent width now (x :: ts) = recent width now ts := by
      rw [recent, List.filter_cons_of_neg (by simpa using hx)]
      rfl
    rw [hdrop]
    exact Nat.lt_succ_of_le recent_sublist.length_le

end TrinoManagement.Window
