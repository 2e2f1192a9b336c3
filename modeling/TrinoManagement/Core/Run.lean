/-
Runs of a labelled transition system given as a step function, and the one induction every safety result below uses.

A system is `step : S → L → S`; a run is a list of labels. `Meets step ok s ls` says that every step of the run is taken
from a state that allows it (`ok`), the form of every environment assumption and of every condition on a run.
- `run_inv`: an invariant that every allowed step preserves holds at the end of every run that meets the condition.
- `meets_append`, `meets_split`, `meets_iff`: a run meets the condition iff its parts do, so a fact about the last step of
  an arbitrary prefix is a fact about every step.
- `Each`: a property of every entry of a history and of what precedes it; `each_snoc` extends it by one entry.
-/
import Mathlib.Tactic

namespace TrinoManagement.Run

variable {S L : Type*} {step : S → L → S} {ok ok' : S → L → Prop} {s : S} {l : L} {ls ls' : List L}

/-- the state after the labels `ls`, taken in order from `s` -/
def run (step : S → L → S) (s : S) (ls : List L) : S := ls.foldl step s

/-- every step of the run is taken from a state that allows it -/
def Meets (step : S → L → S) (ok : S → L → Prop) : S → List L → Prop
  | _, [] => True
  | s, l :: ls => ok s l ∧ Meets step ok (step s l) ls

instance Meets.decidable (step : S → L → S) (ok : S → L → Prop) [∀ s l, Decidable (ok s l)] :
    ∀ s ls, Decidable (Meets step ok s ls)
  | _, [] => isTrue trivial
  | s, l :: ls =>
    have := Meets.decidable step ok (step s l) ls
    inferInstanceAs (Decidable (ok s l ∧ Meets step ok (step s l) ls))

@[simp] theorem run_nil : run step s [] = s := rfl

@[simp] theorem run_cons : run step s (l :: ls) = run step (step s l) ls := rfl

theorem run_append : run step s (ls ++ ls') = run step (run step s ls) ls' := by
  simp [run, List.foldl_append]

theorem run_snoc : run step s (ls ++ [l]) = step (run step s ls) l := by
  simp [run, List.foldl_append]

@[simp] theorem meets_nil : Meets step ok s [] := trivial

@[simp] theorem meets_cons : Meets step ok s (l :: ls) ↔ ok s l ∧ Meets step ok (step s l) ls := Iff.rfl

theorem meets_append : Meets step ok s (ls ++ ls') ↔ Meets step ok s ls ∧ Meets step ok (run step s ls) ls' := by
  induction ls generalizing s with
  | nil => simp
  | cons l ls ih => simp [ih, and_assoc]

theorem Meets.mono (h : Meets step ok s ls) (hok : ∀ s l, ok s l → ok' s l) : Meets step ok' s ls := by
  induction ls generalizing s with
  | nil => trivial
  | cons l ls ih => exact ⟨hok _ _ h.1, ih h.2⟩

theorem Meets.and (h : Meets step ok s ls) (h' : Meets step ok' s ls) : Meets step (fun s l => ok s l ∧ ok' s l) s ls := by
  induction ls generalizing s with
  | nil => trivial
  | cons l ls ih => exact ⟨⟨h.1, h'.1⟩, ih h.2 h'.2⟩

/-- a condition on labels alone -/
theorem meets_of_forall {p : L → Prop} (h : ∀ l ∈ ls, p l) : Meets step (fun _ l => p l) s ls := by
  induction ls generalizing s with
  | nil => trivial
  | cons l ls ih => exact ⟨h l List.mem_cons_self, ih fun l' hl' => h l' (List.mem_cons_of_mem l hl')⟩

/-- a step in the middle of a run that meets the condition is itself allowed, and so is everything before it -/
theorem meets_split (h : Meets step ok s (ls ++ l :: ls')) : Meets step ok s ls ∧ ok (run step s ls) l := by
  rw [meets_append] at h
  exact ⟨h.1, h.2.1⟩

/-- a run meets the condition exactly if every step of it does where it is taken -/
theorem meets_iff : Meets step ok s ls ↔ ∀ before l after, ls = before ++ l :: after → ok (run step s before) l := by
  constructor
  · rintro h before l after rfl
    exact (meets_split h).2
  · intro h
    induction ls generalizing s with
    | nil => trivial
    | cons l ls ih =>
      refine ⟨h [] l ls rfl, ih fun before l' after hls => ?_⟩
      exact h (l :: before) l' after (by rw [hls, List.cons_append])

/-- **Invariant rule.** What every allowed step preserves holds after every run that meets the condition. -/
theorem run_inv (Inv : S → Prop) (hstep : ∀ s l, Inv s → ok s l → Inv (step s l)) (h : Meets step ok s ls) (hs : Inv s) :
    Inv (run step s ls) := by
  induction ls generalizing s with
  | nil => exact hs
  | cons l ls ih => exact ih h.2 (hstep _ _ hs h.1)

/-- an invariant that allowed steps preserve holds wherever the run takes a step -/
theorem Meets.with_inv (Inv : S → Prop) (hstep : ∀ s l, Inv s → ok s l → Inv (step s l)) (h : Meets step ok s ls) (hs : Inv s) :
    Meets step (fun s l => Inv s ∧ ok s l) s ls := by
  induction ls generalizing s with
  | nil => trivial
  | cons l ls ih => exact ⟨⟨hs, h.1⟩, ih h.2 (hstep _ _ hs h.1)⟩

/-! ## Histories -/

variable {P : List L → L → Prop} {h : List L} {x : L}

/-- every entry of a history, together with what precedes it -/
def Each (P : List L → L → Prop) (h : List L) : Prop := ∀ before x after, h = before ++ x :: after → P before x

theorem each_nil : Each P ([] : List L) := by
  intro before x after h
  simp at h

theorem each_snoc : Each P (h ++ [x]) ↔ Each P h ∧ P h x := by
  constructor
  · intro hall
    refine ⟨fun before y after hh => hall before y (after ++ [x]) ?_, hall h x [] rfl⟩
    rw [hh, List.append_assoc, List.cons_append]
  · rintro ⟨hall, hx⟩ before y after hh
    rcases List.eq_nil_or_concat after with rfl | ⟨after', z, rfl⟩
    · obtain ⟨rfl, hxy⟩ := List.append_inj' hh rfl
      obtain rfl := (List.cons.inj hxy).1
      exact hx
    · rw [List.concat_eq_append, ← List.cons_append, ← List.append_assoc] at hh
      exact hall before y after' (List.append_inj' hh rfl).1

end TrinoManagement.Run
