/-
What a program does, in order: traces of effectful programs, seen through a view of each effect and its answer.

- `Adds view p Q`: however its effects are answered, the program ends with `Q` of its result and of its trace. The rules
  follow the program: `adds_bind`, `adds_tryCatch`.
- `tracing`: a handler that keeps the trace beside its state. `traced_adds`: `Q` of every run; `traced_erase`: a traced run is a
  run.
- `along_trace`: an account of the state that every effect keeps, read off the trace at the end.
-/
import Mathlib.Tactic
import TrinoManagement.Core.Prog

namespace TrinoManagement.Trace

open TrinoManagement.Prog (perform run run_erase)

variable {E T : Type} {R : E → Type} {ε α β : Type} (view : (e : E) → R e → T)

/-- how the program ends, and its trace -/
def Adds : Prog E R ε α → (Except ε α → List T → Prop) → Prop
  | .ret a, Q => Q (.ok a) []
  | .raise e, Q => Q (.error e) []
  | .act e k, Q => ∀ r, Adds (k r) fun x t => Q x (view e r :: t)

/-! ## Rules -/

section Rules

variable {view} {p : Prog E R ε α} {f : α → Prog E R ε β} {Q Q' : Except ε α → List T → Prop}

theorem adds_pure {a : α} (h : Q (.ok a) []) : Adds view (pure a : Prog E R ε α) Q := h

theorem adds_throw {e : ε} (h : Q (.error e) []) : Adds view (throw e : Prog E R ε α) Q := h

theorem adds_perform {e : E} {Q : Except ε (R e) → List T → Prop} (h : ∀ r, Q (.ok r) [view e r]) :
    Adds view (perform e : Prog E R ε (R e)) Q := h

theorem adds_mono (hp : Adds view p Q) (hQ : ∀ x t, Q x t → Q' x t) : Adds view p Q' := by
  induction p generalizing Q Q' with
  | ret a => exact hQ _ _ hp
  | raise e => exact hQ _ _ hp
  | act e k ih => exact fun r => ih r (hp r) fun x t => hQ x _

/-- one part after the other: their traces are one trace -/
theorem adds_bind {Q : Except ε β → List T → Prop} (Q₁ : Except ε α → List T → Prop) (hp : Adds view p Q₁)
    (herror : ∀ e t, Q₁ (.error e) t → Q (.error e) t)
    (hf : ∀ a t, Q₁ (.ok a) t → Adds view (f a) fun x t' => Q x (t ++ t')) : Adds view (p >>= f) Q := by
  change Adds view (p.bind f) Q
  induction p generalizing Q Q₁ with
  | ret a => exact hf a [] hp
  | raise e => exact herror e [] hp
  | act e k ih => exact fun r => ih r _ (hp r) (fun e' t h => herror e' _ h) fun a t h => hf a _ h

/-- what the handler does with an exception comes after what the body did -/
theorem adds_tryCatch {h : ε → Prog E R ε α} (Q₁ : Except ε α → List T → Prop) (hp : Adds view p Q₁)
    (hok : ∀ a t, Q₁ (.ok a) t → Q (.ok a) t)
    (hh : ∀ e t, Q₁ (.error e) t → Adds view (h e) fun x t' => Q x (t ++ t')) : Adds view (tryCatch p h) Q := by
  change Adds view (p.tryCatch h) Q
  induction p generalizing Q Q₁ with
  | ret a => exact hok a [] hp
  | raise e => exact hh e [] hp
  | act e k ih => exact fun r => ih r _ (hp r) (fun a t h' => hok a _ h') fun e' t h' => hh e' _ h'

end Rules

/-! ## Runs -/

section Runs

variable {O S : Type} [Inhabited O] (H : O → (e : E) → S → R e × S) (os : List O) (p : Prog E R ε α) (s : S)

/-- the same handler, which keeps what was done -/
def tracing {O S : Type} (H : O → (e : E) → S → R e × S) (o : O) (e : E) (s : S × List T) : R e × (S × List T) :=
  ((H o e s.1).1, ((H o e s.1).2, s.2 ++ [view e (H o e s.1).1]))

/-- a run, and what it did in order -/
def traced : Except ε α × (S × List T) := run (tracing view H) os p (s, [])

/-- the trace is of the run -/
theorem traced_erase : (traced view H os p s).1 = (run H os p s).1 ∧ (traced view H os p s).2.1 = (run H os p s).2 :=
  run_erase Prod.fst (fun _ _ _ => ⟨rfl, rfl⟩) (s, [])

variable {view H os p s}

theorem run_tracing {Q : Except ε α → List T → Prop} (h : Adds view p Q) (before : List T) :
    ∃ t, (run (tracing view H) os p (s, before)).2.2 = before ++ t ∧ Q (run (tracing view H) os p (s, before)).1 t := by
  induction p generalizing Q os s before with
  | ret a => exact ⟨[], (List.append_nil before).symm, h⟩
  | raise e => exact ⟨[], (List.append_nil before).symm, h⟩
  | act e k ih =>
    obtain ⟨t, ht, hQ⟩ := ih _ (h (H (os.headD default) e s).1) (before ++ [view e (H (os.headD default) e s).1])
    exact ⟨_, ht.trans (List.append_assoc ..), hQ⟩

/-- **Adequacy.** -/
theorem traced_adds {Q : Except ε α → List T → Prop} (h : Adds view p Q) :
    Q (traced view H os p s).1 (traced view H os p s).2.2 := by
  obtain ⟨t, ht, hQ⟩ : ∃ t, (traced view H os p s).2.2 = [] ++ t ∧ Q (traced view H os p s).1 t := run_tracing h []
  rw [List.nil_append] at ht
  rw [← ht] at hQ
  exact hQ

/-- **An account of the state** that every effect keeps, where the outside meets a condition, is one of the whole run. -/
theorem along_trace {A : O → Prop} {J : S → List T → Prop}
    (hstep : ∀ o e s t, A o → J s t → J (H o e s).2 (t ++ [view e (H o e s).1])) (hd : A default) (hos : ∀ o ∈ os, A o)
    (hJ : J s []) : J (traced view H os p s).2.1 (traced view H os p s).2.2 := by
  suffices main : ∀ before, J s before → J (run (tracing view H) os p (s, before)).2.1
      (run (tracing view H) os p (s, before)).2.2 from main [] hJ
  clear hJ
  induction p generalizing os s with
  | ret a => exact fun _ h => h
  | raise e => exact fun _ h => h
  | act e k ih =>
    intro before h
    have ho : A (os.headD default) := by
      cases os with
      | nil => exact hd
      | cons o os => exact hos o List.mem_cons_self
    exact ih _ (fun o h => hos o (List.mem_of_mem_tail h)) _ (hstep _ _ _ _ ho h)

end Runs

end TrinoManagement.Trace
