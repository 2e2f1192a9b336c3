/-
Effectful programs as data: a program performs effects of a signature `E` (the effect `e` answers with an `R e`), may
raise an `ε`, and returns an `α`. One definition of a program then has several meanings: run to completion against a
handler (`run`), interleaved with other programs one effect at a time (`Core.Pool`), or judged by a predicate
transformer (`wp`).

- `run H os p s`: the handler `H` answers each effect from the state and one oracle (what the outside world does at
  that moment); the oracles are taken from `os` in order, `default` once they are used up.
- `exec H p s`: the same against a handler that needs no oracles; `exec_run` makes it a run under some oracles.
- `wp Φ p Q s`: fold of a per-effect predicate transformer `Φ` over the program. `demonic A H` quantifies over every
  oracle in `A`, so `wp (demonic A H) p Q s` bounds every outcome of `run` (`wp_run`). `protocol P` ignores the
  state and checks only the order of effects against a typestate.
- the rules: `wp_bind`, `wp_perform`, `wp_tryCatch`, `wp_mono`, `wp_bind_inv`, and `wp_frame`, which lifts a relation that each
  effect respects to the whole program; `protocol_along` and `protocol_run`, which carry a relation between states and
  typestates through a run of a program that keeps to its protocol; `wp_along`, for runs that meet a condition at every
  effect.
- `run_erase`: what a handler keeps for a proof alone changes no run.
-/
import Mathlib.Tactic

namespace TrinoManagement

/-- a program over the effects `E`, raising `ε`, returning `α` -/
inductive Prog (E : Type) (R : E → Type) (ε α : Type) where
  | ret (a : α)
  | raise (e : ε)
  | act (e : E) (k : R e → Prog E R ε α)

namespace Prog

variable {E : Type} {R : E → Type} {ε α β : Type}

protected def bind : Prog E R ε α → (α → Prog E R ε β) → Prog E R ε β
  | .ret a, f => f a
  | .raise e, _ => .raise e
  | .act e k, f => .act e fun r => (k r).bind f

/-- the handler gets the program's exception; effects performed before the exception stay performed -/
protected def tryCatch : Prog E R ε α → (ε → Prog E R ε α) → Prog E R ε α
  | .ret a, _ => .ret a
  | .raise e, h => h e
  | .act e k, h => .act e fun r => (k r).tryCatch h

instance : Monad (Prog E R ε) where
  pure := .ret
  bind := Prog.bind

instance : MonadExceptOf ε (Prog E R ε) where
  throw := .raise
  tryCatch := Prog.tryCatch

/-- perform one effect and return its answer -/
def perform (e : E) : Prog E R ε (R e) := .act e .ret

/-- nothing is left to do, and no exception was raised -/
def Returned : Prog E R ε α → Prop
  | .ret _ => True
  | .raise _ | .act _ _ => False

instance : DecidablePred (Returned : Prog E R ε α → Prop)
  | .ret _ => isTrue trivial
  | .raise _ | .act _ _ => isFalse id

/-! ## Execution -/

section Run

variable {O S : Type} [Inhabited O]

/-- run to completion; the effects are answered by `H`, each with the next oracle -/
def run (H : O → (e : E) → S → R e × S) : List O → Prog E R ε α → S → Except ε α × S
  | _, .ret a, s => (.ok a, s)
  | _, .raise e, s => (.error e, s)
  | os, .act e k, s => run H os.tail (k (H (os.headD default) e s).1) (H (os.headD default) e s).2

/-- run to completion against a handler that needs no oracle: nothing outside decides an answer -/
def exec {S : Type} (H : (e : E) → S → R e × S) : Prog E R ε α → S → Except ε α × S
  | .ret a, s => (.ok a, s)
  | .raise e, s => (.error e, s)
  | .act e k, s => exec H (k (H e s).1) (H e s).2

end Run

section Exec

variable {S : Type} {H : (e : E) → S → R e × S} {s s' : S} {p q : Prog E R ε α}

@[simp] theorem exec_pure {a : α} : exec H (pure a : Prog E R ε α) s = (.ok a, s) := rfl

@[simp] theorem exec_throw {e : ε} : exec H (throw e : Prog E R ε α) s = (.error e, s) := rfl

@[simp] theorem exec_perform {e : E} : exec H (perform e : Prog E R ε (R e)) s = (.ok (H e s).1, (H e s).2) := rfl

/-- a program that returns hands its result and its state on -/
theorem exec_bind {f : α → Prog E R ε β} {a : α} (h : exec H p s = (.ok a, s')) :
    exec H (p >>= f) s = exec H (f a) s' := by
  change exec H (p.bind f) s = _
  induction p generalizing s with
  | ret b =>
    obtain ⟨ha, rfl⟩ := Prod.mk.inj h
    cases ha
    rfl
  | raise e => cases (Prod.mk.inj h).1
  | act e k ih => exact ih _ h

/-- **Simulation by oracles.** If each answer is one some oracle would give, a whole run is a run under some oracles. -/
theorem exec_run {O S' : Type} [Inhabited O] {H' : O → (e : E) → S' → R e × S'} (f : S → S')
    (hsim : ∀ e s, ∃ o, H' o e (f s) = ((H e s).1, f (H e s).2)) :
    ∃ os, run H' os p (f s) = ((exec H p s).1, f (exec H p s).2) := by
  induction p generalizing s with
  | ret a => exact ⟨[], rfl⟩
  | raise e => exact ⟨[], rfl⟩
  | act e k ih =>
    obtain ⟨o, ho⟩ := hsim e s
    obtain ⟨os, hos⟩ := ih (H e s).1 (s := (H e s).2)
    refine ⟨o :: os, ?_⟩
    simp only [run, List.headD_cons, List.tail_cons, ho]
    exact hos

end Exec

/-! ## Predicate transformers -/

section Wp

variable {σ : Type}

/-- what one effect guarantees: from a postcondition on its answer and the next state to a precondition -/
abbrev Spec (E : Type) (R : E → Type) (σ : Type) := (e : E) → (R e → σ → Prop) → σ → Prop

/-- the specification folded over a program -/
def wp (Φ : Spec E R σ) : Prog E R ε α → (Except ε α → σ → Prop) → σ → Prop
  | .ret a, Q, s => Q (.ok a) s
  | .raise e, Q, s => Q (.error e) s
  | .act e k, Q, s => Φ e (fun r s' => wp Φ (k r) Q s') s

/-- continue with `K` on a result; an exception goes straight to `Q` -/
def onOk (K : α → σ → Prop) (Q : Except ε β → σ → Prop) : Except ε α → σ → Prop
  | .ok a, s => K a s
  | .error e, s => Q (.error e) s

/-- continue with `K` on an exception; a result goes straight to `Q` -/
def onError (K : ε → σ → Prop) (Q : Except ε α → σ → Prop) : Except ε α → σ → Prop
  | .ok a, s => Q (.ok a) s
  | .error e, s => K e s

variable {Φ : Spec E R σ} {Q Q' : Except ε α → σ → Prop} {s : σ} {p : Prog E R ε α}

@[simp] theorem onOk_ok {K : α → σ → Prop} {Q : Except ε β → σ → Prop} {a : α} :
    onOk K Q (.ok a) s = K a s := rfl

@[simp] theorem onOk_error {K : α → σ → Prop} {Q : Except ε β → σ → Prop} {e : ε} :
    onOk K Q (.error e : Except ε α) s = Q (.error e) s := rfl

@[simp] theorem onError_ok {K : ε → σ → Prop} {a : α} : onError K Q (.ok a) s = Q (.ok a) s := rfl

@[simp] theorem onError_error {K : ε → σ → Prop} {e : ε} : onError K Q (.error e) s = K e s := rfl

@[simp] theorem wp_pure {a : α} : wp Φ (pure a : Prog E R ε α) Q s = Q (.ok a) s := rfl

@[simp] theorem wp_throw {e : ε} : wp Φ (throw e : Prog E R ε α) Q s = Q (.error e) s := rfl

@[simp] theorem wp_perform {e : E} {Q : Except ε (R e) → σ → Prop} :
    wp Φ (perform e) Q s = Φ e (fun r s' => Q (.ok r) s') s := rfl

theorem wp_bind {f : α → Prog E R ε β} {Q : Except ε β → σ → Prop} :
    wp Φ (p >>= f) Q s = wp Φ p (onOk (fun a => wp Φ (f a) Q) Q) s := by
  change wp Φ (p.bind f) Q s = _
  induction p generalizing s with
  | ret a => rfl
  | raise e => rfl
  | act e k ih =>
    simp only [Prog.bind, wp]
    congr 1
    funext r s'
    exact ih r

theorem wp_tryCatch {h : ε → Prog E R ε α} :
    wp Φ (tryCatch p h) Q s = wp Φ p (onError (fun e => wp Φ (h e) Q) Q) s := by
  change wp Φ (p.tryCatch h) Q s = _
  induction p generalizing s with
  | ret a => rfl
  | raise e => rfl
  | act e k ih =>
    simp only [Prog.tryCatch, wp]
    congr 1
    funext r s'
    exact ih r

@[simp] theorem wp_ite {c : Prop} [Decidable c] {p q : Prog E R ε α} :
    wp Φ (if c then p else q) Q s = if c then wp Φ p Q s else wp Φ q Q s := by
  split <;> rfl

/-- a specification is monotone when a weaker postcondition asks for less -/
def Spec.Mono (Φ : Spec E R σ) : Prop :=
  ∀ e (K K' : R e → σ → Prop) s, (∀ r s', K r s' → K' r s') → Φ e K s → Φ e K' s

theorem wp_mono (hΦ : Φ.Mono) (hQ : ∀ x s', Q x s' → Q' x s') (h : wp Φ p Q s) : wp Φ p Q' s := by
  induction p generalizing s with
  | ret a => exact hQ _ _ h
  | raise e => exact hQ _ _ h
  | act e k ih => exact hΦ e _ _ s (fun r s' => ih r) h

/-- an invariant through one part of a program, and through the rest from wherever that ends -/
theorem wp_bind_inv {Inv : σ → Prop} {f : α → Prog E R ε β} (hΦ : Φ.Mono) (hp : wp Φ p (fun _ s' => Inv s') s)
    (hf : ∀ a s', Inv s' → wp Φ (f a) (fun _ s'' => Inv s'') s') : wp Φ (p >>= f) (fun _ s' => Inv s') s := by
  rw [wp_bind]
  refine wp_mono hΦ ?_ hp
  intro x s' hs'
  cases x with
  | ok a => exact hf a s' hs'
  | error e => exact hs'

/-- **Frame rule.** A relation that every effect respects, in any context, relates the ends of the whole program. -/
theorem wp_frame {Rel : σ → σ → Prop} (hrefl : ∀ s, Rel s s) (htrans : ∀ a b c, Rel a b → Rel b c → Rel a c)
    (hact : ∀ e (K : R e → σ → Prop) s, (∀ r s', Rel s s' → K r s') → Φ e K s) :
    wp Φ p (fun _ s' => Rel s s') s := by
  have main : ∀ (p : Prog E R ε α) s₀ s, Rel s₀ s → wp Φ p (fun _ s' => Rel s₀ s') s := by
    intro p
    induction p with
    | ret a => exact fun _ _ h => h
    | raise e => exact fun _ _ h => h
    | act e k ih => exact fun s₀ s h => hact e _ s fun r s' hs' => ih r s₀ s' (htrans _ _ _ h hs')
  exact main p s s (hrefl s)

end Wp

/-! ## Results and exceptions apart -/

section Yields

variable {σ : Type} {Φ : Spec E R σ} {X X' : σ → Prop} {K K' : α → σ → Prop} {s : σ} {p q : Prog E R ε α}

/-- a result meets `K`, an exception leaves `X` -/
def Ends (X : σ → Prop) (K : α → σ → Prop) : Except ε α → σ → Prop
  | .ok a, s => K a s
  | .error _, s => X s

/-- the program returns as `K` says, or raises and leaves `X` -/
abbrev Yields (Φ : Spec E R σ) (X : σ → Prop) (p : Prog E R ε α) (K : α → σ → Prop) (s : σ) : Prop := wp Φ p (Ends X K) s

theorem yields_bind {f : α → Prog E R ε β} {K : β → σ → Prop} :
    Yields Φ X (p >>= f) K s ↔ Yields Φ X p (fun a s' => Yields Φ X (f a) K s') s := by
  rw [Yields, wp_bind]
  refine iff_of_eq (congrArg (fun Q => wp Φ p Q s) ?_)
  funext x s'
  cases x <;> rfl

theorem Yields.mono (hΦ : Φ.Mono) (h : Yields Φ X p K s) (hX : ∀ s', X s' → X' s') (hK : ∀ a s', K a s' → K' a s') :
    Yields Φ X' p K' s := by
  refine wp_mono hΦ (fun x s' hx => ?_) h
  cases x with
  | ok a => exact hK a s' hx
  | error e => exact hX s' hx

theorem yields_ite {c : Prop} [Decidable c] (hp : c → Yields Φ X p K s) (hq : ¬c → Yields Φ X q K s) :
    Yields Φ X (if c then p else q) K s := by
  split_ifs with h
  · exact hp h
  · exact hq h

/-- what the handler does with an exception replaces what the body leaves of it -/
theorem yields_tryCatch (hΦ : Φ.Mono) {h : ε → Prog E R ε α} (X' : σ → Prop) (hp : Yields Φ X' p K s)
    (hh : ∀ e s', X' s' → Yields Φ X (h e) K s') : Yields Φ X (tryCatch p h) K s := by
  rw [Yields, wp_tryCatch]
  refine wp_mono hΦ (fun x s' hx => ?_) hp
  cases x with
  | ok a => exact hx
  | error e => exact hh e s' hx

end Yields

/-! ## The two specifications in use -/

section Demonic

variable {O S : Type} {A : O → Prop} {H : O → (e : E) → S → R e × S}

/-- every oracle in `A` may answer -/
def demonic (A : O → Prop) (H : O → (e : E) → S → R e × S) : Spec E R S :=
  fun e K s => ∀ o, A o → K (H o e s).1 (H o e s).2

theorem demonic_mono : (demonic A H).Mono := fun _ _ _ _ hK h o ho => hK _ _ (h o ho)

/-- **Adequacy.** The weakest precondition over the oracles in `A` bounds every run whose oracles are in `A`. -/
theorem wp_run [Inhabited O] {p : Prog E R ε α} {Q : Except ε α → S → Prop} {s : S} {os : List O}
    (hd : A default) (hos : ∀ o ∈ os, A o) (h : wp (demonic A H) p Q s) :
    Q (run H os p s).1 (run H os p s).2 := by
  induction p generalizing s os with
  | ret a => exact h
  | raise e => exact h
  | act e k ih =>
    cases os with
    | nil => exact ih _ hos (h default hd)
    | cons o os => exact ih _ (fun o' ho' => hos o' (List.mem_cons_of_mem o ho')) (h o (hos o List.mem_cons_self))

end Demonic

/-- a typestate for programs: which effects a state permits, and the state after an answer -/
structure Protocol (E : Type) (R : E → Type) (σ : Type) where
  ok : σ → E → Prop
  next : σ → (e : E) → R e → σ

/-- every effect must be permitted; every answer is possible -/
def protocol {σ : Type} (P : Protocol E R σ) : Spec E R σ :=
  fun e K s => P.ok s e ∧ ∀ r, K r (P.next s e r)

theorem protocol_mono {σ : Type} {P : Protocol E R σ} : (protocol P).Mono :=
  fun _ _ _ _ hK h => ⟨h.1, fun r => hK _ _ (h.2 r)⟩

/-- every effect of a run meets a condition on its oracle, itself and the state before it -/
def Along {O S : Type} [Inhabited O] (H : O → (e : E) → S → R e × S) (ok : O → E → S → Prop) :
    List O → Prog E R ε α → S → Prop
  | _, .ret _, _ => True
  | _, .raise _, _ => True
  | os, .act e k, s =>
    ok (os.headD default) e s ∧ Along H ok os.tail (k (H (os.headD default) e s).1) (H (os.headD default) e s).2

instance Along.decidable {O S : Type} [Inhabited O] (H : O → (e : E) → S → R e × S) (ok : O → E → S → Prop)
    [∀ o e s, Decidable (ok o e s)] : ∀ os (p : Prog E R ε α) s, Decidable (Along H ok os p s)
  | _, .ret _, _ => isTrue trivial
  | _, .raise _, _ => isTrue trivial
  | os, .act e k, s =>
    have := Along.decidable H ok os.tail (k (H (os.headD default) e s).1) (H (os.headD default) e s).2
    inferInstanceAs (Decidable (ok (os.headD default) e s ∧ Along H ok os.tail _ _))

/-- every oracle that meets a condition on the effect and the state may answer -/
def assuming {O S : Type} (ok : O → E → S → Prop) (H : O → (e : E) → S → R e × S) : Spec E R S :=
  fun e K s => ∀ o, ok o e s → K (H o e s).1 (H o e s).2

theorem assuming_mono {O S : Type} {ok : O → E → S → Prop} {H : O → (e : E) → S → R e × S} : (assuming ok H).Mono :=
  fun _ _ _ _ hK h o ho => hK _ _ (h o ho)

section Simulation

variable {σ O S : Type} [Inhabited O] {P : Protocol E R σ} {H : O → (e : E) → S → R e × S} {A : O → Prop}
  {ok : O → E → S → Prop} {J : S → σ → Prop} {p : Prog E R ε α} {Q : Except ε α → σ → Prop} {s : S} {g : σ} {os : List O}

theorem along_of_forall (hd : A default) (hos : ∀ o ∈ os, A o) : Along H (fun o _ _ => A o) os p s := by
  induction p generalizing s os with
  | ret a => trivial
  | raise e => trivial
  | act e k ih =>
    have ho : A (os.headD default) := by
      cases os with
      | nil => exact hd
      | cons o os => exact hos o List.mem_cons_self
    exact ⟨ho, ih _ fun o h => hos o (List.mem_of_mem_tail h)⟩

theorem along_mono {ok' : O → E → S → Prop} (h : Along H ok os p s) (hok : ∀ o e s, ok o e s → ok' o e s) :
    Along H ok' os p s := by
  induction p generalizing s os with
  | ret a => trivial
  | raise e => trivial
  | act e k ih => exact ⟨hok _ _ _ h.1, ih _ h.2⟩

/-- **Adequacy** of the weakest precondition under a condition, for every run that meets it. -/
theorem wp_along {Q : Except ε α → S → Prop} (h : Along H ok os p s) (hp : wp (assuming ok H) p Q s) :
    Q (run H os p s).1 (run H os p s).2 := by
  induction p generalizing s os with
  | ret a => exact hp
  | raise e => exact hp
  | act e k ih => exact ih _ h.2 (hp _ h.1)

/-- **Erasure.** A handler that keeps more in its state, and answers all the same, runs a program all the same. -/
theorem run_erase {S' : Type} {H' : O → (e : E) → S' → R e × S'} (f : S' → S)
    (hH : ∀ o e s', (H' o e s').1 = (H o e (f s')).1 ∧ f (H' o e s').2 = (H o e (f s')).2) (s' : S') :
    (run H' os p s').1 = (run H os p (f s')).1 ∧ f (run H' os p s').2 = (run H os p (f s')).2 := by
  induction p generalizing s' os with
  | ret a => exact ⟨rfl, rfl⟩
  | raise e => exact ⟨rfl, rfl⟩
  | act e k ih =>
    obtain ⟨hanswer, hstate⟩ := hH (os.headD default) e s'
    obtain ⟨hresult, hend⟩ := @ih (H' (os.headD default) e s').1 os.tail (H' (os.headD default) e s').2
    rw [hstate] at hresult hend
    rw [run, run, ← hanswer]
    exact ⟨hresult, hend⟩

/-- **Simulation rule.** A relation between states and typestates that every permitted effect carries along, where it
meets the condition, holds at the end of a program that keeps to the protocol, in every run that meets the condition. -/
theorem protocol_along (hstep : ∀ o e s g, ok o e s → J s g → P.ok g e → J (H o e s).2 (P.next g e (H o e s).1))
    (h : Along H ok os p s) (hp : wp (protocol P) p Q g) (hJ : J s g) :
    ∃ g', J (run H os p s).2 g' ∧ Q (run H os p s).1 g' := by
  induction p generalizing s g os with
  | ret a => exact ⟨g, hJ, hp⟩
  | raise e => exact ⟨g, hJ, hp⟩
  | act e k ih => exact ih _ h.2 (hp.2 _) (hstep _ _ _ _ h.1 hJ hp.1)

/-- and where the condition is on the oracles alone -/
theorem protocol_run (hstep : ∀ o e s g, A o → J s g → P.ok g e → J (H o e s).2 (P.next g e (H o e s).1))
    (hd : A default) (hos : ∀ o ∈ os, A o) (hp : wp (protocol P) p Q g) (hJ : J s g) :
    ∃ g', J (run H os p s).2 g' ∧ Q (run H os p s).1 g' :=
  protocol_along hstep (along_of_forall hd hos) hp hJ

end Simulation

end Prog

end TrinoManagement
