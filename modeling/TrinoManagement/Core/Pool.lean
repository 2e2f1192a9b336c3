/-
Programs run side by side on one shared state, one effect at a time and in any order.

- `Thread`: a task under way, its program so far and the typestate its protocol has reached. `Pool.step` starts a task,
  lets one thread perform its next effect, or lets the outside change the shared state.
- `ending_step`, `conforms_step`: a thread goes on keeping to its protocol whatever the others do, for its typestate is its
  own, and ends as the program alone would.
- `pool_rely`: rely and guarantee, for invariants that rest on what a thread has read earlier; `pool_rely_suits`, where the
  condition also sees the answers; `pool_owed`, where threads owe something that the shared state keeps a ledger of.
- `pool_inv`: its case with nothing to rely on. An invariant of the shared state that every permitted effect preserves,
  where a condition on the thread's typestate and the shared state holds, is there after every interleaving.
- `pool_later`: what each thread knows that was started after a state, and how it ends.
- `beside`: the same system with something kept beside its shared state for a proof alone; `run_beside` erases it.
-/
import Mathlib.Tactic
import TrinoManagement.Core.Prog
import TrinoManagement.Core.Run

namespace TrinoManagement.Pool

open TrinoManagement.Prog TrinoManagement.Run

variable {T E O L S σ ε α : Type} {R : E → Type}

/-- tasks, what they run and under which protocol, who answers their effects, and what else changes the state -/
structure System (T E : Type) (R : E → Type) (ε α O L S σ : Type) where
  program : T → Prog E R ε α
  protocol : T → Protocol E R σ
  fresh : σ
  handle : O → (e : E) → S → R e × S
  spawned : T → S → S
  outside : L → S → S

/-- a task under way -/
structure Thread (T E : Type) (R : E → Type) (ε α σ : Type) where
  task : T
  prog : Prog E R ε α
  typestate : σ

/-- the shared state and the threads, in the order they were started -/
structure State (T E : Type) (R : E → Type) (ε α S σ : Type) where
  shared : S
  threads : List (Thread T E R ε α σ)

inductive Move (T O L : Type) where
  | spawn (task : T)
  /-- the thread at `i` performs its next effect; one that has ended does nothing -/
  | act (i : ℕ) (o : O)
  | outside (l : L)

variable (sys : System T E R ε α O L S σ)

def step (p : State T E R ε α S σ) : Move T O L → State T E R ε α S σ
  | .spawn task => ⟨sys.spawned task p.shared, p.threads ++ [⟨task, sys.program task, sys.fresh⟩]⟩
  | .act i o =>
    match p.threads[i]? with
    | some ⟨task, .act e k, g⟩ =>
      let r := sys.handle o e p.shared
      ⟨r.2, p.threads.set i ⟨task, k r.1, (sys.protocol task).next g e r.1⟩⟩
    | _ => p
  | .outside l => { p with shared := sys.outside l p.shared }

/-- the condition `ok` on an effect about to be performed -/
def Fits (ok : T → S → σ → E → Prop) (p : State T E R ε α S σ) : Move T O L → Prop
  | .act i _ =>
    match p.threads[i]? with
    | some ⟨task, .act e _, g⟩ => ok task p.shared g e
    | _ => True
  | _ => True

instance (ok : T → S → σ → E → Prop) [∀ t s g e, Decidable (ok t s g e)] (p : State T E R ε α S σ) (m : Move T O L) :
    Decidable (Fits ok p m) := by
  unfold Fits
  split
  · split <;> infer_instance
  · infer_instance

/-- a condition that sees what the effect will be answered with, too -/
def Suits (ok : T → S → σ → O → E → Prop) (p : State T E R ε α S σ) : Move T O L → Prop
  | .act i o =>
    match p.threads[i]? with
    | some ⟨task, .act e _, g⟩ => ok task p.shared g o e
    | _ => True
  | _ => True

instance (ok : T → S → σ → O → E → Prop) [∀ t s g o e, Decidable (ok t s g o e)] (p : State T E R ε α S σ)
    (m : Move T O L) : Decidable (Suits ok p m) := by
  unfold Suits
  split
  · split <;> infer_instance
  · infer_instance

/-- every thread keeps to its protocol from here on -/
def Conforms (threads : List (Thread T E R ε α σ)) : Prop :=
  ∀ th ∈ threads, wp (Prog.protocol (sys.protocol th.task)) th.prog (fun _ _ => True) th.typestate

/-- every thread keeps to its protocol from here on, and ends as `Q` says -/
def Ending (Q : Except ε α → σ → Prop) (threads : List (Thread T E R ε α σ)) : Prop :=
  ∀ th ∈ threads, wp (Prog.protocol (sys.protocol th.task)) th.prog Q th.typestate

variable {sys} {p : State T E R ε α S σ}

theorem ending_step {Q : Except ε α → σ → Prop}
    (hprog : ∀ t, wp (Prog.protocol (sys.protocol t)) (sys.program t) Q sys.fresh) (h : Ending sys Q p.threads)
    (m : Move T O L) : Ending sys Q (step sys p m).threads := by
  cases m with
  | spawn task =>
    intro th hth
    rcases List.mem_append.1 hth with hth | hth
    · exact h th hth
    · obtain rfl := List.mem_singleton.1 hth
      exact hprog task
  | act i o =>
    simp only [step]
    split
    · rename_i task e k g hi
      intro th hth
      rcases List.mem_or_eq_of_mem_set hth with hth | rfl
      · exact h th hth
      · exact (h _ (List.mem_of_getElem? hi)).2 _
    · exact h
  | outside l => exact h

theorem conforms_step (hprog : ∀ t, wp (Prog.protocol (sys.protocol t)) (sys.program t) (fun _ _ => True) sys.fresh)
    (h : Conforms sys p.threads) (m : Move T O L) : Conforms sys (step sys p m).threads := ending_step hprog h m

/-- what holds of every thread, of its task and its typestate together with the shared state -/
def Each (J : T → S → σ → Prop) (p : State T E R ε α S σ) : Prop := ∀ th ∈ p.threads, J th.task p.shared th.typestate

/-! ## What the threads owe -/

section Owed

variable {D M : Type} [AddCommMonoid M]

/-- exchanging one element of a list exchanges one summand -/
theorem sum_map_set {A : Type} {f : A → M} {l : List A} {i : ℕ} {x : A} (h : l[i]? = some x) (y : A) :
    ((l.set i y).map f).sum + f x = (l.map f).sum + f y := by
  induction l generalizing i with
  | nil => cases h
  | cons z rest ih =>
    cases i with
    | zero =>
      obtain rfl := Option.some.inj h
      simp only [List.set_cons_zero, List.map_cons, List.sum_cons]
      rw [add_right_comm, add_comm (f y), add_right_comm, add_right_comm]
    | succ j =>
      have hrest := @ih j h
      simp only [List.set_cons_succ, List.map_cons, List.sum_cons, add_assoc, hrest]

/-- what all threads owe together, where a typestate tells what its thread owes -/
def owed (debt : σ → Multiset D) (threads : List (Thread T E R ε α σ)) : Multiset D :=
  (threads.map fun th => debt th.typestate).sum

theorem owed_eq_zero {debt : σ → Multiset D} {threads : List (Thread T E R ε α σ)}
    (h : ∀ th ∈ threads, debt th.typestate = 0) : owed debt threads = 0 := by
  refine List.sum_eq_zero ?_
  intro d hd
  obtain ⟨th, hth, rfl⟩ := List.mem_map.1 hd
  exact h th hth

end Owed

/-! ## Invariants of every interleaving -/

variable (sys) in
/-- **Rely, guarantee and debts.** Every effect, every start and everything outside guarantees `G`; what a thread knows
(`J`) is stable under `G`; and the ledger in the shared state moves with what the threads owe. Then an invariant that each
permitted effect preserves, given what its thread knows and the condition, holds after every interleaving whose effects
meet the condition, and the ledger is what the threads owe. -/
theorem pool_owed {D : Type} {ok : T → S → σ → O → E → Prop} (I : S → Prop) (J : T → S → σ → Prop) (G : S → S → Prop)
    (debt : σ → Multiset D) (ledger : S → Multiset D)
    (hprog : ∀ t, wp (Prog.protocol (sys.protocol t)) (sys.program t) (fun _ _ => True) sys.fresh)
    (hstable : ∀ t s s' g, G s s' → J t s g → J t s' g)
    (hspawn : ∀ t s, I s → G s (sys.spawned t s) ∧ I (sys.spawned t s) ∧ J t (sys.spawned t s) sys.fresh ∧
      ledger (sys.spawned t s) = ledger s + debt sys.fresh)
    (houtside : ∀ l s, I s → G s (sys.outside l s) ∧ I (sys.outside l s) ∧ ledger (sys.outside l s) = ledger s)
    (hact : ∀ t o e s g, I s → J t s g → (sys.protocol t).ok g e → ok t s g o e →
      G s (sys.handle o e s).2 ∧ I (sys.handle o e s).2 ∧
        J t (sys.handle o e s).2 ((sys.protocol t).next g e (sys.handle o e s).1) ∧
        ledger (sys.handle o e s).2 + debt g = ledger s + debt ((sys.protocol t).next g e (sys.handle o e s).1))
    {moves : List (Move T O L)} (h : Meets (step sys) (Suits ok) p moves) (hp : Conforms sys p.threads) (hJ : Each J p)
    (hI : I p.shared) (hledger : ledger p.shared = owed debt p.threads) :
    I (run (step sys) p moves).shared ∧
      ledger (run (step sys) p moves).shared = owed debt (run (step sys) p moves).threads := by
  refine (run_inv (fun p => Conforms sys p.threads ∧ Each J p ∧ I p.shared ∧ ledger p.shared = owed debt p.threads)
    (fun p m hp hok => ?_) h ⟨hp, hJ, hI, hledger⟩).2.2
  obtain ⟨hconf, heach, hinv, hledger⟩ := hp
  refine ⟨conforms_step hprog hconf m, ?_⟩
  cases m with
  | spawn task =>
    obtain ⟨hG, hI', hfresh, hnew⟩ := hspawn task _ hinv
    refine ⟨fun th hth => ?_, hI', ?_⟩
    · rcases List.mem_append.1 hth with hth | hth
      · exact hstable _ _ _ _ hG (heach th hth)
      · obtain rfl := List.mem_singleton.1 hth
        exact hfresh
    · change ledger (sys.spawned task p.shared) = owed debt (p.threads ++ [_])
      rw [hnew, hledger, owed, owed, List.map_append, List.sum_append, List.map_singleton, List.sum_singleton]
  | act i o =>
    simp only [Suits] at hok
    simp only [step]
    split
    · rename_i task e k g hi
      rw [hi] at hok
      have hmem := List.mem_of_getElem? hi
      obtain ⟨hG, hI', hown, hmoved⟩ := hact task o e _ g hinv (heach _ hmem) (hconf _ hmem).1 hok
      refine ⟨fun th hth => ?_, hI', ?_⟩
      · rcases List.mem_or_eq_of_mem_set hth with hth | rfl
        · exact hstable _ _ _ _ hG (heach th hth)
        · exact hown
      · rw [hledger] at hmoved
        have hset := sum_map_set (f := fun th : Thread T E R ε α σ => debt th.typestate) hi
          ⟨task, k (sys.handle o e p.shared).1, (sys.protocol task).next g e (sys.handle o e p.shared).1⟩
        exact add_right_cancel (hmoved.trans hset.symm)
    · exact ⟨heach, hinv, hledger⟩
  | outside l =>
    obtain ⟨hG, hI', hsame⟩ := houtside l _ hinv
    exact ⟨fun th hth => hstable _ _ _ _ hG (heach th hth), hI', hsame.trans hledger⟩

variable (sys) in
/-- **Rely and guarantee**, where nothing is owed. -/
theorem pool_rely_suits {ok : T → S → σ → O → E → Prop} (I : S → Prop) (J : T → S → σ → Prop) (G : S → S → Prop)
    (hprog : ∀ t, wp (Prog.protocol (sys.protocol t)) (sys.program t) (fun _ _ => True) sys.fresh)
    (hstable : ∀ t s s' g, G s s' → J t s g → J t s' g)
    (hspawn : ∀ t s, I s → G s (sys.spawned t s) ∧ I (sys.spawned t s) ∧ J t (sys.spawned t s) sys.fresh)
    (houtside : ∀ l s, I s → G s (sys.outside l s) ∧ I (sys.outside l s))
    (hact : ∀ t o e s g, I s → J t s g → (sys.protocol t).ok g e → ok t s g o e →
      G s (sys.handle o e s).2 ∧ I (sys.handle o e s).2 ∧
        J t (sys.handle o e s).2 ((sys.protocol t).next g e (sys.handle o e s).1))
    {moves : List (Move T O L)} (h : Meets (step sys) (Suits ok) p moves) (hp : Conforms sys p.threads) (hJ : Each J p)
    (hI : I p.shared) : I (run (step sys) p moves).shared := by
  have hnothing : owed (fun _ : σ => (0 : Multiset Unit)) p.threads = 0 := owed_eq_zero fun _ _ => rfl
  refine (pool_owed sys I J G (fun _ => (0 : Multiset Unit)) (fun _ => 0) hprog hstable ?_ ?_ ?_ h hp hJ hI hnothing.symm).1
  · intro t s hs
    obtain ⟨hG, hI', hfresh⟩ := hspawn t s hs
    exact ⟨hG, hI', hfresh, rfl⟩
  · intro l s hs
    obtain ⟨hG, hI'⟩ := houtside l s hs
    exact ⟨hG, hI', rfl⟩
  · intro t o e s g hs hknow hpermitted hmeets
    obtain ⟨hG, hI', hown⟩ := hact t o e s g hs hknow hpermitted hmeets
    exact ⟨hG, hI', hown, rfl⟩

variable (sys) in
/-- and with a condition that does not look at the answers -/
theorem pool_rely {ok : T → S → σ → E → Prop} (I : S → Prop) (J : T → S → σ → Prop) (G : S → S → Prop)
    (hprog : ∀ t, wp (Prog.protocol (sys.protocol t)) (sys.program t) (fun _ _ => True) sys.fresh)
    (hstable : ∀ t s s' g, G s s' → J t s g → J t s' g)
    (hspawn : ∀ t s, I s → G s (sys.spawned t s) ∧ I (sys.spawned t s) ∧ J t (sys.spawned t s) sys.fresh)
    (houtside : ∀ l s, I s → G s (sys.outside l s) ∧ I (sys.outside l s))
    (hact : ∀ t o e s g, I s → J t s g → (sys.protocol t).ok g e → ok t s g e →
      G s (sys.handle o e s).2 ∧ I (sys.handle o e s).2 ∧
        J t (sys.handle o e s).2 ((sys.protocol t).next g e (sys.handle o e s).1))
    {moves : List (Move T O L)} (h : Meets (step sys) (Fits ok) p moves) (hp : Conforms sys p.threads) (hJ : Each J p)
    (hI : I p.shared) : I (run (step sys) p moves).shared := by
  have hsuits : Meets (step sys) (Suits fun t s g _ e => ok t s g e) p moves := by
    refine h.mono ?_
    intro q m hm
    cases m with
    | spawn task => trivial
    | act i o => exact hm
    | outside l => trivial
  exact pool_rely_suits sys I J G hprog hstable hspawn houtside hact hsuits hp hJ hI

variable (sys) in
/-- **Interleaving rule.** What every permitted effect that meets the condition preserves holds after every interleaving
whose effects meet it. -/
theorem pool_inv {ok : T → S → σ → E → Prop} (I : S → Prop)
    (hprog : ∀ t, wp (Prog.protocol (sys.protocol t)) (sys.program t) (fun _ _ => True) sys.fresh)
    (hspawn : ∀ t s, I s → I (sys.spawned t s)) (houtside : ∀ l s, I s → I (sys.outside l s))
    (hact : ∀ t o e s g, I s → (sys.protocol t).ok g e → ok t s g e → I (sys.handle o e s).2)
    {moves : List (Move T O L)} (h : Meets (step sys) (Fits ok) p moves) (hp : Conforms sys p.threads) (hI : I p.shared) :
    I (run (step sys) p moves).shared :=
  pool_rely sys I (fun _ _ _ => True) (fun _ _ => True) hprog (fun _ _ _ _ _ _ => trivial)
    (fun t s hs => ⟨trivial, hspawn t s hs, trivial⟩) (fun l s hs => ⟨trivial, houtside l s hs⟩)
    (fun t o e s g hs _ hp hok => ⟨trivial, hact t o e s g hs hp hok, trivial⟩) h hp (fun _ _ => trivial) hI

/-! ## Threads started from here on -/

variable (sys) in
/-- **What later threads know.** Every change of the shared state is one that `G` bounds, and what a thread knows (`J`) is stable
under `G`. Then each thread started after a state that meets `I` knows it, and ends as `Q` says of its task. -/
theorem pool_later (I : S → Prop) (J : T → S → σ → Prop) (G : S → S → Prop) (Q : T → Except ε α → σ → Prop)
    (hprog : ∀ t, wp (Prog.protocol (sys.protocol t)) (sys.program t) (Q t) sys.fresh)
    (hhandle : ∀ o e s, G s (sys.handle o e s).2) (hspawn : ∀ t s, G s (sys.spawned t s))
    (houtside : ∀ l s, G s (sys.outside l s)) (hinv : ∀ s s', G s s' → I s → I s')
    (hstable : ∀ t s s' g, G s s' → J t s g → J t s' g) (hfresh : ∀ t s, I s → J t s sys.fresh)
    (hown : ∀ t o e s g, I s → J t s g → (sys.protocol t).ok g e →
      J t (sys.handle o e s).2 ((sys.protocol t).next g e (sys.handle o e s).1))
    (hp : I p.shared) (moves : List (Move T O L)) :
    ∀ th ∈ (run (step sys) p moves).threads.drop p.threads.length, J th.task (run (step sys) p moves).shared th.typestate ∧
      wp (Prog.protocol (sys.protocol th.task)) th.prog (Q th.task) th.typestate := by
  refine (run_inv (fun q : State T E R ε α S σ => I q.shared ∧ p.threads.length ≤ q.threads.length ∧
    ∀ th ∈ q.threads.drop p.threads.length, J th.task q.shared th.typestate ∧
      wp (Prog.protocol (sys.protocol th.task)) th.prog (Q th.task) th.typestate)
    (fun q m hq _ => ?_) (meets_of_forall (fun _ _ => trivial)) ⟨hp, le_rfl, fun th hth => ?_⟩).2.2
  · obtain ⟨hshared, hlength, hthreads⟩ := hq
    cases m with
    | spawn task =>
      refine ⟨hinv _ _ (hspawn task _) hshared, hlength.trans (List.sublist_append_left ..).length_le, ?_⟩
      intro th hth
      simp only [step, List.drop_append_of_le_length hlength] at hth
      rcases List.mem_append.1 hth with hth | hth
      · exact ⟨hstable _ _ _ _ (hspawn task _) (hthreads th hth).1, (hthreads th hth).2⟩
      · obtain rfl := List.mem_singleton.1 hth
        exact ⟨hfresh _ _ (hinv _ _ (hspawn task _) hshared), hprog task⟩
    | outside l =>
      exact ⟨hinv _ _ (houtside l _) hshared, hlength, fun th hth =>
        ⟨hstable _ _ _ _ (houtside l _) (hthreads th hth).1, (hthreads th hth).2⟩⟩
    | act i o =>
      simp only [step]
      split
      · rename_i task e k g hi
        refine ⟨hinv _ _ (hhandle o e _) hshared, by rwa [List.length_set], ?_⟩
        have hold : ∀ th ∈ q.threads.drop p.threads.length, J th.task (sys.handle o e q.shared).2 th.typestate ∧
            wp (Prog.protocol (sys.protocol th.task)) th.prog (Q th.task) th.typestate :=
          fun th hth => ⟨hstable _ _ _ _ (hhandle o e _) (hthreads th hth).1, (hthreads th hth).2⟩
        intro th hth
        rw [List.drop_set] at hth
        split_ifs at hth with hbefore
        · exact hold th hth
        · rcases List.mem_or_eq_of_mem_set hth with hth | rfl
          · exact hold th hth
          · -- the thread that acts is itself one that was started later
            have hmem : ⟨task, .act e k, g⟩ ∈ q.threads.drop p.threads.length := by
              refine List.mem_of_getElem? (i := i - p.threads.length) ?_
              rw [List.getElem?_drop, Nat.add_sub_cancel' (Nat.le_of_not_lt hbefore)]
              exact hi
            obtain ⟨hknow, hprogram⟩ := hthreads _ hmem
            exact ⟨hown task o e _ g hshared hknow hprogram.1, hprogram.2 _⟩
      · exact ⟨hshared, hlength, hthreads⟩
  · rw [List.drop_length] at hth
    cases hth

/-! ## Something kept beside the shared state -/

section Beside

variable {W : Type}

def State.map {S' : Type} (f : S → S') (p : State T E R ε α S σ) : State T E R ε α S' σ := ⟨f p.shared, p.threads⟩

variable (sys) in
/-- the system, with something kept beside its shared state that no program reads -/
def beside (note : O → E → S → W → W) : System T E R ε α O L (S × W) σ where
  program := sys.program
  protocol := sys.protocol
  fresh := sys.fresh
  handle o e s := ((sys.handle o e s.1).1, (sys.handle o e s.1).2, note o e s.1 s.2)
  spawned task s := (sys.spawned task s.1, s.2)
  outside l s := (sys.outside l s.1, s.2)

/-- **Erasure.** What is kept beside changes no interleaving. -/
theorem run_beside (note : O → E → S → W → W) (p : State T E R ε α (S × W) σ) (moves : List (Move T O L)) :
    (run (step (beside sys note)) p moves).map Prod.fst = run (step sys) (p.map Prod.fst) moves := by
  have hstep : ∀ (p : State T E R ε α (S × W) σ) (m : Move T O L),
      (step (beside sys note) p m).map Prod.fst = step sys (p.map Prod.fst) m := by
    intro p m
    cases m with
    | spawn task => rfl
    | outside l => rfl
    | act i o =>
      obtain ⟨⟨s, w⟩, threads⟩ := p
      simp only [step, State.map]
      split <;> rfl
  induction moves generalizing p with
  | nil => rfl
  | cons m rest ih =>
    change (run _ (step (beside sys note) p m) rest).map Prod.fst = run _ (step sys (p.map Prod.fst) m) rest
    rw [ih, hstep]

end Beside

end TrinoManagement.Pool
