/-
What a request does do, where the outside serves it. The contract says what a request may do, whatever it is told; here
the outside answers as it should and the request gets through.

- `Serves`: storage and the audit store work, the executor starts, the config store is not known to be unusable.
- `Leads`: from a world, whichever serving oracles answer, the program returns as `K` says; an exception leaves `E`.
- `Quiet`: a program that writes nothing, such as `get`; it leaves all but the audit log as it was.
-/
import Mathlib.Tactic
import TrinoManagement.Ops.Contract
import TrinoManagement.Ops.World

namespace TrinoManagement.Service

open TrinoManagement.Audit TrinoManagement.Collector TrinoManagement.Repository TrinoManagement.Sequence
open TrinoManagement.Text (blank Reason)
open TrinoManagement.Prog

/-! ## Programs that write nothing -/

/-- the protocol of a reader -/
def reading : Protocol Act Act.Answer Unit := ⟨fun _ e => e.writes = false, fun s _ _ => s⟩

def Quiet {α : Type} (p : M α) : Prop := wp (protocol reading) p (fun _ _ => True) ()

section Readers

variable {α β : Type} {cfg : Config} {stored : StoredSequence}

theorem quiet_bind {p : M α} {f : α → M β} (hp : Quiet p) (hf : ∀ a, Quiet (f a)) : Quiet (p >>= f) := by
  rw [Quiet, wp_bind]
  refine wp_mono protocol_mono (fun r _ _ => ?_) hp
  cases r with
  | ok a => exact hf a
  | error e => trivial

theorem quiet_pure {a : α} : Quiet (pure a : M α) := trivial

theorem quiet_perform {e : Act} (h : e.writes = false) : Quiet (perform e) := ⟨h, fun _ => trivial⟩

theorem quiet_ite {c : Prop} [Decidable c] {p q : M α} (hp : Quiet p) (hq : Quiet q) : Quiet (if c then p else q) := by
  split_ifs
  · exact hp
  · exact hq

theorem quiet_lift {r : Except Exn α} : Quiet (lift r) := by cases r <;> trivial

theorem quiet_loadOr404 {id : ℕ} : Quiet (loadOr404 id) := by
  unfold loadOr404
  refine quiet_bind (quiet_perform rfl) fun r => quiet_bind quiet_lift ?_
  intro stored
  cases stored <;> trivial

theorem quiet_invoke {method : RestartSequence → ℚ → Outcome} : Quiet (invoke stored method) := by
  unfold invoke attempt
  refine quiet_bind (quiet_bind (quiet_perform rfl) fun t => quiet_pure) ?_
  intro r
  obtain ⟨s, _ | ⟨⟩⟩ := r <;> trivial

theorem quiet_observe : Quiet (observe cfg stored) := by
  unfold observe observeConfigStore
  refine quiet_bind (quiet_perform rfl) fun _ => quiet_bind quiet_lift ?_
  intro queries
  refine quiet_bind (quiet_perform rfl) fun _ => quiet_bind quiet_lift fun health => quiet_bind quiet_invoke ?_
  intro s
  refine quiet_ite quiet_pure (quiet_ite quiet_pure ?_)
  split
  · exact quiet_pure
  · exact quiet_bind (quiet_perform rfl) fun probe => quiet_invoke

theorem quiet_view : Quiet (view cfg stored) := by
  unfold view
  have answer : ∀ x, Quiet (do
      let now ← perform Act.now
      pure (⟨stored, stored.sequence.steps, cfg.automated, x, elapsedMs stored.startedAt stored.finishedAt now⟩ : View)) :=
    fun x => quiet_bind (quiet_perform rfl) fun now => quiet_pure
  exact quiet_ite (quiet_bind (quiet_perform rfl) fun state => answer (some state)) (answer none)

/-- the read side writes nothing -/
theorem quiet_get {id : ℕ} : Quiet (get cfg id) := by
  unfold get
  exact quiet_bind quiet_loadOr404 fun stored => quiet_bind quiet_observe fun stored => quiet_view

end Readers

/-! ## An outside that serves -/

structure Serves (o : Oracle) : Prop where
  fault : o.fault = none
  audit : o.auditWritable = true
  /-- the config store is not known to be unusable -/
  probe : o.probe.1 ≠ some false
  executor : ∃ s, o.execStart = .ok s

instance (o : Oracle) : Decidable (Serves o) :=
  decidable_of_iff (o.fault = none ∧ o.auditWritable = true ∧ o.probe.1 ≠ some false ∧ o.execStart.isOk = true)
    ⟨fun ⟨hf, ha, hp, he⟩ => ⟨hf, ha, hp, by
      cases h : o.execStart with
      | ok s => exact ⟨s, rfl⟩
      | error e => rw [h] at he; cases he⟩,
    fun h => ⟨h.fault, h.audit, h.probe, by obtain ⟨s, hs⟩ := h.executor; rw [hs]; rfl⟩⟩

theorem serves_default : Serves default := ⟨rfl, rfl, by simp [default, Oracle.serves], _, rfl⟩

/-- whichever oracles in `A` answer, the program returns as `K` says, or raises and leaves `E` -/
abbrev Leads (A : Oracle → Prop) (env : Env) (E : World → Prop) {α : Type} (p : M α) (K : α → World → Prop) (w : World) :
    Prop :=
  Yields (demonic A (handle env)) E p K w

/-- the oracles let storage and the audit store work -/
structure Stores (A : Oracle → Prop) : Prop where
  fault : ∀ o, A o → o.fault = none
  audit : ∀ o, A o → o.auditWritable = true

theorem stores_serves : Stores Serves := ⟨fun _ h => h.fault, fun _ h => h.audit⟩

section Rules

variable {A : Oracle → Prop} {env : Env} {α β : Type} {E : World → Prop} {K : α → World → Prop} {w : World}

theorem leads_pure {a : α} : Leads A env E (pure a) K w ↔ K a w := Iff.rfl

theorem leads_perform {e : Act} {K : e.Answer → World → Prop} :
    Leads A env E (perform e) K w ↔ ∀ o, A o → K (handle env o e w).1 (handle env o e w).2 := Iff.rfl

theorem leads_bind {p : M α} {f : α → M β} {K : β → World → Prop} :
    Leads A env E (p >>= f) K w ↔ Leads A env E p (fun a w' => Leads A env E (f a) K w') w := yields_bind

theorem Leads.mono {p : M α} {E' : World → Prop} {K' : α → World → Prop} (h : Leads A env E p K w)
    (hE : ∀ w', E w' → E' w') (hK : ∀ a w', K a w' → K' a w') : Leads A env E' p K' w :=
  Yields.mono demonic_mono h hE hK

/-- a reader leads wherever its world already is -/
theorem leads_quiet {p : M α} (hq : Quiet p) (hE : ∀ w', SameButAudit w w' → E w') (hK : ∀ a w', SameButAudit w w' → K a w') :
    Leads A env E p K w := by
  induction p generalizing w with
  | ret a => exact hK a w (.refl w)
  | raise e => exact hE w (.refl w)
  | act e k ih =>
    intro o _
    have same := @handle_quiet env o w e hq.1
    exact ih _ (hq.2 _) (fun w' h => hE w' (same.trans h)) fun a w' h => hK a w' (same.trans h)

theorem readStore_serves {o : Oracle} (h : o.fault = none) (a : α) : readStore env o a = .ok a := by
  unfold readStore
  rw [h]
  cases env.storage <;> rfl

theorem leads_loadOr404 {id : ℕ} {row : Row} {K : StoredSequence → World → Prop} (hA : Stores A)
    (hrow : w.rows[id]? = some row) (hK : K (loadRow env.storage id row) w) : Leads A env E (loadOr404 id) K w := by
  rw [loadOr404, leads_bind, leads_perform]
  intro o ho
  rw [leads_bind]
  simp only [handle, readStore_serves (hA.fault o ho), load, hrow]
  exact hK

theorem leads_invoke {stored : StoredSequence} {method : RestartSequence → ℚ → Outcome} {K : StoredSequence → World → Prop}
    (h : ∀ t, ∃ s, method stored.sequence t = (s, .ok ()) ∧ K { stored with sequence := s } w) :
    Leads A env E (invoke stored method) K w := by
  rw [invoke, leads_bind, attempt, leads_bind, leads_perform]
  intro o ho
  obtain ⟨s, hs, hK⟩ := h w.now
  change Leads A env E _ _ w
  rw [leads_pure, show (handle env o .now w).1 = w.now from rfl, hs]
  exact hK

theorem leads_invokeOrRefuse {stored : StoredSequence} {method : RestartSequence → ℚ → Outcome}
    {K : StoredSequence → World → Prop}
    (h : ∀ t, ∃ s, method stored.sequence t = (s, .ok ()) ∧ K { stored with sequence := s } w) :
    Leads A env E (invokeOrRefuse stored method) K w := by
  rw [invokeOrRefuse, leads_bind, attempt, leads_bind, leads_perform]
  intro o ho
  obtain ⟨s, hs, hK⟩ := h w.now
  change Leads A env E _ _ w
  rw [leads_pure, show (handle env o .now w).1 = w.now from rfl, hs]
  exact hK

theorem leads_ite {c : Prop} [Decidable c] {p q : M α} (hp : c → Leads A env E p K w)
    (hq : ¬c → Leads A env E q K w) : Leads A env E (if c then p else q) K w := yields_ite hp hq

theorem leads_observeConfigStore {cfg : Config} {before stored : StoredSequence} {running : Option ℤ}
    {health : Option String} {K : StoredSequence → World → Prop} (ho : Observed running health before stored)
    (hready : stored.sequence.configStoreReady ≠ some false)
    (hK : ∀ s, Observed running health before s → s.sequence.configStoreReady ≠ some false → K s w) :
    Leads Serves env E (observeConfigStore cfg stored) K w := by
  unfold observeConfigStore
  refine leads_ite (fun _ => hK _ ho hready) fun _ => leads_ite (fun _ => hK _ ho hready) ?_
  intro _
  split
  · exact hK _ ho hready
  · rw [leads_bind, leads_perform]
    intro o hserves
    refine leads_invoke ?_
    intro t
    obtain ⟨hist, heq⟩ := @RestartSequence.observeConfigStore_cases stored.sequence t o.probe.1 o.probe.2
    exact ⟨_, heq, hK _ ⟨ho.id, ho.cluster, ho.reason, ho.state, ho.running, ho.health⟩ hserves.probe⟩

/-- an observation reads what is stored; the config store it asks is not known to be unusable -/
theorem leads_observe {cfg : Config} {stored : StoredSequence} {K : StoredSequence → World → Prop}
    (hready : stored.sequence.configStoreReady ≠ some false)
    (hK : ∀ s, Observed (observedRunning (w.queries stored.sequence.cluster))
      (observedHealth (w.health stored.sequence.cluster)) stored s → s.sequence.configStoreReady ≠ some false → K s w) :
    Leads Serves env E (observe cfg stored) K w := by
  rw [observe, leads_bind, leads_perform]
  intro o ho
  rw [leads_bind]
  simp only [handle, readStore_serves ho.fault]
  rw [lift, leads_pure, leads_bind, leads_perform]
  intro o ho
  rw [leads_bind]
  simp only [handle, readStore_serves ho.fault]
  rw [lift, leads_pure, leads_bind]
  refine leads_invoke ?_
  intro t
  obtain ⟨hist, heq⟩ := takeReading_eq (observedRunning (w.queries stored.sequence.cluster))
    (observedHealth (w.health stored.sequence.cluster)) stored.sequence t
  exact ⟨_, heq, leads_observeConfigStore (show Observed _ _ stored _ from ⟨rfl, rfl, rfl, rfl, rfl, rfl⟩) hready hK⟩

theorem leads_save {stored : StoredSequence} {forceReason : Option String} {row : Row} {K : StoredSequence → World → Prop}
    (hA : Stores A) (hrow : w.rows[stored.id]? = some row)
    (hfree : conflicts w.rows stored.id row stored.sequence.state = false)
    (hK : ∀ row' t, row'.state = stored.sequence.state → row'.cluster = row.cluster →
      K stored.markPersisted { w with rows := w.rows.set stored.id row', trace := t }) :
    Leads A env E (save stored forceReason) K w := by
  rw [save, leads_bind, leads_perform]
  intro o ho
  simp only [handle]
  rw [saveSequence_ok (hA.fault o ho) hrow hfree, lift, leads_bind, leads_pure, leads_pure]
  exact hK _ _ rfl rfl

theorem leads_tryCatch {p : M α} {h : Exn → M α} (E' : World → Prop) (hp : Leads A env E' p K w)
    (hh : ∀ e w', E' w' → Leads A env E (h e) K w') : Leads A env E (tryCatch p h) K w :=
  yields_tryCatch demonic_mono E' hp hh

/-- the audit store lets the body through -/
theorem leads_audited {p : Principal} {cluster reason : String} {body : M α} (hA : Stores A)
    (hreason : blank reason = false)
    (hbody : Leads A env (fun _ => False) body (fun a w' => ∀ w'', SameButAudit w' w'' → K a w'') w) :
    Leads A env E (audited p cluster reason body) K w := by
  unfold audited
  have hsome := normaliseReason_isSome reason
  rw [hreason] at hsome
  obtain ⟨clean, hclean⟩ := Option.isSome_iff_exists.1 hsome
  rw [hclean]
  dsimp only
  rw [leads_bind, leads_perform]
  intro o ho
  simp only [handle, hA.audit o ho, if_true]
  rw [leads_bind, Leads, Yields, wp_tryCatch]
  refine wp_mono demonic_mono (fun x w' hx => ?_) hbody
  cases x with
  | ok a =>
    change Leads A env E _ _ w'
    rw [leads_bind, leads_perform]
    exact fun o _ => hx _ (handle_quiet rfl)
  | error e => exact hx.elim

end Rules

end TrinoManagement.Service
