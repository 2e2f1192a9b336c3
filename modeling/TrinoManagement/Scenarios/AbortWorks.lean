/-
Does abort always work?

`abort` stores ABORTING, then asks the audit guard to let the reactivation through with the note as its reason, and with
the sequence's own reason only if there is no note. The guard refuses a blank reason; a note of white space is not blank
to `note or ...`.

- `abort_works`: from every live sequence of every run, where storage and the audit store work, the Gateway takes every
  switch and names a backend of the cluster, an abort by an operator ends ABORTED with the backend active iff its note is
  empty or not blank.
- `abort_refused`: a note of one blank leaves the sequence ABORTING and the backend inactive.
-/
import Mathlib.Tactic
import TrinoManagement.Ops.Serving
import TrinoManagement.Scenarios.Backends
import TrinoManagement.Scenarios.Evidence

namespace TrinoManagement.Service

open TrinoManagement.Audit TrinoManagement.Collector TrinoManagement.Repository TrinoManagement.Sequence
open TrinoManagement.Run (Meets meets_of_forall run run_inv)
open TrinoManagement.Text (blank)

/-! ## What is claimed -/

/-- storage and the audit store work, and the Gateway takes every switch -/
structure Restores (o : Oracle) : Prop where
  fault : o.fault = none
  audit : o.auditWritable = true
  gateway : o.gateway = .applied

instance (o : Oracle) : Decidable (Restores o) :=
  decidable_of_iff (o.fault = none ∧ o.auditWritable = true ∧ o.gateway = .applied)
    ⟨fun ⟨hf, ha, hg⟩ => ⟨hf, ha, hg⟩, fun h => ⟨h.fault, h.audit, h.gateway⟩⟩

theorem stores_restores : Stores Restores := ⟨fun _ h => h.fault, fun _ h => h.audit⟩

/-- ABORTED is stored, and the backend takes queries -/
def AbortedActive (w : World) (id : ℕ) (backend : String) : Prop :=
  w.rows[id]?.map (·.state) = some .aborted ∧ ∀ b ∈ w.backends, b.name = backend → b.active = true

instance (w : World) (id : ℕ) (backend : String) : Decidable (AbortedActive w id backend) := by
  unfold AbortedActive; infer_instance

/-- the condition on a note -/
def Accepted (note : String) : Prop := note = "" ∨ blank note = false

instance (note : String) : Decidable (Accepted note) := by unfold Accepted; infer_instance

/-! ## The parts of an abort -/

section Abort

variable {env : Env} {w : World} {E : World → Prop} {p : Principal} {id : ℕ} {row : Row} {name note : String}

theorem leads_setGatewayActive {cluster : String} {active : Bool} {K : Unit → World → Prop} (hgateway : env.gateway = true)
    (hres : resolve w.gateway cluster = some name) (hK : K () (w.switch name active)) :
    Leads Restores env E (setGatewayActive env.toConfig cluster active) K w := by
  unfold setGatewayActive
  refine leads_ite (fun h => ?_) fun _ => ?_
  · rw [hgateway] at h
    cases h
  · rw [leads_bind, backendName, leads_bind, leads_perform]
    intro o ho
    rw [leads_bind]
    simp only [handle, readStore_serves ho.fault]
    rw [lift, leads_pure, hres]
    dsimp only
    rw [leads_pure, leads_bind, leads_perform]
    intro o' ho'
    simp only [handle, switchBackend, ho'.gateway]
    exact hK

theorem backends_active {b : Backend} (hb : b ∈ (w.switch name true).backends) (hn : b.name = name) : b.active = true := by
  rcases mem_setActive.1 hb with ⟨-, hne⟩ | ⟨b₀, -, -, rfl⟩
  · exact absurd hn hne
  · rfl

/-- the reason an abort is recorded with -/
theorem reason_accepted {reason : Text.Reason} (h : Accepted note) :
    blank (if note ≠ "" then note else reason.text) = false := by
  split_ifs with hn
  · exact h.resolve_left hn
  · exact reason.notBlank

/-- with a note the guard accepts, the abort gets through -/
theorem leads_abort (hadmin : p.can manageHealth = true) (hsingle : Single w) (hrow : w.rows[id]? = some row)
    (hlive : row.state ∉ terminal) (hgateway : env.gateway = true) (hres : resolve w.gateway row.cluster = some name)
    (hnote : Accepted note) :
    Leads Restores env (fun w' => AbortedActive w' id name) (abort env.toConfig p id note)
      (fun _ w' => AbortedActive w' id name) w := by
  rw [abort, leads_bind]
  refine leads_ite (fun _ => ?_) fun h => absurd hadmin h
  rw [leads_pure, leads_bind]
  refine leads_loadOr404 stores_restores hrow ?_
  rw [leads_bind]
  refine leads_invokeOrRefuse ?_
  intro t
  obtain ⟨hist, he⟩ := @RestartSequence.beginAbort_ok (loadRow env.storage id row).sequence t note hlive
  refine ⟨_, he, ?_⟩
  rw [leads_bind]
  refine leads_save stores_restores hrow (conflicts_single hsingle hrow hlive _) ?_
  intro row' tr hst hc
  rw [leads_bind]
  refine leads_tryCatch (fun _ => False) ?_ fun _ _ h => h.elim
  refine leads_audited stores_restores (reason_accepted hnote) (leads_setGatewayActive hgateway hres ?_)
  intro w' hw'
  -- traffic is back: ABORTED is saved, and reading it back changes nothing
  have hrow' : w'.rows[id]? = some row' := by rw [hw'.rows]; exact getElem?_written hrow
  have hbackends : ∀ b ∈ w'.backends, b.name = name → b.active = true := by
    rw [hw'.backends]
    exact fun b hb => backends_active hb
  rw [leads_bind]
  refine leads_invoke ?_
  intro t
  obtain ⟨hist', he'⟩ := @RestartSequence.finishAbort_ok
    { (loadRow env.storage id row).sequence with state := .aborting, history := hist } t rfl
  refine ⟨_, he', ?_⟩
  rw [leads_bind]
  refine leads_save stores_restores hrow' (by simp [conflicts, terminal]) ?_
  intro row'' tr' hst' _
  have aborted : ∀ w'' : World, SameButAudit { w' with rows := w'.rows.set id row'', trace := tr' } w'' →
      AbortedActive w'' id name := fun w'' h => by
    refine ⟨?_, ?_⟩
    · rw [h.rows, getElem?_written hrow', Option.map_some, hst']
    · rw [h.backends]
      exact hbackends
  exact leads_quiet quiet_get aborted fun _ => aborted

/-- a note of white space stops the abort between its two saves -/
theorem leads_abort_refused (hadmin : p.can manageHealth = true) (hsingle : Single w) (hrow : w.rows[id]? = some row)
    (hlive : row.state ∉ terminal) (hnote : ¬ Accepted note) :
    Leads Restores env (fun w' => w'.rows[id]?.map (·.state) = some .aborting) (abort env.toConfig p id note)
      (fun _ w' => w'.rows[id]?.map (·.state) = some .aborting) w := by
  have hne : note ≠ "" := fun h => hnote (.inl h)
  have hblank : blank note = true := by
    cases h : blank note with
    | true => rfl
    | false => exact absurd (.inr h) hnote
  have hnone : normaliseReason note = none := by
    have := normaliseReason_isSome note
    rw [hblank] at this
    cases h : normaliseReason note with
    | none => rfl
    | some clean => rw [h] at this; cases this
  rw [abort, leads_bind]
  refine leads_ite (fun _ => ?_) fun h => absurd hadmin h
  rw [leads_pure, leads_bind]
  refine leads_loadOr404 stores_restores hrow ?_
  rw [leads_bind]
  refine leads_invokeOrRefuse ?_
  intro t
  obtain ⟨hist, he⟩ := @RestartSequence.beginAbort_ok (loadRow env.storage id row).sequence t note hlive
  refine ⟨_, he, ?_⟩
  rw [leads_bind]
  refine leads_save stores_restores hrow (conflicts_single hsingle hrow hlive _) ?_
  intro row' tr hst hc
  have hrow' : (w.rows.set id row')[id]? = some row' := getElem?_written hrow
  have hsingle' : Single { w with rows := w.rows.set id row', trace := tr } :=
    single_save hsingle hrow hc fun hterm => absurd hterm hlive
  rw [leads_bind]
  refine leads_tryCatch (fun w' => w' = { w with rows := w.rows.set id row', trace := tr }) ?_ ?_
  · rw [audited, if_pos hne, hnone]
    rfl
  · rintro e w' rfl
    dsimp only
    rw [leads_bind]
    refine leads_invoke ?_
    intro t
    refine ⟨_, if_pos (by decide), ?_⟩
    rw [leads_bind]
    have hlive' : row'.state ∉ terminal := by
      rw [hst]
      change State.aborting ∉ terminal
      decide
    refine leads_save stores_restores hrow' (conflicts_single hsingle' hrow' hlive' _) ?_
    intro row'' tr' hst' _
    change (((w.rows.set id row').set id row'')[id]?.map (·.state)) = some .aborting
    rw [getElem?_written hrow', Option.map_some, hst']
    rfl

end Abort

/-- **Abort works with a note the audit guard accepts.** After any run, for every live sequence of a cluster one of whose
backends the stored join names: an abort by an operator, served by storage, the audit store and the Gateway, leaves ABORTED
stored and the backend active iff its note is empty or not blank. -/
theorem abort_works (env : Env) (now : ℚ) (backends : List Backend) (before : List Label) (p : Principal) (id : ℕ)
    (note : String) (os : List Oracle) (row : Row) (name : String)
    (hrow : (run (step env) (World.init now backends) before).rows[id]? = some row) (hlive : row.state ∉ terminal)
    (hadmin : p.can manageHealth = true) (hgateway : env.gateway = true)
    (hres : resolve (run (step env) (World.init now backends) before).gateway row.cluster = some name)
    (hserves : ∀ o ∈ os, Restores o) :
    AbortedActive (run (step env) (World.init now backends) (before ++ [.call (.abort p id note) os])) id name ↔
      note = "" ∨ blank note = false := by
  rw [Run.run_snoc]
  have hsingle : Single (run (step env) (World.init now backends) before) :=
    run_inv Single (fun w l hw _ => single_step hw l) (meets_of_forall fun _ _ => trivial) (single_init now backends)
  generalize run (step env) (World.init now backends) before = w at hrow hres hsingle
  have hdefault : Restores default := ⟨rfl, rfl, rfl⟩
  -- what either lemma says holds at the end of the request, however it ends
  have ends : ∀ Q : World → Prop, Leads Restores env Q (abort env.toConfig p id note) (fun _ w' => Q w')
      (w.called (.abort p id note)) → Q (step env w (.call (.abort p id note) os)) := by
    intro Q hQ
    have hend := Prog.wp_run hdefault hserves hQ
    revert hend
    change Prog.Ends _ _ (Prog.run (handle env) os (abort env.toConfig p id note) (w.called (.abort p id note))).1 _ → _
    cases (Prog.run (handle env) os (abort env.toConfig p id note) (w.called (.abort p id note))).1 <;> exact fun h => h
  constructor
  · intro hdone
    by_contra hnote
    have haborting := ends _ (leads_abort_refused hadmin (w := w.called (.abort p id note)) hsingle hrow hlive hnote)
    rw [hdone.1] at haborting
    cases haborting
  · exact fun hnote => ends _ (leads_abort hadmin (w := w.called (.abort p id note)) hsingle hrow hlive hgateway hres hnote)

attribute [irreducible] AbortedActive

/-- a restart that waits for its queries -/
def waitingRun : List Label :=
  [.pollGateway true, .call (.start Sample.admin "prod-a" "upgrade") [], .storeQueries (Sample.queries 5 3 0)]

/-- the sequence of `waitingRun`, as stored -/
def waitingRow : Row := ((run (step Sample.env) (World.init 0 [Sample.backend]) waitingRun).rows[0]?).get (by decide +kernel)

theorem abort_works_noted :
    AbortedActive (run (step Sample.env) (World.init 0 [Sample.backend])
      (waitingRun ++ [.call (.abort Sample.admin 0 "not today") []])) 0 Sample.backend.name :=
  (abort_works Sample.env 0 [Sample.backend] waitingRun Sample.admin 0 "not today" [] waitingRow Sample.backend.name
    (by decide +kernel) (by decide +kernel) (by decide +kernel) (by decide +kernel) (by decide +kernel)
    (by decide +kernel)).2 (by decide +kernel)

/-- **An abort is refused half way.** Its note is a blank: ABORTING is stored and the backend takes no queries. -/
theorem abort_refused :
    (run (step Sample.env) (World.init 0 [Sample.backend])
      (waitingRun ++ [.call (.abort Sample.admin 0 " ") []])).rows.map (·.state) = [.aborting] ∧
    (run (step Sample.env) (World.init 0 [Sample.backend])
      (waitingRun ++ [.call (.abort Sample.admin 0 " ") []])).backends.map (·.active) = [false] ∧
    ¬ AbortedActive (run (step Sample.env) (World.init 0 [Sample.backend])
      (waitingRun ++ [.call (.abort Sample.admin 0 " ") []])) 0 Sample.backend.name := by
  decide +kernel

end TrinoManagement.Service
