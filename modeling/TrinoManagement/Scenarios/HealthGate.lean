/-
The health gate after a restart: is the cluster known to be healthy when `complete` puts it back in rotation?

`_observe` takes the rolled-up state of whatever health snapshot is stored last; it asks neither its age nor whether it
was collected after the restart, and with no snapshot stored the value the sequence remembers stands.

- `health_gate`: over every run whose completions find, where they find GOOD, a stored snapshot that is not stale and was
  collected after the sequence entered VERIFYING, `complete` reactivates a backend only with its evidence.
- `health_gate_stale`: without that condition, a GOOD from before the restart restores traffic.
-/
import Mathlib.Tactic
import TrinoManagement.Scenarios.Evidence

namespace TrinoManagement.Service

open TrinoManagement.Collector TrinoManagement.Repository TrinoManagement.Sequence
open TrinoManagement.Run (Meets run run_inv)

/-! ## The gate -/

/-- a stored health snapshot of the sequence's cluster that says GOOD since the restart, and is not stale at `t` -/
def ShowsGood (env : Env) (past : List Event) (t : ℚ) (id : ℕ) : Event → Prop
  | .storedHealth s => .created id s.cluster ∈ past ∧ s.payload.rollupState = .good ∧
      s.isStale t env.staleThreshold = false ∧ ∃ v ∈ verifyingSince id past, v ≤ s.collectedAt
  | _ => False

/-- a reactivation in a request to complete `id` -/
def Restored (env : Env) (past : List Event) : Event → Prop
  | .switched _ true t =>
    match currentCall past with
    | some (.complete _ id) => ∃ e ∈ past, ShowsGood env past t id e
    | _ => True
  | _ => True

instance (env : Env) (past : List Event) (t : ℚ) (id : ℕ) (e : Event) : Decidable (ShowsGood env past t id e) := by
  unfold ShowsGood
  split <;> infer_instance

instance (env : Env) (past : List Event) (e : Event) : Decidable (Restored env past e) := by
  unfold Restored
  split
  · split <;> infer_instance
  · infer_instance

/-- every reactivation by `complete` had its evidence when it happened -/
def HealthGated (env : Env) (w : World) : Prop := Obeys (Restored env) w.trace

instance (env : Env) (w : World) : Decidable (HealthGated env w) := by unfold HealthGated; infer_instance

/-! ## The condition -/

/-- what a completion finds, where it finds GOOD: a snapshot that is not stale and was collected since the sequence
entered VERIFYING; and no GOOD that is only remembered -/
structure FindsHealthy (env : Env) (w : World) (id : ℕ) (row : Row) : Prop where
  fresh : ∀ s ∈ w.health row.cluster, s.payload.rollupState = .good →
    s.isStale w.now env.staleThreshold = false ∧ ∀ v ∈ verifyingSince id w.trace, v ≤ s.collectedAt
  remembered : w.health row.cluster = none → row.healthState ≠ some "GOOD"

instance (env : Env) (w : World) (id : ℕ) (row : Row) : Decidable (FindsHealthy env w id row) :=
  decidable_of_iff (_ ∧ _) ⟨fun h => ⟨h.1, h.2⟩, fun h => ⟨h.fresh, h.remembered⟩⟩

/-- the condition on a request -/
def CompletesHealthy (env : Env) (op : Op) (w : World) : Prop :=
  match op with
  | .complete _ id => ∀ row ∈ w.rows[id]?, row.state = .verifying → FindsHealthy env w id row
  | _ => True

instance (env : Env) (op : Op) (w : World) : Decidable (CompletesHealthy env op w) := by
  unfold CompletesHealthy
  split <;> infer_instance

/-! ## While a request runs -/

section Request

variable {env : Env} {op : Op} {w : World} {σ : Ghost}

theorem CompletesHealthy.same {w' : World} (h : CompletesHealthy env op w) (hs : SameButAudit w w') :
    CompletesHealthy env op w' := by
  rw [hs]
  cases op with
  | complete p id => exact fun row hr hst => ⟨(h row hr hst).fresh, (h row hr hst).remembered⟩
  | _ => trivial

theorem CompletesHealthy.called (h : CompletesHealthy env op w) : CompletesHealthy env op (w.called op) := by
  cases op with
  | complete p id =>
    intro row hr hst
    refine ⟨fun s hs hg => ⟨((h row hr hst).fresh s hs hg).1, fun v hv => ((h row hr hst).fresh s hs hg).2 v ?_⟩,
      (h row hr hst).remembered⟩
    simp only [World.called, verifyingSince, verifies] at hv
    cases hc : verifyingSince id w.trace <;> simp_all
  | _ => trivial

/-- what the contract demands before a backend is reactivated is the evidence, if what was found is fresh -/
theorem restored_switch {backend : String} {active : Bool} (hl : Linked op w σ)
    (h : Guarded (Restored env) (CompletesHealthy env) op w σ) (hp : Permits op σ (.setActive backend active)) :
    Restored env w.trace (.switched backend active w.now) := by
  obtain ⟨g, hg, hsw, -⟩ := hp
  cases active with
  | false => trivial
  | true =>
    obtain ⟨-, ⟨hkind, hbase, hread, hgood, hw⟩ | ⟨hkind, -⟩⟩ := hsw
    · obtain ⟨⟨⟨row, hrow, hc, hb, -, hrem⟩, -, hhealth, -⟩, htarget⟩ := hl g hg
      cases op with
      | complete p id =>
        obtain rfl : g.id = id := htarget id rfl
        simp only [Restored, h.traced.call]
        have hst : row.state = .verifying := hb.trans hbase
        have hfinds := h.finds hw row hrow hst
        obtain ⟨s, hs, hs_good⟩ : ∃ s, w.health row.cluster = some s ∧ s.payload.rollupState = .good := by
          -- GOOD is read from the stored snapshot, or remembered with none stored
          obtain ⟨q, hq⟩ := Option.isSome_iff_exists.1 hread
          have hstored : w.health row.cluster = q := hc ▸ hhealth q hq
          cases q with
          | none =>
            have : row.healthState = some "GOOD" := by
              simpa [Grip.healthNow, hq, observedHealth, hrem] using hgood
            exact absurd this (hfinds.remembered hstored)
          | some s =>
            refine ⟨s, hstored, Health.name_eq_good.1 ?_⟩
            simpa [Grip.healthNow, hq, observedHealth] using hgood
        obtain ⟨hstale, hafter⟩ := hfinds.fresh s hs hs_good
        obtain ⟨v, hv⟩ := Option.isSome_iff_exists.1 (h.traced.recorded.verifying g.id row hrow hst)
        obtain ⟨hcluster, hmem⟩ := h.traced.recorded.health _ s hs
        exact ⟨_, hmem, by rw [hcluster]; exact h.traced.recorded.created _ row hrow, hs_good, hstale, v, hv, hafter v hv⟩
      | _ => simp [Op.kind] at hkind
    · cases op with
      | abort p id note => simp only [Restored, h.traced.call]
      | _ => simp [Op.kind] at hkind

end Request

def healthGate (env : Env) : Gate where
  law := Restored env
  finds := CompletesHealthy env
  same _ _ _ h hs := h.same hs
  called _ _ h := h.called
  outside _ := ⟨fun _ => trivial, fun _ => trivial, fun _ => trivial⟩
  emits op w σ e ev hl h hp hev := by
    cases e with
    | insert s roles => obtain rfl := hev; trivial
    | save stored forceReason => obtain ⟨f, forced, -, rfl⟩ := hev; trivial
    | setActive backend active => obtain rfl := hev; exact restored_switch hl h hp
    | execStart cluster id => obtain rfl := hev; trivial
    | _ => exact hev.elim

instance (env : Env) (op : Op) (w : World) : Decidable ((healthGate env).finds op w) :=
  inferInstanceAs (Decidable (CompletesHealthy env op w))

/-- **Health gate.** In every run whose completions find only a fresh GOOD, `complete` reactivates a backend only when a
non-stale health snapshot of the cluster, collected after the sequence entered VERIFYING, is rolled up to GOOD. -/
theorem health_gate (env : Env) (now : ℚ) (backends : List Backend) (ls : List Label)
    (h : Meets (step env) (healthGate env).ok (World.init now backends) ls) :
    HealthGated env (run (step env) (World.init now backends) ls) :=
  gate_run (healthGate env) env h

-- a run on fixed inputs is left to the kernel, never unfolded
attribute [irreducible] HealthGated

/-- the requests up to VERIFYING at time 1020, with the GOOD of time 5 stored all along -/
def restartedRun : List Label :=
  [.pollGateway true, .storeHealth (Sample.health 5 .good), .clock 1000,
    .call (.start Sample.admin "prod-a" "upgrade") [], .clock 1010, .storeQueries (Sample.queries 1005 0 0),
    .call (.restart Sample.admin 0) [], .clock 1020, .call (.markRestarted Sample.admin 0) []]

def healthyRun : List Label :=
  restartedRun ++ [.clock 1030, .storeHealth (Sample.health 1025 .good), .call (.complete Sample.admin 0) []]

/-- a completion past a GOOD from after the restart meets the condition, and the backend is active again -/
theorem health_gate_fresh :
    HealthGated Sample.env (run (step Sample.env) (World.init 0 [Sample.backend]) healthyRun) ∧
    (run (step Sample.env) (World.init 0 [Sample.backend]) healthyRun).backends = [Sample.backend] :=
  ⟨health_gate Sample.env 0 [Sample.backend] healthyRun (by decide +kernel), by decide +kernel⟩

/-- **The gate opens on a stale GOOD**, collected before traffic was even stopped. -/
theorem health_gate_stale : ¬ HealthGated Sample.env (run (step Sample.env) (World.init 0 [Sample.backend])
    (restartedRun ++ [.call (.complete Sample.admin 0) []])) := by
  decide +kernel

end TrinoManagement.Service
