/-
The restart gate: is the cluster known to be empty when the executor is started?

`_observe` takes the count of whatever queries snapshot is stored last, if only it is trustworthy; it asks neither its
age nor whether it was collected after the backend was deactivated, and with nothing usable stored the count the
sequence remembers stands.

- `restart_gate`: over every run whose restarts find, where their count is zero, a stored snapshot that is not stale and
  was collected after the deactivation, every start of the executor for a sequence never forced has its evidence.
- `restart_gate_stale`: without that condition, a snapshot from before the deactivation opens the gate.
-/
import Mathlib.Tactic
import TrinoManagement.Scenarios.Evidence

namespace TrinoManagement.Service

open TrinoManagement.Collector TrinoManagement.Repository TrinoManagement.Sequence
open TrinoManagement.Run (Meets run run_inv)

/-! ## The gate -/

/-- a stored snapshot that shows the cluster empty after the sequence stopped its traffic, and is not stale at `t` -/
def ShowsEmpty (env : Env) (past : List Event) (t : ℚ) (cluster : String) (id : ℕ) : Event → Prop
  | .storedQueries s => s.cluster = cluster ∧ s.trustworthy = true ∧ s.isStale t env.staleThreshold = false ∧
      (∃ d ∈ deactivatedAt id past, d ≤ s.collectedAt) ∧
      ∃ p ∈ s.payload, p.summary.running = 0 ∧ p.summary.queued = 0
  | _ => False

/-- `executor.start` is called only for a sequence that was forced or whose cluster is shown empty -/
def Justified (env : Env) (past : List Event) : Event → Prop
  | .launched cluster id t => Forced id past ∨ ∃ e ∈ past, ShowsEmpty env past t cluster id e
  | _ => True

instance (env : Env) (past : List Event) (t : ℚ) (cluster : String) (id : ℕ) (e : Event) :
    Decidable (ShowsEmpty env past t cluster id e) := by
  unfold ShowsEmpty
  split <;> infer_instance

instance (env : Env) (past : List Event) : DecidablePred (Justified env past)
  | .launched cluster id t => inferInstanceAs (Decidable (Forced id past ∨ ∃ e ∈ past, ShowsEmpty env past t cluster id e))
  | .called _ | .storedQueries _ | .storedHealth _ | .created .. | .saved .. | .switched .. =>
    inferInstanceAs (Decidable True)

/-- every start of the executor was justified when it happened -/
def Gated (env : Env) (w : World) : Prop := Obeys (Justified env) w.trace

instance (env : Env) (w : World) : Decidable (Gated env w) := by unfold Gated; infer_instance

/-! ## The condition -/

/-- what a restart finds, where its count is zero: a snapshot that is not stale and was collected after the
deactivation; and no count of zero that is only remembered -/
structure FindsFresh (env : Env) (w : World) (id : ℕ) (row : Row) : Prop where
  fresh : ∀ s ∈ w.queries row.cluster, s.trustworthy = true → s.live = 0 →
    s.isStale w.now env.staleThreshold = false ∧ ∀ d ∈ deactivatedAt id w.trace, d ≤ s.collectedAt
  remembered : observedRunning (w.queries row.cluster) = none → ∀ n ∈ row.runningQueries, 0 < n

instance (env : Env) (w : World) (id : ℕ) (row : Row) : Decidable (FindsFresh env w id row) :=
  decidable_of_iff (_ ∧ _) ⟨fun h => ⟨h.1, h.2⟩, fun h => ⟨h.fresh, h.remembered⟩⟩

/-- the condition on a request -/
def RestartsFresh (env : Env) (op : Op) (w : World) : Prop :=
  match op with
  | .restart _ id => ∀ row ∈ w.rows[id]?, row.state ∈ [State.draining, .drained] → ¬ Forced id w.trace →
      FindsFresh env w id row
  | _ => True

instance (env : Env) (op : Op) (w : World) : Decidable (RestartsFresh env op w) := by
  unfold RestartsFresh
  split <;> infer_instance

/-! ## While a request runs -/

section Request

variable {env : Env} {op : Op} {w : World} {σ : Ghost}

theorem RestartsFresh.same {w' : World} (h : RestartsFresh env op w) (hs : SameButAudit w w') :
    RestartsFresh env op w' := by
  rw [hs]
  cases op with
  | restart p id => exact fun row hr hst hf => ⟨(h row hr hst hf).fresh, (h row hr hst hf).remembered⟩
  | _ => trivial

theorem RestartsFresh.called (h : RestartsFresh env op w) : RestartsFresh env op (w.called op) := by
  cases op with
  | restart p id =>
    intro row hr hst hf
    have hf' : ¬ Forced id w.trace := fun hforced => hf (by
      simpa [Forced, World.called, forces] using hforced)
    exact ⟨(h row hr hst hf').fresh, (h row hr hst hf').remembered⟩
  | _ => trivial

/-- what the contract demands before the executor is started is the evidence, if what was found is fresh -/
theorem justified_execStart {cluster : String} {id : ℕ} (hl : Linked op w σ)
    (h : Guarded (Justified env) (RestartsFresh env) op w σ) (hp : Permits op σ (.execStart cluster id)) :
    Justified env w.trace (.launched cluster id w.now) := by
  obtain ⟨g, hg, hcluster, hid, hkind, hw, -, hbase, hread, n, hn, hcount⟩ := hp
  subst hcluster hid
  obtain ⟨⟨⟨row, hrow, hc, hb, hrem, -⟩, hqueries, -, -⟩, htarget⟩ := hl g hg
  obtain ⟨q, hq⟩ := Option.isSome_iff_exists.1 hread
  cases op with
  | restart p id =>
    obtain rfl : g.id = id := htarget id rfl
    by_cases hforced : Forced g.id w.trace
    · exact .inl hforced
    right
    have hfinds := h.finds hw row hrow (hb ▸ hbase) hforced
    have hstored : w.queries row.cluster = q := hc ▸ hqueries q hq
    cases hobs : observedRunning q with
    | none =>
      -- only the remembered count is left, and it is not zero
      have hrn : row.runningQueries = some n := by
        simpa [Grip.count, Grip.counted, hq, hobs, hrem] using hcount
      exact absurd (hfinds.remembered (hstored ▸ hobs) n hrn) (by omega)
    | some m =>
      have hm : m = n := by simpa [Grip.count, Grip.counted, hq, hobs] using hcount
      obtain ⟨s, rfl, htrust, rfl⟩ : ∃ s, q = some s ∧ s.trustworthy = true ∧ m = s.live := by
        unfold observedRunning at hobs
        split at hobs
        · rename_i s
          split_ifs at hobs with ht
          exact ⟨s, rfl, ht, (Option.some.inj hobs).symm⟩
        · cases hobs
      have hlive : s.live = 0 := by omega
      obtain ⟨hstale, hafter⟩ := hfinds.fresh s hstored htrust hlive
      obtain ⟨d, hd⟩ := Option.isSome_iff_exists.1
        (h.traced.recorded.deactivated g.id row hrow (by
          rw [hb]
          simp only [List.mem_cons, List.not_mem_nil, or_false] at hbase
          rcases hbase with hb | hb <;> simp [hb, pastStart]))
      obtain ⟨payload, hpay⟩ := Option.isSome_iff_exists.1 (s.reported htrust)
      refine ⟨_, (h.traced.recorded.queries _ s hstored).2, ?_, htrust, hstale, ⟨d, hd, hafter d hd⟩, payload, hpay, ?_⟩
      · rw [(h.traced.recorded.queries _ s hstored).1, hc]
      · simp only [QueriesSnapshot.live, hpay] at hlive
        omega
  | _ => simp [Op.kind] at hkind

end Request

def restartGate (env : Env) : Gate where
  law := Justified env
  finds := RestartsFresh env
  same _ _ _ h hs := h.same hs
  called _ _ h := h.called
  outside _ := ⟨fun _ => trivial, fun _ => trivial, fun _ => trivial⟩
  emits op w σ e ev hl h hp hev := by
    cases e with
    | insert s roles => obtain rfl := hev; trivial
    | save stored forceReason => obtain ⟨f, forced, -, rfl⟩ := hev; trivial
    | setActive backend active => obtain rfl := hev; trivial
    | execStart cluster id => obtain rfl := hev; exact justified_execStart hl h hp
    | _ => exact hev.elim

instance (env : Env) (op : Op) (w : World) : Decidable ((restartGate env).finds op w) :=
  inferInstanceAs (Decidable (RestartsFresh env op w))

/-- **Restart gate.** In every run whose restarts find only fresh zero counts, `executor.start` is called for a sequence
never forced only when a trustworthy, non-stale queries snapshot, collected after its deactivation, reports zero running
and zero queued queries. -/
theorem restart_gate (env : Env) (now : ℚ) (backends : List Backend) (ls : List Label)
    (h : Meets (step env) (restartGate env).ok (World.init now backends) ls) :
    Gated env (run (step env) (World.init now backends) ls) :=
  gate_run (restartGate env) env h

-- a run on fixed inputs is left to the kernel, never unfolded
attribute [irreducible] Gated

/-- a restart past a snapshot from after the deactivation meets the condition, and the executor is started -/
def freshRun : List Label :=
  [.pollGateway true, .clock 1000, .call (.start Sample.admin "prod-a" "upgrade") [], .clock 1010,
    .storeQueries (Sample.queries 1005 0 0), .call (.restart Sample.admin 0) []]

theorem restart_gate_fresh :
    Gated Sample.env (run (step Sample.env) (World.init 0 [Sample.backend]) freshRun) ∧
    .launched "prod-a" 0 1010 ∈ (run (step Sample.env) (World.init 0 [Sample.backend]) freshRun).trace :=
  ⟨restart_gate Sample.env 0 [Sample.backend] freshRun (by decide +kernel), by decide +kernel⟩

/-- **The gate opens on a stale count.** The only queries snapshot is from 995 s before traffic was stopped. -/
theorem restart_gate_stale :
    ¬ Gated Sample.env (run (step Sample.env) (World.init 0 [Sample.backend])
      [.pollGateway true, .storeQueries (Sample.queries 5 0 0), .clock 1000,
        .call (.start Sample.admin "prod-a" "upgrade") [], .call (.restart Sample.admin 0) []]) := by
  decide +kernel

end TrinoManagement.Service
