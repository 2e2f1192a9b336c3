/-
Can a restart be completed? The sequence demands a GOOD roll-up before it restores traffic, and the roll-up is over tests
that look at the traffic the sequence itself stopped.

- `BackWell`: the cluster came back well, its backend still inactive and no query completed lately.
- `completion_never`: then `complete` refuses, whatever the thresholds. H-08 is CONCERNING and H-05 UNKNOWN, and either
  is enough (`inactive_blocks`, `idle_blocks`).
- `completion_blocked`: such a context, which would be GOOD with traffic.
-/
import Mathlib.Tactic
import TrinoManagement.Health.Engine
import TrinoManagement.Ops.Sequence

namespace TrinoManagement.Sequence

open TrinoManagement.Collector TrinoManagement.Health

/-! ## After the restart -/

/-- a cluster that came back well and takes no traffic, as its own sequence left it -/
structure BackWell (engine : HealthEngine) (ctx : HealthContext) : Prop where
  answers : ∃ s, ctx.info = some s ∧ s.trustworthy = true
  started : ∀ s, ctx.info = some s → (s.payload.get "info").has "starting" = true ∧
    ((s.payload.get "info").get "starting").truthy = false
  workers : ∃ n, ctx.number nodeManagerMbean "ActiveNodeCount" = .ok (some n) ∧
    ctx.expectedWorkers ≤ truncate n - if ctx.coordinatorCountedInActiveNodes then 1 else 0
  heap : ∃ used maximum concerning bad,
    ((ctx.attributeOf memoryMbean "HeapMemoryUsage").get "used").numeric = some used ∧
    ((ctx.attributeOf memoryMbean "HeapMemoryUsage").get "max").numeric = some maximum ∧ 0 < maximum ∧
    ctx.threshold "heap_used_pct_concerning" 80 = .ok concerning ∧ ctx.threshold "heap_used_pct_bad" 90 = .ok bad ∧
    100 * used / maximum < concerning ∧ 100 * used / maximum < bad
  internalFailures : ∃ n concerning bad,
    ctx.number Health.queryManagerMbean "InternalFailures.FiveMinute.Count" = .ok (some n) ∧
    ctx.threshold "internal_failures_concerning" 1 = .ok concerning ∧ ctx.threshold "internal_failures_bad" 5 = .ok bad ∧
    truncate n < concerning ∧ truncate n < bad
  noKills : ∃ n, ctx.number clusterMemoryMbean "QueriesKilledDueToOutOfMemory" = .ok (some n) ∧
    ∀ before ∈ engine.oomCounters ctx.clusterName, truncate n ≤ before
  queries : ∃ s, ctx.queries = some s ∧ s.trustworthy = true
  /-- intake is stopped, so nothing has completed -/
  idle : ∃ failed, ctx.number Health.queryManagerMbean "FailedQueries.FiveMinute.Count" = .ok (some failed) ∧
    ctx.number Health.queryManagerMbean "CompletedQueries.FiveMinute.Count" = .ok (some 0)
  /-- step 1 deactivated the backend -/
  inactive : ∃ backends entry, ctx.gatewayBackends = some backends ∧ gatewayEntry ctx backends = some entry ∧
    (entry.get "active").truthy = false

/-- the roll-up of this context, with no overrides, lets the sequence complete -/
def LetsThrough (engine : HealthEngine) (ctx : HealthContext) (now : ℚ) (s : RestartSequence) (t : ℚ) : Prop :=
  (RestartSequence.complete
    { s with healthState := some (engine.evaluate ctx now false (.dict [])).1.rollupState.name } t).2 = .ok ()

instance (engine : HealthEngine) (ctx : HealthContext) (now : ℚ) (s : RestartSequence) (t : ℚ) :
    Decidable (LetsThrough engine ctx now s t) := by
  unfold LetsThrough
  infer_instance

section Blocked

variable {engine : HealthEngine} {ctx : HealthContext} {now : ℚ}

/-- without overrides every test of the catalogue runs, H-08 only with the Gateway on -/
theorem mem_activeTests {t : String × (HealthContext → Except PyError HealthResult)} (ht : t ∈ allTests)
    (hgateway : engine.gatewayEnabled = true ∨ t.1 ∉ gatewayTests) : t ∈ engine.activeTests (.dict []) := by
  refine List.mem_filter.2 ⟨ht, ?_⟩
  rcases hgateway with h | h <;> simp [h, disabled, Value.get]

/-- a deactivated backend is never GOOD -/
theorem inactive_blocks (hgateway : engine.gatewayEnabled = true) (h : ∃ backends entry,
    ctx.gatewayBackends = some backends ∧ gatewayEntry ctx backends = some entry ∧ (entry.get "active").truthy = false) :
    (engine.evaluate ctx now false (.dict [])).1.rollupState ≠ .good := by
  obtain ⟨backends, entry, hb, hentry, hactive⟩ := h
  have hverdict := @h08_inactive (engine.prepare ctx) backends entry hb hentry hactive
  obtain ⟨result, hr, hs⟩ := hverdict
  have ht : ("H-08", h08GatewayRegistration) ∈ engine.activeTests (.dict []) :=
    mem_activeTests (by simp [allTests]) (.inl hgateway)
  exact HealthEngine.rollup_not_good ht hr (by rw [hs]; decide)

/-- nor is a cluster on which nothing completes -/
theorem idle_blocks (h : ∃ failed,
    ctx.number Health.queryManagerMbean "FailedQueries.FiveMinute.Count" = .ok (some failed) ∧
    ctx.number Health.queryManagerMbean "CompletedQueries.FiveMinute.Count" = .ok (some 0)) :
    (engine.evaluate ctx now false (.dict [])).1.rollupState ≠ .good := by
  obtain ⟨failed, hfailed, hcompleted⟩ := h
  have hverdict := @h05_no_queries (engine.prepare ctx) failed 0 hfailed hcompleted le_rfl
  obtain ⟨result, hr, hs⟩ := hverdict
  have ht : ("H-05", h05QueryFailureRate) ∈ engine.activeTests (.dict []) :=
    mem_activeTests (by simp [allTests]) (.inr (by simp [gatewayTests]))
  exact HealthEngine.rollup_not_good ht hr (by rw [hs]; decide)

/-- the sequence completes only on GOOD -/
theorem not_letsThrough {s : RestartSequence} {t : ℚ}
    (h : (engine.evaluate ctx now false (.dict [])).1.rollupState ≠ .good) : ¬ LetsThrough engine ctx now s t := by
  intro hok
  unfold LetsThrough at hok
  rcases @RestartSequence.complete_cases
    { s with healthState := some (engine.evaluate ctx now false (.dict [])).1.rollupState.name } t with
    ⟨e, he⟩ | ⟨-, hgood, -⟩
  · rw [he] at hok
    cases hok
  · exact h (Health.name_eq_good.1 (Option.some.inj hgood))

end Blocked

/-- **No restart can be completed.** On every context of a cluster that came back well, with its backend inactive and
nothing completed as the sequence left it, `complete` refuses: the roll-up is never GOOD. -/
theorem completion_never (engine : HealthEngine) (ctx : HealthContext) (now : ℚ) (s : RestartSequence) (t : ℚ)
    (hgateway : engine.gatewayEnabled = true) (_hs : s.state = .verifying) (h : BackWell engine ctx) :
    ¬ LetsThrough engine ctx now s t ∧ (engine.evaluate ctx now false (.dict [])).1.rollupState ≠ .good := by
  have hblocked : (engine.evaluate ctx now false (.dict [])).1.rollupState ≠ .good := inactive_blocks hgateway h.inactive
  exact ⟨not_letsThrough hblocked, hblocked⟩

namespace Sample

/-- a cluster of twelve workers, all of them back -/
def context (active : Bool) (completed : ℤ) : HealthContext where
  clusterName := "prod-a"
  expectedWorkers := 12
  thresholds := .dict []
  info := some ⟨"prod-a", 1000, .dict [("info", .dict [("starting", .bool false)])], none, none⟩
  jmx := some ⟨"prod-a", 1000, .dict [("mbeans", .dict [
    (nodeManagerMbean, .dict [("ActiveNodeCount", .int 13)]),
    (memoryMbean, .dict [("HeapMemoryUsage", .dict [("used", .int 20), ("max", .int 100)])]),
    (Health.queryManagerMbean, .dict [("FailedQueries.FiveMinute.Count", .float 0),
      ("CompletedQueries.FiveMinute.Count", .int completed), ("InternalFailures.FiveMinute.Count", .float 0)]),
    (clusterMemoryMbean, .dict [("QueriesKilledDueToOutOfMemory", .int 4)])])], none, none⟩
  queries := some ⟨⟨"prod-a", 1000, some ⟨[], ⟨0, 0, 0, 0⟩, 2, 3⟩, none, none⟩, fun _ => rfl⟩
  coordinatorCountedInActiveNodes := true
  gatewayBackends := some [.dict [("name", .str "trino-prod-a-1"), ("cluster", .str "prod-a"), ("active", .bool active)]]
  previousOomKills := none

def engine : HealthEngine := ⟨true, fun _ => some 4⟩

/-- a sequence whose restart is done -/
def restarted : RestartSequence :=
  { RestartSequence.initial "prod-a" Sample.upgrade "ops" with state := .verifying }

end Sample

theorem backWell_context : BackWell Sample.engine (Sample.context false 0) where
  answers := ⟨_, rfl, rfl⟩
  started := by
    intro s hs
    cases hs
    decide
  workers := ⟨13, by decide +kernel, by decide +kernel⟩
  heap := ⟨20, 100, 80, 90, by decide +kernel, by decide +kernel, by norm_num, by decide +kernel, by decide +kernel,
    by norm_num, by norm_num⟩
  internalFailures := ⟨0, 1, 5, by decide +kernel, by decide +kernel, by decide +kernel, by decide +kernel,
    by decide +kernel⟩
  noKills := ⟨4, by decide +kernel, by decide +kernel⟩
  queries := ⟨_, rfl, rfl⟩
  idle := ⟨0, by decide +kernel, by decide +kernel⟩
  inactive := ⟨_, _, rfl, rfl, rfl⟩

theorem completion_never_one_backend : ¬ LetsThrough Sample.engine (Sample.context false 0) 1001 Sample.restarted 1001 ∧
    (Sample.engine.evaluate (Sample.context false 0) 1001 false (.dict [])).1.rollupState ≠ .good :=
  completion_never Sample.engine (Sample.context false 0) 1001 Sample.restarted 1001 rfl rfl backWell_context

/-- **A restart that cannot be completed.** With its backend active and queries completing the same cluster is GOOD. -/
theorem completion_blocked :
    Sample.restarted.state = .verifying ∧ BackWell Sample.engine (Sample.context false 0) ∧
    ¬ LetsThrough Sample.engine (Sample.context false 0) 1001 Sample.restarted 1001 ∧
    LetsThrough Sample.engine (Sample.context true 40) 1001 Sample.restarted 1001 :=
  ⟨rfl, backWell_context, by decide +kernel, by decide +kernel⟩

end TrinoManagement.Sequence
