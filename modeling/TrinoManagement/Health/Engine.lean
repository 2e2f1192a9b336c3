/-
Health evaluation, `tms/health/engine.py`: run the catalogue, roll up.

A test that raises is UNKNOWN; stale input makes every test UNKNOWN; the roll-up is the worst state among the enabled
tests. The engine remembers the last kill counter of each cluster between evaluations.

- `rollup_good`: the roll-up is GOOD only if each enabled test said GOOD on current data.
-/
import Mathlib.Tactic
import TrinoManagement.Core.Text
import TrinoManagement.Health.Tests

namespace TrinoManagement.Health

open TrinoManagement.Text (blank)

/-- addresses the roll-up itself rather than a test -/
def rollupKey : String := "*"

structure ClusterHealth where
  cluster : String
  rollupState : State
  rollupEnabled : Bool
  results : List HealthResult
  evaluatedAt : ℚ
  stale : Bool
deriving DecidableEq

/-- the settings and the last kill counter of each cluster -/
structure HealthEngine where
  gatewayEnabled : Bool
  oomCounters : String → Option ℤ

/-- `override.get("enabled") is False`, of an override that is a dict -/
def disabled (overrides : Value) (key : String) : Bool := decide ((overrides.get key).get "enabled" = .bool false)

namespace HealthEngine

variable (engine : HealthEngine)

/-- the tests in the catalogue for this deployment, less those switched off -/
def activeTests (overrides : Value) : List (String × (HealthContext → Except PyError HealthResult)) :=
  allTests.filter fun t => !(decide (t.1 ∈ gatewayTests) && !engine.gatewayEnabled) && !disabled overrides t.1

def activeTestIds (overrides : Value) : List String := (engine.activeTests overrides).map (·.1)

/-- one bad test must not blank the page -/
def guardResult (testId : String) : Except PyError HealthResult → HealthResult
  | .ok result => result
  | .error _ => ⟨testId, testId, .unknown, .none, .none, "This health test raised an error. Check the TMS logs."⟩

/-- never present an old reading as current -/
def markStale (result : HealthResult) : HealthResult :=
  ⟨result.testId, result.name, .unknown, result.observedValue, result.threshold,
    "Collected data is stale. Check that tms-collector is running."⟩

/-- `_check_advice`: a state that requires a remedy never goes without one -/
def checkAdvice (result : HealthResult) : HealthResult :=
  if requiresAdvice result.state && blank result.advice then
    { result with advice := "No remedy was supplied for this state (a bug). Check the test implementation." }
  else result

/-- one test, as `evaluate` runs it -/
def evaluateTest (ctx : HealthContext) (stale : Bool) (t : String × (HealthContext → Except PyError HealthResult)) :
    HealthResult :=
  let result := guardResult t.1 (t.2 ctx)
  checkAdvice (if stale then markStale result else result)

/-- the context with the counter the engine carried forward -/
def prepare (ctx : HealthContext) : HealthContext :=
  { ctx with previousOomKills := engine.oomCounters ctx.clusterName }

def evaluate (ctx : HealthContext) (now : ℚ) (stale : Bool) (overrides : Value) : ClusterHealth × HealthEngine :=
  let ctx := engine.prepare ctx
  let results := (engine.activeTests overrides).map (evaluateTest ctx stale)
  let rollupEnabled := !disabled overrides rollupKey
  let kills := if "H-07" ∈ engine.activeTestIds overrides then currentOomKills ctx else none
  (⟨ctx.clusterName, if rollupEnabled then worst (results.map (·.state)) else .unknown, rollupEnabled, results, now, stale⟩,
    { engine with oomCounters := match kills with
        | some n => Function.update engine.oomCounters ctx.clusterName (some n)
        | none => engine.oomCounters })

section Rollup

variable {engine : HealthEngine} {ctx : HealthContext} {now : ℚ} {stale : Bool} {overrides : Value}

@[simp] theorem checkAdvice_state (result : HealthResult) : (checkAdvice result).state = result.state := by
  unfold checkAdvice
  split_ifs <;> rfl

/-- a test counts as GOOD only if it said so, on data that is not stale -/
theorem evaluateTest_good {t : String × (HealthContext → Except PyError HealthResult)}
    (h : (evaluateTest ctx stale t).state = .good) :
    stale = false ∧ ∃ result, t.2 ctx = .ok result ∧ result.state = .good := by
  unfold evaluateTest at h
  rw [checkAdvice_state] at h
  cases stale with
  | true => cases h
  | false =>
    cases hr : t.2 ctx with
    | error e => rw [hr] at h; cases h
    | ok result => rw [hr] at h; exact ⟨rfl, result, rfl, h⟩

/-- **GOOD is earned by every test.** A GOOD roll-up means that it is enabled, that some test is, that nothing was
stale, and that each enabled test said GOOD. -/
theorem rollup_good (h : (engine.evaluate ctx now stale overrides).1.rollupState = .good) :
    disabled overrides rollupKey = false ∧ engine.activeTests overrides ≠ [] ∧ stale = false ∧
    ∀ t ∈ engine.activeTests overrides, ∃ result, t.2 (engine.prepare ctx) = .ok result ∧ result.state = .good := by
  simp only [evaluate] at h
  split_ifs at h with henabled
  rw [worst_eq_good] at h
  obtain ⟨hne, hall⟩ := h
  have hactive : engine.activeTests overrides ≠ [] := by
    intro hnil
    rw [hnil] at hne
    exact hne rfl
  have hgood : ∀ t ∈ engine.activeTests overrides, (evaluateTest (engine.prepare ctx) stale t).state = .good := by
    intro t ht
    exact hall _ (List.mem_map_of_mem (List.mem_map_of_mem ht))
  obtain ⟨t₀, ht₀⟩ := List.exists_mem_of_ne_nil _ hactive
  refine ⟨by simpa using henabled, hactive, (evaluateTest_good (hgood t₀ ht₀)).1, fun t ht => ?_⟩
  exact (evaluateTest_good (hgood t ht)).2

/-- one enabled test that says something else is enough -/
theorem rollup_not_good {t : String × (HealthContext → Except PyError HealthResult)} {result : HealthResult}
    (ht : t ∈ engine.activeTests overrides) (hr : t.2 (engine.prepare ctx) = .ok result) (hs : result.state ≠ .good) :
    (engine.evaluate ctx now stale overrides).1.rollupState ≠ .good := by
  intro h
  obtain ⟨-, -, -, hall⟩ := rollup_good h
  obtain ⟨result', hr', hgood⟩ := hall t ht
  rw [hr] at hr'
  cases hr'
  exact hs hgood

end Rollup

end HealthEngine

end TrinoManagement.Health
