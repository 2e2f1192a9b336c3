/-
GOOD is never the default: a GOOD roll-up should mean current data, an enabled roll-up, some enabled test, and for each
enabled test GOOD on an input that is there.

- `never_default`: so it does, with each test held to its own input.
- `claimed_fails`: it does not where H-01 is held to the `starting` field, which only H-02 reads, or where the heap reading
  of H-04 is held to numbers that are not booleans.
-/
import Mathlib.Tactic
import TrinoManagement.Health.Transitions

namespace TrinoManagement.Health.HealthEngine

/-- what a GOOD roll-up rests on, with an input asked of each enabled test -/
structure Earned (engine : HealthEngine) (ctx : HealthContext) (now : ℚ) (stale : Bool) (overrides : Value)
    (input : HealthContext → String → Prop) : Prop where
  current : stale = false
  rollup : disabled overrides rollupKey = false
  some_test : engine.activeTestIds overrides ≠ []
  every_test : ∀ testId ∈ engine.activeTestIds overrides,
    (∃ result ∈ (engine.evaluate ctx now stale overrides).1.results, result.testId = testId ∧ result.state = .good) ∧
    input ctx testId

/-- a GOOD roll-up is earned -/
def GoodEarned (engine : HealthEngine) (ctx : HealthContext) (now : ℚ) (stale : Bool) (overrides : Value)
    (input : HealthContext → String → Prop) : Prop :=
  (engine.evaluate ctx now stale overrides).1.rollupState = .good → Earned engine ctx now stale overrides input

/-- a field of the heap reading is a number that is not a boolean -/
def HeapNumber (ctx : HealthContext) (name : String) : Prop :=
  ((ctx.attributeOf memoryMbean "HeapMemoryUsage").get name).number.isSome = true

/-- the inputs as claimed: the `starting` field for H-01 too, and numbers for H-04 -/
def ClaimedInput (ctx : HealthContext) : String → Prop
  | "H-01" => InfoStarted ctx
  | "H-04" => HeapNumber ctx "used" ∧ HeapNumber ctx "max"
  | testId => InputPresent ctx testId

/-- the counter carried forward is no test's input -/
theorem inputPresent_prepare (engine : HealthEngine) (ctx : HealthContext) (testId : String) :
    InputPresent (engine.prepare ctx) testId ↔ InputPresent ctx testId := Iff.rfl

/-- the result of an active test is among the results -/
theorem result_mem {engine : HealthEngine} {ctx : HealthContext} {now : ℚ} {stale : Bool} {overrides : Value}
    {t : String × (HealthContext → Except PyError HealthResult)} (ht : t ∈ engine.activeTests overrides) :
    evaluateTest (engine.prepare ctx) stale t ∈ (engine.evaluate ctx now stale overrides).1.results :=
  List.mem_map_of_mem ht

/-- **GOOD is never the default.** A GOOD roll-up is on current data, is enabled, has a test, and each enabled test said
GOOD with its input present. -/
theorem never_default (engine : HealthEngine) (ctx : HealthContext) (now : ℚ) (stale : Bool) (overrides : Value) :
    GoodEarned engine ctx now stale overrides InputPresent := by
  intro h
  obtain ⟨hrollup, hactive, hcurrent, hall⟩ := rollup_good h
  refine ⟨hcurrent, hrollup, ?_, ?_⟩
  · intro hnil
    exact hactive (List.map_eq_nil_iff.1 hnil)
  · intro testId hid
    obtain ⟨t, ht, rfl⟩ := List.mem_map.1 hid
    have hcatalogue : t ∈ allTests := List.mem_of_mem_filter ht
    obtain ⟨result, hresult, hgood⟩ := hall t ht
    refine ⟨⟨_, result_mem ht, Monitor.evaluateTest_id hcatalogue, ?_⟩, ?_⟩
    · unfold evaluateTest
      rw [hresult, hcurrent]
      simpa [guardResult] using hgood
    · have hverdict := verdict hcatalogue hresult
      exact (inputPresent_prepare engine ctx t.1).1 (hverdict.good hgood)

namespace Sample

def off : Value := .dict [("enabled", .bool false)]

/-- every test but one switched off -/
def only (testId : String) : Value :=
  .dict (((allTests.map (·.1)).filter fun id => id ≠ testId).map fun id => (id, off))

def engine : HealthEngine := ⟨false, fun _ => none⟩

def context (info jmx : Option (Collector.Snapshot Value)) : HealthContext :=
  ⟨"prod-a", 2, .dict [], info, jmx, none, true, none, none⟩

/-- `/v1/info` without a `starting` field -/
def noStarting : HealthContext := context (some ⟨"prod-a", 0, .dict [("info", .dict [])], none, none⟩) none

/-- `/v1/info` says that the coordinator has started -/
def started : HealthContext :=
  context (some ⟨"prod-a", 0, .dict [("info", .dict [("starting", .bool false)])], none, none⟩) none

/-- a heap reading of booleans -/
def booleanHeap : HealthContext :=
  context none (some ⟨"prod-a", 0, .dict [("mbeans", .dict [(memoryMbean, .dict [("HeapMemoryUsage",
    .dict [("used", .bool false), ("max", .bool true)])])])], none, none⟩)

end Sample

theorem never_default_started :
    Earned Sample.engine Sample.started 0 false (Sample.only "H-02") InputPresent :=
  never_default Sample.engine Sample.started 0 false (Sample.only "H-02") (by decide +kernel)

/-- **Not as claimed.** H-01 alone is GOOD without a `starting` field, and H-04 alone on a heap reading of booleans. -/
theorem claimed_fails :
    ¬GoodEarned Sample.engine Sample.noStarting 0 false (Sample.only "H-01") ClaimedInput ∧
    ¬GoodEarned Sample.engine Sample.booleanHeap 0 false (Sample.only "H-04") ClaimedInput := by
  constructor
  · intro h
    obtain ⟨-, hstarted⟩ := (h (by decide +kernel)).every_test "H-01" (by decide +kernel)
    obtain ⟨info, hinfo, -, hfield, -⟩ : InfoStarted Sample.noStarting := hstarted
    obtain rfl := Option.some.inj hinfo
    exact absurd hfield (by decide)
  · intro h
    obtain ⟨-, hused, -⟩ := (h (by decide +kernel)).every_test "H-04" (by decide +kernel)
    exact absurd hused (by unfold HeapNumber; decide)

end TrinoManagement.Health.HealthEngine
