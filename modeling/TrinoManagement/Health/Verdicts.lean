/-
What a verdict of the catalogue says, test by test: whose it is, and what GOOD rests on.

- `InputPresent`: what each test must have read to say GOOD.
- `verdict`: a result carries the id of its test, and GOOD comes with the test's input. One lemma per test.
-/
import Mathlib.Tactic
import TrinoManagement.Health.Tests

namespace TrinoManagement.Health

/-- an attribute read as a number is one -/
theorem number_isSome {ctx : HealthContext} {objectName name : String} {q : ℚ}
    (h : ctx.number objectName name = .ok (some q)) : (ctx.attributeOf objectName name).number.isSome := by
  unfold HealthContext.number at h
  dsimp only at h
  split at h
  · cases h
  · next hsome => rw [hsome]; rfl

/-! ## What GOOD rests on -/

section Inputs

variable (ctx : HealthContext)

/-- the attribute is there, and is a number -/
def HasNumber (objectName name : String) : Prop := (ctx.attributeOf objectName name).number.isSome = true

instance (objectName name : String) : Decidable (HasNumber ctx objectName name) := by unfold HasNumber; infer_instance

/-- `/v1/info` answered, and its answer can be trusted -/
def InfoTrusted : Prop := ∃ info ∈ ctx.info, info.trustworthy = true

/-- ... and has a `starting` field that is not true -/
def InfoStarted : Prop := ∃ info ∈ ctx.info, info.trustworthy = true ∧ (info.payload.get "info").has "starting" = true ∧
  ((info.payload.get "info").get "starting").truthy = false

/-- a field of the heap reading that passes `isinstance(v, (int, float))` -/
def HeapField (name : String) : Option ℚ := ((ctx.attributeOf memoryMbean "HeapMemoryUsage").get name).numeric

/-- the input of each test that says GOOD -/
def InputPresent : String → Prop
  | "H-01" => InfoTrusted ctx
  | "H-02" => InfoStarted ctx
  | "H-03" => HasNumber ctx nodeManagerMbean "ActiveNodeCount"
  | "H-04" => (HeapField ctx "used").isSome ∧ (HeapField ctx "max").isSome
  | "H-05" => HasNumber ctx queryManagerMbean "FailedQueries.FiveMinute.Count" ∧
      HasNumber ctx queryManagerMbean "CompletedQueries.FiveMinute.Count"
  | "H-06" => HasNumber ctx queryManagerMbean "InternalFailures.FiveMinute.Count"
  | "H-07" => HasNumber ctx clusterMemoryMbean "QueriesKilledDueToOutOfMemory"
  | "H-08" => ∃ backends ∈ ctx.gatewayBackends, ∃ entry ∈ gatewayEntry ctx backends, (entry.get "active").truthy = true
  | "H-09" => ∃ queries ∈ ctx.queries, queries.trustworthy = true
  | _ => False

end Inputs

/-- what a result of the test with this id says -/
structure Verdict (ctx : HealthContext) (testId : String) (result : HealthResult) : Prop where
  id_eq : result.testId = testId
  good : result.state = .good → InputPresent ctx testId

/-! ## Test by test -/

section Tests

variable {ctx : HealthContext} {result : HealthResult}

theorem verdict_unknown (testId name reason : String) : Verdict ctx testId (unknown testId name reason) :=
  ⟨rfl, fun h => by cases h⟩

theorem verdict_unavailable (testId name : String) : Verdict ctx testId (jmxUnavailable testId name ctx) :=
  verdict_unknown _ _ _

theorem h01_verdict (h : h01CoordinatorResponsive ctx = .ok result) : Verdict ctx "H-01" result := by
  unfold h01CoordinatorResponsive at h
  obtain rfl := Except.ok.inj h
  cases hinfo : ctx.info with
  | none => exact verdict_unknown _ _ _
  | some info =>
    by_cases htrust : info.trustworthy = false
    · simp only [htrust, if_true]
      exact ⟨rfl, fun h => by cases h⟩
    · simp only [htrust]
      exact ⟨rfl, fun _ => ⟨info, hinfo, by simpa using htrust⟩⟩

theorem h02_verdict (h : h02StartupComplete ctx = .ok result) : Verdict ctx "H-02" result := by
  unfold h02StartupComplete at h
  obtain rfl := Except.ok.inj h
  cases hinfo : ctx.info with
  | none => exact verdict_unknown _ _ _
  | some info =>
    dsimp only
    split_ifs with htrust hfield hstarting
    · exact verdict_unknown _ _ _
    · exact verdict_unknown _ _ _
    · exact ⟨rfl, fun h => by cases h⟩
    · refine ⟨rfl, fun _ => ⟨info, hinfo, ?_, ?_, ?_⟩⟩
      · simpa using htrust
      · simpa using hfield
      · simpa using hstarting

theorem h03_verdict (h : h03WorkerRegistration ctx = .ok result) : Verdict ctx "H-03" result := by
  unfold h03WorkerRegistration at h
  obtain ⟨active, hactive, h⟩ := bind_eq_ok.1 h
  cases active with
  | none =>
    obtain rfl := Except.ok.inj h
    exact verdict_unavailable _ _
  | some active =>
    obtain ⟨planned, -, h⟩ := bind_eq_ok.1 h
    obtain ⟨badPct, -, h⟩ := bind_eq_ok.1 h
    obtain ⟨share, -, h⟩ := bind_eq_ok.1 h
    have hinput : InputPresent ctx "H-03" := number_isSome hactive
    dsimp only at h
    generalize max 0 (ctx.expectedWorkers - _ - planned) = unplanned at h
    by_cases hnone : unplanned = 0
    · rw [if_pos hnone] at h
      obtain rfl := Except.ok.inj h
      exact ⟨rfl, fun _ => hinput⟩
    · rw [if_neg hnone] at h
      obtain rfl := Except.ok.inj h
      exact ⟨rfl, fun _ => hinput⟩

theorem h04_verdict (h : h04HeapUsage ctx = .ok result) : Verdict ctx "H-04" result := by
  unfold h04HeapUsage at h
  dsimp only at h
  split_ifs at h
  · obtain rfl := Except.ok.inj h
    exact verdict_unavailable _ _
  split at h
  next used maximum hused hmax =>
    have hinput : InputPresent ctx "H-04" := ⟨by rw [HeapField, hused]; rfl, by rw [HeapField, hmax]; rfl⟩
    split_ifs at h
    · obtain rfl := Except.ok.inj h
      exact verdict_unknown _ _ _
    · obtain ⟨concerning, -, h⟩ := bind_eq_ok.1 h
      obtain ⟨bad, -, h⟩ := bind_eq_ok.1 h
      obtain rfl := Except.ok.inj h
      exact ⟨rfl, fun _ => hinput⟩
  next =>
    obtain rfl := Except.ok.inj h
    exact verdict_unknown _ _ _

theorem h05_verdict (h : h05QueryFailureRate ctx = .ok result) : Verdict ctx "H-05" result := by
  unfold h05QueryFailureRate at h
  obtain ⟨failed, hfailed, h⟩ := bind_eq_ok.1 h
  obtain ⟨completed, hcompleted, h⟩ := bind_eq_ok.1 h
  split at h
  next failed completed =>
    have hinput : InputPresent ctx "H-05" := ⟨number_isSome hfailed, number_isSome hcompleted⟩
    split_ifs at h
    · obtain rfl := Except.ok.inj h
      exact verdict_unknown _ _ _
    · obtain ⟨concerning, -, h⟩ := bind_eq_ok.1 h
      obtain ⟨bad, -, h⟩ := bind_eq_ok.1 h
      obtain rfl := Except.ok.inj h
      exact ⟨rfl, fun _ => hinput⟩
  next =>
    obtain rfl := Except.ok.inj h
    exact verdict_unavailable _ _

theorem h06_verdict (h : h06InternalFailures ctx = .ok result) : Verdict ctx "H-06" result := by
  unfold h06InternalFailures at h
  obtain ⟨internal, hinternal, h⟩ := bind_eq_ok.1 h
  cases internal with
  | none =>
    obtain rfl := Except.ok.inj h
    exact verdict_unavailable _ _
  | some internal =>
    obtain ⟨concerning, -, h⟩ := bind_eq_ok.1 h
    obtain ⟨bad, -, h⟩ := bind_eq_ok.1 h
    obtain rfl := Except.ok.inj h
    exact ⟨rfl, fun _ => number_isSome hinternal⟩

theorem h07_verdict (h : h07OomKills ctx = .ok result) : Verdict ctx "H-07" result := by
  unfold h07OomKills at h
  obtain ⟨total, htotal, h⟩ := bind_eq_ok.1 h
  cases total with
  | none =>
    obtain rfl := Except.ok.inj h
    exact verdict_unavailable _ _
  | some total =>
    have hinput : InputPresent ctx "H-07" := number_isSome htotal
    dsimp only at h
    cases hprevious : ctx.previousOomKills with
    | none =>
      rw [hprevious] at h
      obtain rfl := Except.ok.inj h
      exact ⟨rfl, fun _ => hinput⟩
    | some previous =>
      rw [hprevious] at h
      obtain ⟨concerning, -, h⟩ := bind_eq_ok.1 h
      obtain ⟨bad, -, h⟩ := bind_eq_ok.1 h
      obtain rfl := Except.ok.inj h
      exact ⟨rfl, fun _ => hinput⟩

theorem h08_verdict (h : h08GatewayRegistration ctx = .ok result) : Verdict ctx "H-08" result := by
  unfold h08GatewayRegistration at h
  obtain rfl := Except.ok.inj h
  cases hb : ctx.gatewayBackends with
  | none => exact verdict_unknown _ _ _
  | some backends =>
    dsimp only
    cases hentry : gatewayEntry ctx backends with
    | none => exact ⟨rfl, fun h => by cases h⟩
    | some entry =>
      dsimp only
      split_ifs with hactive
      · exact ⟨rfl, fun h => by cases h⟩
      · exact ⟨rfl, fun _ => ⟨backends, hb, entry, hentry, by simpa using hactive⟩⟩

theorem h09_verdict (h : h09PermissionSelfCheck ctx = .ok result) : Verdict ctx "H-09" result := by
  unfold h09PermissionSelfCheck at h
  obtain rfl := Except.ok.inj h
  cases hq : ctx.queries with
  | none => exact verdict_unknown _ _ _
  | some queries =>
    dsimp only
    split_ifs with htrust
    · exact ⟨rfl, fun _ => ⟨queries, hq, htrust⟩⟩
    · exact ⟨rfl, fun h => by cases h⟩

/-- **GOOD rests on an input.** A result of the catalogue is its test's own, and GOOD comes with the test's input. -/
theorem verdict {t : String × (HealthContext → Except PyError HealthResult)} (ht : t ∈ allTests)
    (h : t.2 ctx = .ok result) : Verdict ctx t.1 result := by
  simp only [allTests, List.mem_cons, List.not_mem_nil, or_false] at ht
  rcases ht with rfl | rfl | rfl | rfl | rfl | rfl | rfl | rfl | rfl
  · exact h01_verdict h
  · exact h02_verdict h
  · exact h03_verdict h
  · exact h04_verdict h
  · exact h05_verdict h
  · exact h06_verdict h
  · exact h07_verdict h
  · exact h08_verdict h
  · exact h09_verdict h

end Tests

end TrinoManagement.Health
