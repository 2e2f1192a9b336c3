/-
Debounced transitions: a test's confirmed state should change exactly when `stabilization_polls` evaluations in a row agree
on another one, and an event should be reported exactly when it changes from a confirmed one.

- `debounced_iff`: over a run this holds exactly with two polls or more, or when the test is never evaluated. A new
  candidate is written down with a count of one and not compared with the setting, so that one poll acts as two.
- `debounced_one_poll`: with one poll the first evaluation of a test already fails to confirm its state.
-/
import Mathlib.Tactic
import TrinoManagement.Health.Transitions

namespace TrinoManagement.Health.Monitor

/-! ## What is claimed -/

/-- the evaluation `r` completes `polls` evaluations of the test that agree on a state other than the confirmed one -/
def CompletesAt (m : Monitor) (polls : ℕ) (cluster testId : String) (past : List Reading) (r : Reading) : Prop :=
  ∃ s ∈ stateOf cluster testId ((m.after past).evaluation r),
    Debounce.Completes polls ((m.after past).transitions.confirmedState cluster testId) s (m.states cluster testId past)

/-- the confirmed state of the test changes at the evaluation `r` -/
def ChangesAt (m : Monitor) (cluster testId : String) (past : List Reading) (r : Reading) : Prop :=
  (m.after (r :: past)).transitions.confirmedState cluster testId ≠ (m.after past).transitions.confirmedState cluster testId

/-- the evaluation `r` reports a transition of the test -/
def ReportsAt (m : Monitor) (cluster testId : String) (past : List Reading) (r : Reading) : Prop :=
  ∃ e ∈ ((m.after past).read r).1, e.cluster = cluster ∧ e.testId = testId

/-- one evaluation is debounced exactly -/
def ExactAt (m : Monitor) (polls : ℕ) (cluster testId : String) (past : List Reading) (r : Reading) : Prop :=
  (m.ChangesAt cluster testId past r ↔ m.CompletesAt polls cluster testId past r) ∧
  (m.ReportsAt cluster testId past r ↔
    m.ChangesAt cluster testId past r ∧ (m.after past).transitions.confirmedState cluster testId ≠ none)

/-- ... and so is each of a run, newest first -/
def Debounced (m : Monitor) (polls : ℕ) (cluster testId : String) : List Reading → Prop
  | [] => True
  | r :: past => m.Debounced polls cluster testId past ∧ m.ExactAt polls cluster testId past r

/-! ## What the code does -/

section Steps

variable {polls : ℕ} {gatewayEnabled : Bool} {cluster testId : String}

/-- **Two polls at least.** The confirmed state changes exactly when `max polls 2` evaluations agree. -/
theorem changesAt_iff (hid : testId ∈ allTests.map (·.1)) (past : List Reading) (r : Reading) :
    (new polls gatewayEnabled).ChangesAt cluster testId past r ↔
      (new polls gatewayEnabled).CompletesAt (max polls 2) cluster testId past r := by
  have hrun := @after_memory cluster testId hid polls gatewayEnabled past
  have hholds := Debounce.holds_run (max 1 polls) ((new polls gatewayEnabled).states cluster testId past)
  rw [← hrun] at hholds
  have hread := @read_memory ((new polls gatewayEnabled).after past) cluster testId hid r
  have hpolls : max (max 1 polls) 2 = max polls 2 := by omega
  unfold ChangesAt CompletesAt
  change (((new polls gatewayEnabled).after past).read r).2.transitions.confirmedState cluster testId ≠ _ ↔ _
  cases hs : stateOf cluster testId (((new polls gatewayEnabled).after past).evaluation r) with
  | none =>
    rw [hs] at hread
    have hkept := congrArg Debounce.Memory.confirmed hread
    constructor
    · intro hchanged
      exact absurd hkept hchanged
    · intro hfound
      obtain ⟨s, hs', -⟩ := hfound
      cases hs'
  | some s =>
    rw [hs] at hread
    dsimp only at hread
    have hstep := Debounce.confirmed_changes hholds s
    rw [hpolls] at hstep
    rw [after_polls] at hread
    have hnext := congrArg Debounce.Memory.confirmed hread
    constructor
    · intro hchanged
      refine ⟨s, rfl, hstep.1 ?_⟩
      intro heq
      exact hchanged (hnext.trans heq)
    · intro hfound
      obtain ⟨s', hs', hcompletes⟩ := hfound
      obtain rfl := Option.some.inj hs'
      intro heq
      exact hstep.2 hcompletes (hnext.symm.trans heq)

/-- events are never wrong about the change -/
theorem reportsAt_iff (hid : testId ∈ allTests.map (·.1)) (m : Monitor) (past : List Reading) (r : Reading) :
    m.ReportsAt cluster testId past r ↔
      m.ChangesAt cluster testId past r ∧ (m.after past).transitions.confirmedState cluster testId ≠ none :=
  read_events hid r

/-- with one poll, or none, the first state a test evaluates to is not confirmed -/
theorem not_exactAt_first (hid : testId ∈ allTests.map (·.1)) (hpolls : polls < 2) {past : List Reading} {r : Reading}
    (hnone : (new polls gatewayEnabled).states cluster testId past = []) {s : State}
    (hs : stateOf cluster testId (((new polls gatewayEnabled).after past).evaluation r) = some s) :
    ¬(new polls gatewayEnabled).ExactAt polls cluster testId past r := by
  intro hexact
  have hrun := @after_memory cluster testId hid polls gatewayEnabled past
  rw [hnone] at hrun
  have hfresh : ((new polls gatewayEnabled).after past).transitions.confirmedState cluster testId = none :=
    congrArg Debounce.Memory.confirmed hrun
  have hcompletes : (new polls gatewayEnabled).CompletesAt polls cluster testId past r := by
    refine ⟨s, hs, Debounce.completes_iff.2 ⟨?_, ?_⟩⟩
    · rw [hfresh]
      exact fun h => by cases h
    · rw [hnone]
      have hzero : Debounce.streak s [] = 0 := rfl
      omega
  obtain ⟨s', -, hlong⟩ := (changesAt_iff hid past r).1 (hexact.1.2 hcompletes)
  have hstreak := (Debounce.completes_iff.1 hlong).2
  rw [hnone] at hstreak
  have hzero : Debounce.streak s' [] = 0 := rfl
  omega

end Steps

/-! ## Whole runs -/

/-- **Debounced from two polls on.** Every evaluation of a run is debounced exactly if and only if the setting asks for two
polls or more, or the run never evaluates the test. -/
theorem debounced_iff (polls : ℕ) (gatewayEnabled : Bool) (cluster : String) {testId : String}
    (hid : testId ∈ allTests.map (·.1)) (readings : List Reading) :
    (new polls gatewayEnabled).Debounced polls cluster testId readings ↔
      2 ≤ polls ∨ (new polls gatewayEnabled).states cluster testId readings = [] := by
  induction readings with
  | nil => simp [Debounced, states]
  | cons r past ih =>
    unfold Debounced
    rw [ih]
    by_cases htwo : 2 ≤ polls
    · have hmax : max polls 2 = polls := by omega
      have hchanges := @changesAt_iff polls gatewayEnabled cluster testId hid past r
      rw [hmax] at hchanges
      have hexact : (new polls gatewayEnabled).ExactAt polls cluster testId past r :=
        ⟨hchanges, reportsAt_iff hid _ past r⟩
      simp [htwo, hexact]
    · simp only [htwo, false_or, states, List.append_eq_nil_iff, Option.toList_eq_nil_iff]
      constructor
      · intro hfound
        obtain ⟨hnone, hexact⟩ := hfound
        refine ⟨?_, hnone⟩
        cases hs : stateOf cluster testId (((new polls gatewayEnabled).after past).evaluation r) with
        | none => rfl
        | some s => exact absurd hexact (not_exactAt_first hid (by omega) hnone hs)
      · intro hfound
        obtain ⟨hs, hnone⟩ := hfound
        refine ⟨hnone, ?_, reportsAt_iff hid _ past r⟩
        rw [changesAt_iff hid]
        -- an evaluation without the test completes nothing
        constructor
        · intro hfound
          obtain ⟨s, hs', -⟩ := hfound
          rw [hs] at hs'
          cases hs'
        · intro hfound
          obtain ⟨s, hs', -⟩ := hfound
          rw [hs] at hs'
          cases hs'

namespace Sample

/-- a coordinator that was never read -/
def reading : Reading := ⟨⟨"prod-a", 2, .dict [], none, none, none, true, none, none⟩, 0, false, .dict []⟩

end Sample

theorem debounced_two : (new 2 false).Debounced 2 "prod-a" "H-01" [Sample.reading, Sample.reading] :=
  (debounced_iff 2 false "prod-a" (by decide) [Sample.reading, Sample.reading]).2 (.inl (by decide))

/-- **One poll acts as two.** `stabilization_polls: 1` does not confirm the first evaluation. -/
theorem debounced_one_poll : ¬(new 1 false).Debounced 1 "prod-a" "H-01" [Sample.reading] := by
  intro hfound
  obtain ⟨-, hchanges, -⟩ := hfound
  have hcompletes : (new 1 false).CompletesAt 1 "prod-a" "H-01" [] Sample.reading := 
    ⟨.unknown, by decide +kernel, by decide +kernel⟩
  have hkept : (new 1 false).ChangesAt "prod-a" "H-01" [] Sample.reading → False := fun h => h (by decide +kernel)
  exact hkept (hchanges.2 hcompletes)

end TrinoManagement.Health.Monitor
