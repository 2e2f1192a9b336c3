/-
Debounced transitions, `HealthEngine.confirm_transitions`, and the monitor the collector runs: one evaluation after
another, the engine remembering the last kill counters, the confirmed states and the candidates between them.

- `confirm_memory`, `confirm_event`: one result moves the memory of its own test as `Debounce.step` does, and reports a
  change of a confirmed state.
- `confirmAll_memory`, `confirmAll_events`: so does a whole evaluation, test by test.
- `after_memory`: after any run the memory of a test is that of `Debounce.run` on the states it evaluated to.
-/
import Mathlib.Tactic
import TrinoManagement.Core.Debounce
import TrinoManagement.Health.Engine
import TrinoManagement.Health.Verdicts

namespace TrinoManagement.Health

/-- a recorded transition -/
structure TransitionEvent where
  cluster : String
  testId : String
  fromState : State
  toState : State
  observedValue : Value
  threshold : Value
  advice : String
deriving DecidableEq

/-- what the engine remembers of transitions, by `_key` -/
structure Transitions where
  stabilizationPolls : ℕ
  confirmed : String → Option State
  pending : String → Option (State × ℕ)

namespace Transitions

/-- `_key` -/
def key (cluster testId : String) : String := cluster ++ "::" ++ testId

/-- a fresh engine: `max(1, stabilization_polls)` -/
def new (stabilizationPolls : ℕ) : Transitions := ⟨max 1 stabilizationPolls, fun _ => none, fun _ => none⟩

/-- `confirmed_state` -/
def confirmedState (t : Transitions) (cluster testId : String) : Option State := t.confirmed (key cluster testId)

/-- one result of `confirm_transitions`: the event, if it makes one, and the memory after it -/
def confirm (t : Transitions) (cluster : String) (result : HealthResult) : Option TransitionEvent × Transitions :=
  let k := key cluster result.testId
  let confirmed := t.confirmed k
  if confirmed = some result.state then (none, { t with pending := Function.update t.pending k none })
  else match t.pending k with
    | none => (none, { t with pending := Function.update t.pending k (some (result.state, 1)) })
    | some (candidate, count) =>
      if candidate ≠ result.state then (none, { t with pending := Function.update t.pending k (some (result.state, 1)) })
      else if count + 1 < t.stabilizationPolls then
        (none, { t with pending := Function.update t.pending k (some (candidate, count + 1)) })
      else
        -- the first confirmed state is a baseline, not a transition
        (confirmed.map fun before =>
            ⟨cluster, result.testId, before, result.state, result.observedValue, result.threshold, result.advice⟩,
          { t with
            pending := Function.update t.pending k none
            confirmed := Function.update t.confirmed k (some result.state) })

/-- the results of one evaluation, one after another -/
def confirmAll (cluster : String) : Transitions → List HealthResult → List TransitionEvent × Transitions
  | t, [] => ([], t)
  | t, result :: rest =>
    ((t.confirm cluster result).1.toList ++ (confirmAll cluster (t.confirm cluster result).2 rest).1,
      (confirmAll cluster (t.confirm cluster result).2 rest).2)

def confirmTransitions (t : Transitions) (health : ClusterHealth) : List TransitionEvent × Transitions :=
  confirmAll health.cluster t health.results

/-- what is remembered under one key -/
def memory (t : Transitions) (k : String) : Debounce.Memory State := ⟨t.confirmed k, t.pending k⟩

/-! ## One result -/

section Confirm

variable {t : Transitions} {cluster : String} {result : HealthResult}

theorem key_injective {cluster testId testId' : String} (h : key cluster testId = key cluster testId') : testId = testId' := by
  have hlist := congrArg String.toList h
  simp only [key, String.toList_append, List.append_cancel_left_eq] at hlist
  exact String.toList_inj.1 hlist

/-- ids of one length keep clusters apart -/
theorem key_cluster {cluster cluster' testId testId' : String} (hlen : testId.length = testId'.length)
    (h : key cluster testId = key cluster' testId') : cluster = cluster' := by
  have hlist := congrArg String.toList h
  simp only [key, String.toList_append] at hlist
  have hids := List.append_inj' hlist (by rw [String.length_toList, String.length_toList, hlen])
  exact String.toList_inj.1 (List.append_cancel_right hids.1)

@[simp] theorem confirm_polls : (t.confirm cluster result).2.stabilizationPolls = t.stabilizationPolls := by
  unfold confirm
  dsimp only
  split_ifs
  · rfl
  · split
    · rfl
    · split_ifs <;> rfl

/-- **One result** moves the memory of its own test as a debouncer does. -/
theorem confirm_memory : (t.confirm cluster result).2.memory (key cluster result.testId) =
    Debounce.step t.stabilizationPolls (t.memory (key cluster result.testId)) result.state := by
  unfold confirm Debounce.step memory
  dsimp only
  split_ifs with hsame
  · simp
  · cases t.pending (key cluster result.testId) with
    | none => simp
    | some pair =>
      obtain ⟨candidate, count⟩ := pair
      dsimp only
      split_ifs <;> simp

/-- ... and leaves the others alone -/
theorem confirm_memory_of_ne {k : String} (h : k ≠ key cluster result.testId) :
    (t.confirm cluster result).2.memory k = t.memory k := by
  unfold confirm memory
  dsimp only
  split_ifs
  · simp [h]
  · cases t.pending (key cluster result.testId) with
    | none => simp [h]
    | some pair =>
      obtain ⟨candidate, count⟩ := pair
      dsimp only
      split_ifs <;> simp [h]

/-- an event is made when a confirmed state changes, and says from what to what -/
theorem confirm_event {e : TransitionEvent} : (t.confirm cluster result).1 = some e ↔
    (t.confirm cluster result).2.confirmedState cluster result.testId ≠ t.confirmedState cluster result.testId ∧
    ∃ before, t.confirmedState cluster result.testId = some before ∧
      e = ⟨cluster, result.testId, before, result.state, result.observedValue, result.threshold, result.advice⟩ := by
  unfold confirm confirmedState
  dsimp only
  split_ifs with hsame
  · simp
  · cases t.pending (key cluster result.testId) with
    | none => simp
    | some pair =>
      obtain ⟨candidate, count⟩ := pair
      dsimp only
      split_ifs
      · simp
      · simp
      · have hchanged : some result.state ≠ t.confirmed (key cluster result.testId) := fun h => hsame h.symm
        simp [hchanged, eq_comm]

end Confirm

/-! ## One evaluation -/

section ConfirmAll

variable {t : Transitions} {cluster : String} {results : List HealthResult}

@[simp] theorem confirmAll_polls : (confirmAll cluster t results).2.stabilizationPolls = t.stabilizationPolls := by
  induction results generalizing t with
  | nil => rfl
  | cons result rest ih =>
    rw [confirmAll, ih]
    exact confirm_polls

/-- a key no result has keeps its memory -/
theorem confirmAll_memory_of_ne {k : String} (h : ∀ result ∈ results, k ≠ key cluster result.testId) :
    (confirmAll cluster t results).2.memory k = t.memory k := by
  induction results generalizing t with
  | nil => rfl
  | cons result rest ih =>
    rw [confirmAll]
    dsimp only
    rw [ih fun r hr => h r (List.mem_cons_of_mem _ hr)]
    exact confirm_memory_of_ne (h result List.mem_cons_self)

/-- each event is of its evaluation's cluster and of a test that was evaluated -/
theorem confirmAll_event_of_mem {e : TransitionEvent} (h : e ∈ (confirmAll cluster t results).1) :
    e.cluster = cluster ∧ ∃ result ∈ results, e.testId = result.testId := by
  induction results generalizing t with
  | nil => cases h
  | cons result rest ih =>
    rw [confirmAll] at h
    rcases List.mem_append.1 h with h | h
    · obtain ⟨-, before, -, rfl⟩ := confirm_event.1 (Option.mem_toList.1 h)
      exact ⟨rfl, result, List.mem_cons_self, rfl⟩
    · obtain ⟨hc, r, hr, hid⟩ := ih h
      exact ⟨hc, r, List.mem_cons_of_mem _ hr, hid⟩

/-- the ids after the first are other ones -/
theorem ids_cons {first : HealthResult} (h : ((first :: results).map (·.testId)).Nodup) :
    (∀ r ∈ results, r.testId ≠ first.testId) ∧ (results.map (·.testId)).Nodup := by
  obtain ⟨hfirst, hrest⟩ := List.nodup_cons.1 h
  exact ⟨fun r hr heq => hfirst (List.mem_map.2 ⟨r, hr, heq⟩), hrest⟩

/-- **One evaluation** moves the memory of each test it evaluates by that one result. -/
theorem confirmAll_memory (hnodup : (results.map (·.testId)).Nodup) {result : HealthResult} (hmem : result ∈ results) :
    (confirmAll cluster t results).2.memory (key cluster result.testId) =
      Debounce.step t.stabilizationPolls (t.memory (key cluster result.testId)) result.state := by
  induction results generalizing t with
  | nil => cases hmem
  | cons first rest ih =>
    obtain ⟨hlater, hrest⟩ := ids_cons hnodup
    rw [confirmAll]
    rcases List.mem_cons.1 hmem with rfl | hmem
    · dsimp only
      rw [confirmAll_memory_of_ne]
      · exact confirm_memory
      · intro r hr hkey
        exact hlater r hr (key_injective hkey).symm
    · dsimp only
      have hne : key cluster result.testId ≠ key cluster first.testId := by
        intro hkey
        exact hlater result hmem (key_injective hkey)
      rw [ih hrest hmem, confirm_polls, confirm_memory_of_ne hne]

/-- ... and reports it when a confirmed state changed -/
theorem confirmAll_events (hnodup : (results.map (·.testId)).Nodup) {result : HealthResult} (hmem : result ∈ results) :
    (∃ e ∈ (confirmAll cluster t results).1, e.testId = result.testId) ↔
      (confirmAll cluster t results).2.confirmedState cluster result.testId ≠ t.confirmedState cluster result.testId ∧
      t.confirmedState cluster result.testId ≠ none := by
  induction results generalizing t with
  | nil => cases hmem
  | cons first rest ih =>
    obtain ⟨hlater, hrest⟩ := ids_cons hnodup
    rw [confirmAll]
    dsimp only
    rcases List.mem_cons.1 hmem with rfl | hmem
    · -- the others neither report nor touch this test
      have hkept : (confirmAll cluster (t.confirm cluster result).2 rest).2.confirmedState cluster result.testId =
          (t.confirm cluster result).2.confirmedState cluster result.testId := by
        refine congrArg Debounce.Memory.confirmed (confirmAll_memory_of_ne ?_)
        intro r hr hkey
        exact hlater r hr (key_injective hkey).symm
      rw [hkept]
      constructor
      · intro hfound
        obtain ⟨e, he, hid⟩ := hfound
        rcases List.mem_append.1 he with he | he
        · obtain ⟨hchanged, before, hbefore, -⟩ := confirm_event.1 (Option.mem_toList.1 he)
          exact ⟨hchanged, by rw [hbefore]; exact Option.some_ne_none before⟩
        · obtain ⟨-, r, hr, hr'⟩ := confirmAll_event_of_mem he
          exact absurd (hr'.symm.trans hid) (hlater r hr)
      · intro hfound
        obtain ⟨hchanged, hsome⟩ := hfound
        obtain ⟨before, hbefore⟩ := Option.ne_none_iff_exists'.1 hsome
        refine ⟨_, List.mem_append_left _ (Option.mem_toList.2 (confirm_event.2 ⟨hchanged, before, hbefore, rfl⟩)), rfl⟩
    · have hne : first.testId ≠ result.testId := fun heq => hlater result hmem heq.symm
      have hkept : (t.confirm cluster first).2.confirmedState cluster result.testId =
          t.confirmedState cluster result.testId := by
        refine congrArg Debounce.Memory.confirmed (confirm_memory_of_ne ?_)
        intro hkey
        exact hne (key_injective hkey).symm
      have h := ih (t := (t.confirm cluster first).2) hrest hmem
      rw [hkept] at h
      rw [← h]
      constructor
      · intro hfound
        obtain ⟨e, he, hid⟩ := hfound
        rcases List.mem_append.1 he with he | he
        · obtain ⟨-, before, -, rfl⟩ := confirm_event.1 (Option.mem_toList.1 he)
          exact absurd hid hne
        · exact ⟨e, he, hid⟩
      · intro hfound
        obtain ⟨e, he, hid⟩ := hfound
        exact ⟨e, List.mem_append_right _ he, hid⟩

end ConfirmAll

end Transitions

/-! ## The monitor -/

/-- what the collector hands to one evaluation -/
structure Reading where
  ctx : HealthContext
  now : ℚ
  stale : Bool
  overrides : Value

/-- the engine, with everything it remembers -/
structure Monitor where
  engine : HealthEngine
  transitions : Transitions

namespace Monitor

def new (stabilizationPolls : ℕ) (gatewayEnabled : Bool) : Monitor :=
  ⟨⟨gatewayEnabled, fun _ => none⟩, Transitions.new stabilizationPolls⟩

def evaluation (m : Monitor) (r : Reading) : ClusterHealth := (m.engine.evaluate r.ctx r.now r.stale r.overrides).1

/-- one evaluation: the events it reports, and the monitor after it -/
def read (m : Monitor) (r : Reading) : List TransitionEvent × Monitor :=
  ((m.transitions.confirmTransitions (m.evaluation r)).1,
    ⟨(m.engine.evaluate r.ctx r.now r.stale r.overrides).2, (m.transitions.confirmTransitions (m.evaluation r)).2⟩)

/-- the monitor after the readings, newest first -/
def after (m : Monitor) : List Reading → Monitor
  | [] => m
  | r :: past => ((m.after past).read r).2

/-- the state of the test in this evaluation, if it was evaluated -/
def stateOf (cluster testId : String) (health : ClusterHealth) : Option State :=
  if health.cluster = cluster then (health.results.find? fun result => result.testId = testId).map (·.state) else none

/-- the states the test evaluated to, newest first -/
def states (m : Monitor) (cluster testId : String) : List Reading → List State
  | [] => []
  | r :: past => (stateOf cluster testId ((m.after past).evaluation r)).toList ++ m.states cluster testId past

/-! ## What an evaluation holds -/

section Evaluation

variable {m : Monitor} {r : Reading} {cluster testId : String}

theorem evaluateTest_id {ctx : HealthContext} {stale : Bool} {t : String × (HealthContext → Except PyError HealthResult)}
    (ht : t ∈ allTests) : (HealthEngine.evaluateTest ctx stale t).testId = t.1 := by
  have hguard : (HealthEngine.guardResult t.1 (t.2 ctx)).testId = t.1 := by
    cases h : t.2 ctx with
    | error e => rfl
    | ok result => exact (verdict ht h).id_eq
  have hadvice : ∀ result, (HealthEngine.checkAdvice result).testId = result.testId := by
    intro result
    unfold HealthEngine.checkAdvice
    split_ifs <;> rfl
  unfold HealthEngine.evaluateTest
  rw [hadvice]
  split_ifs
  · exact hguard
  · exact hguard

/-- the results are those of the active tests, in the order of the catalogue -/
theorem results_ids : (m.evaluation r).results.map (·.testId) = m.engine.activeTestIds r.overrides := by
  unfold evaluation HealthEngine.evaluate HealthEngine.activeTestIds
  dsimp only
  rw [List.map_map]
  apply List.map_congr_left
  intro t ht
  exact evaluateTest_id (List.mem_of_mem_filter ht)

theorem results_nodup : ((m.evaluation r).results.map (·.testId)).Nodup := by
  rw [results_ids]
  have hsub : (m.engine.activeTestIds r.overrides).Sublist (allTests.map (·.1)) := List.filter_sublist.map _
  exact hsub.nodup (by decide)

theorem results_mem {result : HealthResult} (h : result ∈ (m.evaluation r).results) :
    result.testId ∈ allTests.map (·.1) := by
  have hid : result.testId ∈ (m.evaluation r).results.map (·.testId) := List.mem_map_of_mem h
  rw [results_ids] at hid
  exact (List.filter_sublist.map _).subset hid

/-- every id of the catalogue has four characters -/
theorem length_testId (h : testId ∈ allTests.map (·.1)) : testId.length = 4 := by
  simp only [allTests, List.map_cons, List.map_nil, List.mem_cons, List.not_mem_nil, or_false] at h
  rcases h with rfl | rfl | rfl | rfl | rfl | rfl | rfl | rfl | rfl <;> rfl

/-- the test was evaluated: its state is that of its one result -/
theorem stateOf_eq_some {s : State} (h : stateOf cluster testId (m.evaluation r) = some s) :
    (m.evaluation r).cluster = cluster ∧ ∃ result ∈ (m.evaluation r).results, result.testId = testId ∧ result.state = s := by
  unfold stateOf at h
  split_ifs at h with hc
  obtain ⟨result, hfind, rfl⟩ := Option.map_eq_some_iff.1 h
  exact ⟨hc, result, List.mem_of_find?_eq_some hfind, by simpa using List.find?_some hfind, rfl⟩

/-- the test was not evaluated: no result has its key -/
theorem key_ne_of_stateOf (hid : testId ∈ allTests.map (·.1)) (h : stateOf cluster testId (m.evaluation r) = none) :
    ∀ result ∈ (m.evaluation r).results,
      Transitions.key cluster testId ≠ Transitions.key (m.evaluation r).cluster result.testId := by
  intro result hresult hkey
  have hlen : testId.length = result.testId.length := by rw [length_testId hid, length_testId (results_mem hresult)]
  have hc := Transitions.key_cluster hlen hkey
  rw [← hc] at hkey
  have hsame := Transitions.key_injective hkey
  unfold stateOf at h
  rw [if_pos hc.symm, Option.map_eq_none_iff, List.find?_eq_none] at h
  exact h result hresult (by simpa using hsame.symm)

end Evaluation

/-! ## Whole runs -/

section Runs

variable {m : Monitor} {cluster testId : String}

@[simp] theorem after_polls (past : List Reading) :
    (m.after past).transitions.stabilizationPolls = m.transitions.stabilizationPolls := by
  induction past with
  | nil => rfl
  | cons r past ih =>
    rw [after, read]
    exact (Transitions.confirmAll_polls).trans ih

/-- one evaluation of the test is one reading of its debouncer -/
theorem read_memory (hid : testId ∈ allTests.map (·.1)) (r : Reading) :
    (m.read r).2.transitions.memory (Transitions.key cluster testId) =
      match stateOf cluster testId (m.evaluation r) with
      | none => m.transitions.memory (Transitions.key cluster testId)
      | some s => Debounce.step m.transitions.stabilizationPolls (m.transitions.memory (Transitions.key cluster testId)) s := by
  cases h : stateOf cluster testId (m.evaluation r) with
  | none => exact Transitions.confirmAll_memory_of_ne (key_ne_of_stateOf hid h)
  | some s =>
    obtain ⟨hc, result, hresult, rfl, rfl⟩ := stateOf_eq_some h
    rw [← hc]
    exact Transitions.confirmAll_memory results_nodup hresult

/-- **A whole run.** What is remembered of a test is what its debouncer remembers of the states it evaluated to. -/
theorem after_memory (hid : testId ∈ allTests.map (·.1)) (polls : ℕ) (gatewayEnabled : Bool) (past : List Reading) :
    ((new polls gatewayEnabled).after past).transitions.memory (Transitions.key cluster testId) =
      Debounce.run (max 1 polls) ((new polls gatewayEnabled).states cluster testId past) := by
  induction past with
  | nil => rfl
  | cons r past ih =>
    rw [after, read_memory hid, states, after_polls, ih]
    cases stateOf cluster testId (((new polls gatewayEnabled).after past).evaluation r) with
    | none => rfl
    | some s => rfl

/-- an event of the test is reported exactly when its confirmed state changes from one to another -/
theorem read_events (hid : testId ∈ allTests.map (·.1)) (r : Reading) :
    (∃ e ∈ (m.read r).1, e.cluster = cluster ∧ e.testId = testId) ↔
      (m.read r).2.transitions.confirmedState cluster testId ≠ m.transitions.confirmedState cluster testId ∧
      m.transitions.confirmedState cluster testId ≠ none := by
  cases h : stateOf cluster testId (m.evaluation r) with
  | none =>
    have hne := key_ne_of_stateOf hid h
    have hkept : (m.read r).2.transitions.confirmedState cluster testId = m.transitions.confirmedState cluster testId :=
      congrArg Debounce.Memory.confirmed (Transitions.confirmAll_memory_of_ne hne)
    rw [hkept]
    refine ⟨?_, fun h' => absurd rfl h'.1⟩
    intro hfound
    obtain ⟨e, he, hc, hid'⟩ := hfound
    obtain ⟨hcluster, result, hresult, hresult'⟩ := Transitions.confirmAll_event_of_mem he
    refine absurd ?_ (hne result hresult)
    rw [← hcluster, ← hresult', hc, hid']
  | some s =>
    obtain ⟨hc, result, hresult, rfl, -⟩ := stateOf_eq_some h
    rw [← hc]
    refine Iff.trans ?_ (Transitions.confirmAll_events results_nodup hresult)
    constructor
    · intro hfound
      obtain ⟨e, he, -, hid'⟩ := hfound
      exact ⟨e, he, hid'⟩
    · intro hfound
      obtain ⟨e, he, hid'⟩ := hfound
      exact ⟨e, he, (Transitions.confirmAll_event_of_mem he).1, hid'⟩

end Runs

end Monitor

end TrinoManagement.Health
