/-
The history of a health test: what the recorded transitions of one test say, over every sequence of evaluations of any
clusters, failed writes and restarts of the collector.

The engine reports a transition when a confirmed state changes, and nothing for the first state it confirms. What it
remembers is lost with the process; what is recorded is not. The transitions of an evaluation are inserted one by one, and what
was inserted before a failure stays.
- `confirm_follows`, `read_follows`: one result, one evaluation.
- `health_history`: since the collector was started, the reported transitions of a test lead from one state to the next, up
  to the state that is confirmed, and each is a change; what is recorded stays recorded, and all of them are if no insert failed.
-/
import Mathlib.Tactic
import TrinoManagement.Core.Journal
import TrinoManagement.Core.Run
import TrinoManagement.Health.Transitions

namespace TrinoManagement.Health

open TrinoManagement.Journal (Accounts Entry Follows follows_refl)
open TrinoManagement.Run (Meets run run_inv)

/-! ## One evaluation -/

def TransitionEvent.entry (e : TransitionEvent) : Entry State := ⟨e.fromState, e.toState⟩

/-- the transitions of one test -/
def transitionsOf (cluster testId : String) (events : List TransitionEvent) : List (Entry State) :=
  (events.filter fun e => e.cluster = cluster ∧ e.testId = testId).map TransitionEvent.entry

theorem transitionsOf_append (cluster testId : String) (events events' : List TransitionEvent) :
    transitionsOf cluster testId (events ++ events') = transitionsOf cluster testId events ++ transitionsOf cluster testId events' := by
  simp [transitionsOf]

section Follow

variable {t : Transitions} {cluster testId : String} {result : HealthResult}

/-- a confirmed state stays, or becomes that of the result -/
theorem confirm_state : (t.confirm cluster result).2.confirmedState cluster result.testId = t.confirmedState cluster result.testId ∨
    (t.confirm cluster result).2.confirmedState cluster result.testId = some result.state := by
  unfold Transitions.confirm Transitions.confirmedState
  dsimp only
  split_ifs
  · exact .inl rfl
  · split
    · exact .inl rfl
    · split_ifs
      · exact .inl rfl
      · exact .inl rfl
      · exact .inr (Function.update_self _ _ _)

/-- one result of the test: its state stays, is known for the first time, or changes and is reported -/
theorem confirm_follows : Follows (t.confirmedState cluster result.testId)
    (transitionsOf cluster result.testId (t.confirm cluster result).1.toList)
    ((t.confirm cluster result).2.confirmedState cluster result.testId) := by
  cases hevent : (t.confirm cluster result).1 with
  | some e =>
    obtain ⟨hchanged, before, hbefore, rfl⟩ := Transitions.confirm_event.1 hevent
    have hafter := confirm_state.resolve_left hchanged
    rw [hbefore, hafter]
    refine ⟨result.state, rfl, ?_⟩
    simp [transitionsOf, TransitionEvent.entry]
  | none =>
    by_cases hsame : (t.confirm cluster result).2.confirmedState cluster result.testId = t.confirmedState cluster result.testId
    · rw [hsame]
      exact follows_refl _
    · have hnone : t.confirmedState cluster result.testId = none := by
        by_contra hsome
        obtain ⟨before, hbefore⟩ := Option.ne_none_iff_exists'.1 hsome
        rw [Transitions.confirm_event.2 ⟨hsame, before, hbefore, rfl⟩] at hevent
        cases hevent
      rw [hnone, confirm_state.resolve_left hsame]
      exact .inr ⟨result.state, result.state, rfl, .nil⟩

/-- a result of another test says nothing of this one -/
theorem confirm_follows_of_ne (h : testId ≠ result.testId) : Follows (t.confirmedState cluster testId)
    (transitionsOf cluster testId (t.confirm cluster result).1.toList)
    ((t.confirm cluster result).2.confirmedState cluster testId) := by
  have hkept : (t.confirm cluster result).2.confirmedState cluster testId = t.confirmedState cluster testId :=
    congrArg Debounce.Memory.confirmed (Transitions.confirm_memory_of_ne fun hkey => h (Transitions.key_injective hkey))
  have hnone : transitionsOf cluster testId (t.confirm cluster result).1.toList = [] := by
    unfold transitionsOf
    rw [List.map_eq_nil_iff, List.filter_eq_nil_iff]
    intro e he hof
    obtain ⟨-, before, -, rfl⟩ := Transitions.confirm_event.1 (Option.mem_toList.1 he)
    exact h (of_decide_eq_true hof).2.symm
  rw [hkept, hnone]
  exact follows_refl _

theorem confirmAll_follows (results : List HealthResult) : Follows (t.confirmedState cluster testId)
    (transitionsOf cluster testId (t.confirmAll cluster results).1)
    ((t.confirmAll cluster results).2.confirmedState cluster testId) := by
  induction results generalizing t with
  | nil => exact follows_refl _
  | cons result rest ih =>
    rw [Transitions.confirmAll, transitionsOf_append]
    refine Journal.Follows.trans ?_ ih
    by_cases h : testId = result.testId
    · subst h
      exact confirm_follows
    · exact confirm_follows_of_ne h

/-- an evaluation of another cluster says nothing of this one -/
theorem confirmAll_follows_of_ne {other : String} (h : cluster ≠ other) {results : List HealthResult}
    (hid : testId ∈ allTests.map (·.1)) (hids : ∀ r ∈ results, r.testId ∈ allTests.map (·.1)) :
    Follows (t.confirmedState cluster testId) (transitionsOf cluster testId (t.confirmAll other results).1)
      ((t.confirmAll other results).2.confirmedState cluster testId) := by
  have hkept : (t.confirmAll other results).2.confirmedState cluster testId = t.confirmedState cluster testId := by
    refine congrArg Debounce.Memory.confirmed (Transitions.confirmAll_memory_of_ne fun r hr hkey => h ?_)
    refine Transitions.key_cluster ?_ hkey
    rw [Monitor.length_testId hid, Monitor.length_testId (hids r hr)]
  have hnone : transitionsOf cluster testId (t.confirmAll other results).1 = [] := by
    unfold transitionsOf
    rw [List.map_eq_nil_iff, List.filter_eq_nil_iff]
    intro e he hof
    obtain ⟨hcluster, -⟩ := Transitions.confirmAll_event_of_mem he
    exact h ((of_decide_eq_true hof).1.symm.trans hcluster)
  rw [hkept, hnone]
  exact follows_refl _

/-- a reported transition is a change -/
theorem confirmAll_changes (results : List HealthResult) :
    ∀ e ∈ (t.confirmAll cluster results).1, e.fromState ≠ e.toState := by
  induction results generalizing t with
  | nil => simp [Transitions.confirmAll]
  | cons result rest ih =>
    intro e he
    rw [Transitions.confirmAll] at he
    rcases List.mem_append.1 he with he | he
    · obtain ⟨hchanged, before, hbefore, rfl⟩ := Transitions.confirm_event.1 (Option.mem_toList.1 he)
      intro heq
      dsimp only at heq
      rw [confirm_state.resolve_left hchanged, hbefore, heq] at hchanged
      exact hchanged rfl
    · exact ih e he

end Follow

section Read

variable {m : Monitor} {cluster testId : String}

/-- **One evaluation**, of whatever cluster. -/
theorem read_follows (hid : testId ∈ allTests.map (·.1)) (r : Reading) :
    Follows (m.transitions.confirmedState cluster testId) (transitionsOf cluster testId (m.read r).1)
      ((m.read r).2.transitions.confirmedState cluster testId) := by
  by_cases h : cluster = (m.evaluation r).cluster
  · subst h
    exact confirmAll_follows _
  · exact confirmAll_follows_of_ne h hid fun result hresult => Monitor.results_mem hresult

end Read

/-! ## The collector -/

/-- the engine of the running process and what it reported, and what is stored of all processes -/
structure Record where
  monitor : Monitor
  reported : List TransitionEvent
  stored : List TransitionEvent

/-- an evaluation, with how many of its inserts take effect, or a restart -/
inductive Step where
  | evaluate (r : Reading) (inserted : ℕ)
  | restart

section Runs

variable (polls : ℕ) (gatewayEnabled : Bool)

/-- `HealthWriter.evaluate`, as far as transitions go; a collector begins with a fresh engine -/
def Record.step (h : Record) : Step → Record
  | .evaluate r inserted =>
    ⟨(h.monitor.read r).2, h.reported ++ (h.monitor.read r).1, h.stored ++ (h.monitor.read r).1.take inserted⟩
  | .restart => ⟨Monitor.new polls gatewayEnabled, [], h.stored⟩

def Record.start (stored : List TransitionEvent) : Record := ⟨Monitor.new polls gatewayEnabled, [], stored⟩

/-- every insert of the step takes effect -/
def Stores (h : Record) : Step → Prop
  | .evaluate r inserted => (h.monitor.read r).1.length ≤ inserted
  | .restart => False

instance (h : Record) : DecidablePred (Stores h)
  | .evaluate r inserted => inferInstanceAs (Decidable ((h.monitor.read r).1.length ≤ inserted))
  | .restart => inferInstanceAs (Decidable False)

/-- what the reports of the running process come to -/
structure Reports (h : Record) : Prop where
  follows : ∀ cluster testId, testId ∈ allTests.map (·.1) →
    Follows none (transitionsOf cluster testId h.reported) (h.monitor.transitions.confirmedState cluster testId)
  changes : ∀ e ∈ h.reported, e.fromState ≠ e.toState

variable {polls gatewayEnabled}

theorem reports_start (stored : List TransitionEvent) : Reports (Record.start polls gatewayEnabled stored) where
  follows _ _ _ := .inl ⟨rfl, rfl⟩
  changes := by simp [Record.start]

theorem reports_step {h : Record} (hreports : Reports h) (s : Step) : Reports (h.step polls gatewayEnabled s) := by
  cases s with
  | restart => exact reports_start h.stored
  | evaluate r inserted =>
    constructor
    · intro cluster testId hid
      simp only [Record.step, transitionsOf_append]
      exact (hreports.follows cluster testId hid).trans (read_follows hid r)
    · intro e he
      rcases List.mem_append.1 he with he | he
      · exact hreports.changes e he
      · exact confirmAll_changes _ e he

/-- what is stored stays, and what is reported is added to it as long as no insert fails -/
theorem step_stored (h : Record) (s : Step) : h.stored <+: (h.step polls gatewayEnabled s).stored := by
  cases s with
  | restart => exact List.prefix_refl _
  | evaluate r inserted => exact List.prefix_append _ _

theorem run_stored {h : Record} {steps : List Step} (hstores : Meets (Record.step polls gatewayEnabled) Stores h steps)
    {older : List TransitionEvent} (hstored : h.stored = older ++ h.reported) :
    (run (Record.step polls gatewayEnabled) h steps).stored = older ++ (run (Record.step polls gatewayEnabled) h steps).reported := by
  refine run_inv (fun h : Record => h.stored = older ++ h.reported) ?_ hstores hstored
  intro h s hh hs
  cases s with
  | restart => exact hs.elim
  | evaluate r inserted =>
    have hall : (h.monitor.read r).1.take inserted = (h.monitor.read r).1 := List.take_of_length_le hs
    simp only [Record.step, hall, hh, List.append_assoc]

end Runs

/-- **The history of a test.** After any evaluations of any clusters, any failed inserts and any restarts. -/
theorem health_history (polls : ℕ) (gatewayEnabled : Bool) (older : List TransitionEvent) (earlier later : List Step) :
    let before := run (Record.step polls gatewayEnabled) (Record.start polls gatewayEnabled older) earlier
    let after := run (Record.step polls gatewayEnabled) (before.step polls gatewayEnabled .restart) later
    (∀ cluster testId, testId ∈ allTests.map (·.1) →
      Follows none (transitionsOf cluster testId after.reported) (after.monitor.transitions.confirmedState cluster testId)) ∧
    (∀ e ∈ after.reported, e.fromState ≠ e.toState) ∧ older <+: before.stored ∧ before.stored <+: after.stored ∧
    (Meets (Record.step polls gatewayEnabled) Stores (before.step polls gatewayEnabled .restart) later →
      after.stored = before.stored ++ after.reported) := by
  intro before after
  have hmeets : ∀ (h : Record) (steps : List Step), Meets (Record.step polls gatewayEnabled) (fun _ _ => True) h steps :=
    fun h steps => Run.meets_of_forall fun _ _ => trivial
  have hkept : ∀ (h : Record) (steps : List Step), h.stored <+: (run (Record.step polls gatewayEnabled) h steps).stored := by
    intro h steps
    exact run_inv (fun h' : Record => h.stored <+: h'.stored) (fun h' s hh _ => hh.trans (step_stored h' s)) (hmeets h steps)
      (List.prefix_refl _)
  have hreports : Reports after :=
    run_inv Reports (fun _ s hh _ => reports_step hh s) (hmeets _ later) (reports_start before.stored)
  refine ⟨hreports.follows, hreports.changes, hkept (Record.start polls gatewayEnabled older) earlier,
    hkept (before.step polls gatewayEnabled .restart) later, ?_⟩
  intro hstores
  exact run_stored hstores (List.append_nil _).symm

end TrinoManagement.Health
