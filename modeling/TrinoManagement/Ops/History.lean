/-
What the steps of a request add to the history of a sequence: which lines, and how many of them are playbook output.

`Ops.Sequence` says of most methods only that they change the history; here it says how, for the two readings a refresh
makes and for what it notes of a playbook.
-/
import Mathlib.Tactic
import TrinoManagement.Ops.Contract
import TrinoManagement.Ops.Service

namespace TrinoManagement.Service

open TrinoManagement.Repository TrinoManagement.Sequence

/-! ## Playbook output in a log -/

/-- how many lines of the log are playbook output -/
def outputs (events : List Entry) : ℕ := events.countP fun e => e.level == levelOutput

@[simp] theorem outputs_append (l l' : List Entry) : outputs (l ++ l') = outputs l + outputs l' := List.countP_append ..

theorem outputs_readEvents (k : Storage) (events : List Entry) : outputs (k.readEvents events) = outputs events := by
  cases k with
  | memory => rfl
  | postgres => exact (List.perm_insertionSort _ events).countP_eq _

/-- the playbook output of a log, in its order -/
def outputEvents (events : List Entry) : List Entry := events.filter fun e => e.level == levelOutput

@[simp] theorem outputEvents_append (l l' : List Entry) : outputEvents (l ++ l') = outputEvents l ++ outputEvents l' :=
  List.filter_append ..

theorem length_outputEvents (events : List Entry) : (outputEvents events).length = outputs events := by
  simp [outputEvents, outputs, List.countP_eq_length_filter]

/-- its lines -/
def outputLines (events : List Entry) : List String := (outputEvents events).map (·.message)

@[simp] theorem outputLines_append (l l' : List Entry) : outputLines (l ++ l') = outputLines l ++ outputLines l' := by
  simp [outputLines]

theorem length_outputLines (events : List Entry) : (outputLines events).length = outputs events := by
  rw [outputLines, List.length_map, length_outputEvents]

theorem outputEvents_eq_nil {events : List Entry} (h : outputs events = 0) : outputEvents events = [] :=
  List.eq_nil_of_length_eq_zero ((length_outputEvents events).trans h)

theorem outputLines_eq_nil {events : List Entry} (h : outputs events = 0) : outputLines events = [] := by
  rw [outputLines, outputEvents_eq_nil h, List.map_nil]

/-- output whose times do not go back reads back in the order it was stored in -/
theorem outputEvents_readEvents (k : Storage) {events : List Entry}
    (h : (outputEvents events).Pairwise fun a b => a.at_ ≤ b.at_) : outputEvents (k.readEvents events) = outputEvents events := by
  cases k with
  | memory => rfl
  | postgres =>
    have hsub : (outputEvents events).Sublist (Storage.postgres.readEvents events) :=
      List.sublist_insertionSort h (List.filter_sublist)
    have hout : (outputEvents (outputEvents events)).Sublist (outputEvents (Storage.postgres.readEvents events)) :=
      hsub.filter _
    rw [show outputEvents (outputEvents events) = outputEvents events from by simp [outputEvents]] at hout
    refine (hout.eq_of_length ?_).symm
    rw [length_outputEvents, length_outputEvents, outputs_readEvents]

section News

variable {sq : RestartSequence} {t : ℚ}

theorem outputs_lines (lines : List String) (state : State) :
    outputs (lines.map fun line => ⟨t, state, levelOutput, line⟩) = lines.length := by
  simp [outputs, List.countP_map, Function.comp_def]

/-! ## Readings -/

/-- a reading that ends the drain, or a count not yet on record -/
def Stirs (running : Option ℤ) (state : State) (remembered : Option ℤ) : Prop :=
  state = .draining ∧ ∃ n ∈ running, n = 0 ∨ (0 < n ∧ remembered ≠ some n)

/-- a reading moves state, count and health as it says, and logs one line if it stirs the drain -/
theorem takeReading_news (running : Option ℤ) (health : Option String) (sq : RestartSequence) (t : ℚ) :
    ∃ news, takeReading running health sq t =
      ({ sq with state := drainedAfter running sq.state, history := sq.history ++ news
                 runningQueries := running.orElse fun _ => sq.runningQueries
                 healthState := health.orElse fun _ => sq.healthState }, .ok ()) ∧
      outputs news = 0 ∧ (news = [] ↔ ¬ Stirs running sq.state sq.runningQueries) := by
  cases running with
  | none =>
    refine ⟨[], ?_, rfl, by simp [Stirs]⟩
    cases health <;> simp [takeReading, drainedAfter]
  | some n =>
    by_cases hst : sq.state = .draining
    · by_cases h0 : n = 0
      · subst h0
        refine ⟨[⟨t, .drained, levelInfo, "All running queries have finished. " ++ sq.cluster ++ " is empty."⟩],
          ?_, ?_, ?_⟩
        · simp [takeReading, RestartSequence.observe, hst, RestartSequence.record_eq, drainedAfter,
            RestartSequence.drainedBy]
        · simp [outputs, levelInfo, levelOutput]
        · simp [Stirs, hst]
      · by_cases hn : 0 < n ∧ sq.runningQueries ≠ some n
        · refine ⟨[⟨t, .draining, levelInfo, "Waiting for " ++ toString n ++ " running quer" ++ plural n "y" "ies" ++
            " to finish."⟩], ?_, ?_, ?_⟩
          · have hn' : 0 < n ∧ some n ≠ sq.runningQueries := ⟨hn.1, hn.2.symm⟩
            simp [takeReading, RestartSequence.observe, hst, h0, if_pos hn', RestartSequence.append, drainedAfter,
              RestartSequence.drainedBy]
          · simp [outputs, levelInfo, levelOutput]
          · simp [Stirs, hst, hn]
        · refine ⟨[], ?_, rfl, ?_⟩
          · have hn' : ¬ (0 < n ∧ some n ≠ sq.runningQueries) := fun h => hn ⟨h.1, h.2.symm⟩
            simp only [takeReading, RestartSequence.observe, hst, true_and, Option.some.injEq, h0, if_false, if_true,
              gt_iff_lt, if_neg hn']
            simp [drainedAfter, RestartSequence.drainedBy, h0]
          · simp only [Stirs, hst, true_and, Option.mem_def, Option.some.injEq, exists_eq_left']
            simpa [h0] using hn
    · refine ⟨[], ?_, rfl, by simp [Stirs, hst]⟩
      have hst' : drainedAfter (some n) sq.state = sq.state := by
        cases h : sq.state <;> simp_all [drainedAfter, RestartSequence.drainedBy]
      simp [takeReading, RestartSequence.observe, hst, hst']

/-- what a sequence makes of the answer of the resource group store -/
theorem observeConfigStore_news (sq : RestartSequence) (t : ℚ) (ready : Option Bool) (detail : String) :
    ∃ news, sq.observeConfigStore t ready detail =
      ({ sq with history := sq.history ++ news, configStoreReady := ready, configStoreDetail := detail }, .ok ()) ∧
      outputs news = 0 ∧ (news = [] ↔ ¬ (detail ≠ "" ∧ ready ≠ none ∧ ready ≠ sq.configStoreReady)) := by
  unfold RestartSequence.observeConfigStore
  dsimp only
  by_cases h : detail ≠ "" ∧ ready ≠ none ∧ ready ≠ sq.configStoreReady
  · rw [if_pos h]
    by_cases hr : ready = some false
    · refine ⟨[⟨t, sq.state, levelWarn, detail⟩], by rw [if_pos hr, RestartSequence.log_warn]; rfl, ?_, by simp [h]⟩
      simp [outputs, levelWarn, levelOutput]
    · refine ⟨[⟨t, sq.state, levelInfo, detail⟩], by rw [if_neg hr, RestartSequence.log_info]; rfl, ?_, by simp [h]⟩
      simp [outputs, levelInfo, levelOutput]
  · rw [if_neg h]
    exact ⟨[], by simp, rfl, by simp [h]⟩

/-! ## The end of a playbook -/

/-- what an executor can say that is not logged -/
def Unremarked (status : ExecState) : Prop := status ∉ [ExecState.succeeded, .failed, .unknown]

/-- what is logged of how a playbook ended -/
def remarks (sq : RestartSequence) (t : ℚ) (error : Option String) : ExecState → List Entry
  | .succeeded => [⟨t, sq.state, levelInfo, "Playbook finished successfully."⟩,
      ⟨t, .verifying, levelInfo, sq.cluster ++ " restarted. Checking health before restoring traffic."⟩]
  | .failed => [⟨t, sq.state, levelError, playbookFailed sq.cluster (error.getD "")⟩]
  | .unknown => [⟨t, sq.state, levelWarn, lostSight sq.cluster⟩]
  | .pendingOperator => []
  | .running => []

theorem outputs_remarks (error : Option String) (status : ExecState) : outputs (remarks sq t error status) = 0 := by
  cases status <;> simp [remarks, outputs, levelInfo, levelError, levelWarn, levelOutput]

theorem remarks_eq_nil (error : Option String) (status : ExecState) :
    remarks sq t error status = [] ↔ Unremarked status := by
  cases status <;> simp [remarks, Unremarked]

end News

end TrinoManagement.Service
