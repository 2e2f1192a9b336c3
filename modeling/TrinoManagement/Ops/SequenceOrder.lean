/-
What the restart sequence guarantees on its own, for every string of method calls with arbitrary arguments.

- `Allowed`: the transitions of the state machine in the source's diagram; `Reach` is its closure.
- `apply_state`: the one inversion lemma. A call leaves the state alone or takes an allowed transition, and the two
  gated states are entered only past their gates.
- `apply_error`: a call that raises leaves state and history as they were.
- `machine_law`: from PENDING, the states visited are a prefix of the order with none skipped, or such a prefix
  followed by ABORTING and ABORTED; the terminal states are never left; COMPLETED is entered only while the last
  observed health is GOOD; RESTARTING never while the config store was last observed not ready; the checklist has one
  current step from PENDING to VERIFYING and none elsewhere.
-/
import Mathlib.Tactic
import TrinoManagement.Core.Run
import TrinoManagement.Ops.Sequence

namespace TrinoManagement.Sequence

open TrinoManagement.Run

/-! ## The diagram -/

/-- the state machine's transitions -/
def Allowed (s t : State) : Prop :=
  (s, t) ∈ [(State.pending, State.draining), (.draining, .drained), (.drained, .restarting),
    (.restarting, .verifying), (.verifying, .completed), (.aborting, .aborted)] ∨ (s ∉ terminal ∧ t = .aborting)

instance (s t : State) : Decidable (Allowed s t) := by unfold Allowed; infer_instance

instance : Fintype State :=
  ⟨{.pending, .draining, .drained, .restarting, .verifying, .completed, .aborting, .aborted}, by rintro (_ | _) <;> decide⟩

/-- joined by transitions, possibly none -/
abbrev Reach : State → State → Prop := Relation.ReflTransGen Allowed

theorem Allowed.reach {s t : State} (h : Allowed s t) : Reach s t := .single h

/-- a terminal state is never left -/
theorem not_allowed_of_terminal : ∀ s ∈ terminal, ∀ t, ¬ Allowed s t := by decide

theorem Reach.of_terminal {s t : State} (h : Reach s t) (hs : s ∈ terminal) : t = s :=
  (Relation.reflTransGen_iff_eq (not_allowed_of_terminal s hs)).1 h

/-! ## Method calls as labels -/

inductive SeqOp where
  | log (now : ℚ) (message level : String)
  | begin (now : ℚ)
  | observe (now : ℚ) (running : Option ℤ) (health : Option String)
  | observeConfigStore (now : ℚ) (ready : Option Bool) (detail : String)
  | confirmDrained (now : ℚ)
  | forceDrained (now : ℚ) (overrideReason : String)
  | markRestarting (now : ℚ)
  | markRestarted (now : ℚ)
  | confirmHealthy (now : ℚ)
  | complete (now : ℚ)
  | beginAbort (now : ℚ) (note : String)
  | finishAbort (now : ℚ)
deriving DecidableEq, Repr

def SeqOp.apply (s : RestartSequence) : SeqOp → Outcome
  | .log now message level => s.log now message level
  | .begin now => s.begin now
  | .observe now running health => s.observe now running health
  | .observeConfigStore now ready detail => s.observeConfigStore now ready detail
  | .confirmDrained now => s.confirmDrained now
  | .forceDrained now reason => s.forceDrained now reason
  | .markRestarting now => s.markRestarting now
  | .markRestarted now => s.markRestarted now
  | .confirmHealthy now => s.confirmHealthy now
  | .complete now => s.complete now
  | .beginAbort now note => s.beginAbort now note
  | .finishAbort now => s.finishAbort now

/-- one call; the caller keeps the object whether or not the call raised -/
def call (s : RestartSequence) (op : SeqOp) : RestartSequence := (op.apply s).1

/-! ## What one call can do -/

/-- the health an observation leaves on record: only a reading replaces the last one -/
def healthAfter (last : Option String) : SeqOp → Option String
  | .observe _ _ health => health.orElse fun _ => last
  | _ => last

/-- the resource group store's readiness as last observed -/
def readyAfter (last : Option Bool) : SeqOp → Option Bool
  | .observeConfigStore _ ready _ => ready
  | _ => last

section Calls

open RestartSequence

variable (s : RestartSequence) (op : SeqOp)

theorem allowed_drainedBy (running : Option ℤ) (st : State) :
    drainedBy running st = st ∨ (st = .draining ∧ drainedBy running st = .drained) := by
  cases st <;> simp only [drainedBy, true_or, true_and]
  split_ifs <;> simp

/-- **One call.** It leaves the state alone or takes an allowed transition past the gate of the state it enters; it
keeps the observed health and readiness but for the observation it makes; if it raises, the state and the history are
as they were. -/
theorem call_cases :
    ((call s op).state = s.state ∨ (Allowed s.state (call s op).state ∧
      ((call s op).state = .completed → s.healthState = some "GOOD") ∧
      ((call s op).state = .restarting → s.configStoreReady ≠ some false))) ∧
    (call s op).healthState = healthAfter s.healthState op ∧
    (call s op).configStoreReady = readyAfter s.configStoreReady op ∧
    (∀ e, (op.apply s).2 = .error e → (call s op).state = s.state ∧ (call s op).history = s.history) := by
  cases op with
  | log now message level =>
    rcases @log_cases s now message level with ⟨e, h⟩ | ⟨_, h⟩ <;>
      simp [call, SeqOp.apply, healthAfter, readyAfter, h]
  | begin now =>
    rcases @begin_cases s now with ⟨e, h⟩ | ⟨hs, _, h⟩ <;>
      simp [call, SeqOp.apply, healthAfter, readyAfter, *, Allowed]
  | observe now running health =>
    obtain ⟨hist, r, h, hr⟩ := @observe_cases s now running health
    simp only [call, SeqOp.apply, healthAfter, readyAfter, h]
    refine ⟨?_, trivial, trivial, ?_⟩
    · rcases allowed_drainedBy running s.state with hd | ⟨hs, hd⟩
      · exact .inl hd
      · exact .inr (by rw [hd, hs]; simp [Allowed])
    · rintro e rfl
      obtain ⟨rfl, hs, rfl⟩ := hr.resolve_left (by simp)
      exact ⟨by simp [drainedBy, hs], rfl⟩
  | observeConfigStore now ready detail =>
    obtain ⟨_, h⟩ := @observeConfigStore_cases s now ready detail
    simp [call, SeqOp.apply, healthAfter, readyAfter, h]
  | confirmDrained now =>
    rcases @confirmDrained_cases s now with ⟨e, h⟩ | ⟨hs, -, _, h⟩
    · simp [call, SeqOp.apply, healthAfter, readyAfter, h]
    · simp only [List.mem_cons, List.not_mem_nil, or_false] at hs
      rcases hs with hs | hs <;> simp [call, SeqOp.apply, healthAfter, readyAfter, h, hs, Allowed]
  | forceDrained now reason =>
    rcases @forceDrained_cases s now reason with ⟨e, h⟩ | ⟨hs, -, _, h⟩
    · simp [call, SeqOp.apply, healthAfter, readyAfter, h]
    · simp only [List.mem_cons, List.not_mem_nil, or_false] at hs
      rcases hs with hs | hs <;> simp [call, SeqOp.apply, healthAfter, readyAfter, h, hs, Allowed]
  | markRestarting now =>
    rcases @markRestarting_cases s now with ⟨e, h⟩ | ⟨hs, hr, _, h⟩ <;>
      simp [call, SeqOp.apply, healthAfter, readyAfter, *, Allowed]
  | markRestarted now =>
    rcases @markRestarted_cases s now with ⟨e, h⟩ | ⟨hs, _, h⟩ <;>
      simp [call, SeqOp.apply, healthAfter, readyAfter, *, Allowed]
  | confirmHealthy now =>
    rcases @confirmHealthy_cases s now with ⟨e, h⟩ | ⟨hs, hg, _, h⟩ <;>
      simp [call, SeqOp.apply, healthAfter, readyAfter, h]
  | complete now =>
    rcases @complete_cases s now with ⟨e, h⟩ | ⟨hs, hg, _, h⟩ <;>
      simp [call, SeqOp.apply, healthAfter, readyAfter, *, Allowed]
  | beginAbort now note =>
    rcases @beginAbort_cases s now note with ⟨e, h⟩ | ⟨hs, _, h⟩ <;>
      simp [call, SeqOp.apply, healthAfter, readyAfter, *, Allowed]
  | finishAbort now =>
    rcases @finishAbort_cases s now with ⟨e, h⟩ | ⟨hs, _, h⟩ <;>
      simp [call, SeqOp.apply, healthAfter, readyAfter, *, Allowed]

end Calls

/-! ## Whole runs -/

/-- the states visited so far and one more; a state that repeats is visited once -/
def visit (path : List State) (st : State) : List State := if path.getLast? = some st then path else path ++ [st]

/-- the states a run of calls visits, in order -/
def visited (s : RestartSequence) (ops : List SeqOp) : List State :=
  (ops.foldl (fun p op => (call p.1 op, visit p.2 (call p.1 op).state)) (s, [s.state])).2

/-- a prefix of the order with none skipped, or one short of the end that diverts to ABORTING and then ABORTED -/
def Lawful (path : List State) : Prop :=
  (∃ n ∈ [1, 2, 3, 4, 5, 6], path = stepOrder.take n) ∨
  (∃ n ∈ [1, 2, 3, 4, 5], path = stepOrder.take n ++ [.aborting] ∨ path = stepOrder.take n ++ [.aborting, .aborted])

instance (path : List State) : Decidable (Lawful path) := by unfold Lawful; infer_instance

theorem Lawful.visit {path : List State} {s t : State} (h : Lawful path) (hs : path.getLast? = some s)
    (ht : t = s ∨ Allowed s t) : Lawful (visit path t) := by
  revert s t
  rcases h with ⟨n, hn, rfl⟩ | ⟨n, hn, rfl | rfl⟩ <;> fin_cases hn <;> decide

theorem visit_getLast (path : List State) (st : State) : (visit path st).getLast? = some st := by
  unfold visit
  split_ifs with h
  · exact h
  · simp

theorem visited_snoc (s : RestartSequence) (ops : List SeqOp) (op : SeqOp) :
    visited s (ops ++ [op]) = visit (visited s ops) (run call s (ops ++ [op])).state := by
  have fst : ∀ (ops : List SeqOp) (p : RestartSequence × List State),
      (ops.foldl (fun p op => (call p.1 op, visit p.2 (call p.1 op).state)) p).1 = run call p.1 ops := by
    intro ops
    induction ops with
    | nil => exact fun _ => rfl
    | cons op ops ih => exact fun p => ih _
  simp only [visited, List.foldl_append, List.foldl_cons, List.foldl_nil, run_snoc, fst]

/-- what a run of calls from PENDING keeps: the visited path is lawful and ends in the current state, and the two
gates' inputs are what was last observed -/
structure Follows (s : RestartSequence) (ops : List SeqOp) : Prop where
  path : Lawful (visited s ops)
  last : (visited s ops).getLast? = some (run call s ops).state
  health : (run call s ops).healthState = ops.foldl healthAfter none
  ready : (run call s ops).configStoreReady = ops.foldl readyAfter none

theorem follows_snoc {s : RestartSequence} {ops : List SeqOp} (op : SeqOp) (h : Follows s ops) :
    Follows s (ops ++ [op]) := by
  obtain ⟨hstate, hhealth, hready, -⟩ := call_cases (run call s ops) op
  refine ⟨?_, ?_, ?_, ?_⟩
  · rw [visited_snoc, run_snoc]
    exact h.path.visit h.last (hstate.imp_right And.left)
  · rw [visited_snoc]; exact visit_getLast _ _
  · rw [run_snoc, hhealth, h.health]; simp
  · rw [run_snoc, hready, h.ready]; simp

theorem run_follows (cluster : String) (reason : Text.Reason) (actor : String) (ops : List SeqOp) :
    Follows (.initial cluster reason actor) ops := by
  induction ops using List.reverseRecOn with
  | nil => exact ⟨(by decide : Lawful [State.pending]), rfl, rfl, rfl⟩
  | append_singleton ops op ih => exact follows_snoc op ih

/-- the checklist has one current step exactly from PENDING to VERIFYING -/
theorem steps_current (s : RestartSequence) :
    (s.steps.filter fun row => row.2.2 = .current).length =
      if s.state ∈ [State.pending, .draining, .drained, .restarting, .verifying] then 1 else 0 := by
  unfold RestartSequence.steps
  cases s.state <;> decide

/-- the laws of the machine after `ops` and for one more call `op` -/
structure MachineLaw (s : RestartSequence) (ops : List SeqOp) (op : SeqOp) : Prop where
  /-- no state is skipped and the only way off the order is ABORTING, then ABORTED -/
  order : Lawful (visited s ops)
  final : (run call s ops).state ∈ terminal → (run call s (ops ++ [op])).state = (run call s ops).state
  /-- a call that raises leaves state and history unchanged -/
  atomic : ∀ e, (op.apply (run call s ops)).2 = .error e →
    (run call s (ops ++ [op])).state = (run call s ops).state ∧
    (run call s (ops ++ [op])).history = (run call s ops).history
  healthGate : (run call s ops).state ≠ .completed → (run call s (ops ++ [op])).state = .completed →
    ops.foldl healthAfter none = some "GOOD"
  storeGate : (run call s ops).state ≠ .restarting → (run call s (ops ++ [op])).state = .restarting →
    ops.foldl readyAfter none ≠ some false
  current : ((run call s ops).steps.filter fun row => row.2.2 = .current).length =
    if (run call s ops).state ∈ [State.pending, .draining, .drained, .restarting, .verifying] then 1 else 0

/-- **The pure machine.** Every finite string of method calls with arbitrary arguments, from PENDING, keeps to the
order, its gates and error atomicity. -/
theorem machine_law (cluster : String) (reason : Text.Reason) (actor : String) (ops : List SeqOp) (op : SeqOp) :
    MachineLaw (.initial cluster reason actor) ops op := by
  have h := run_follows cluster reason actor ops
  obtain ⟨hstate, -, -, herr⟩ := call_cases (run call (.initial cluster reason actor) ops) op
  refine ⟨h.path, fun hterm => ?_, fun e he => ?_, fun hne hc => ?_, fun hne hr => ?_, steps_current _⟩
  · rw [run_snoc]
    exact hstate.resolve_right fun hmove => not_allowed_of_terminal _ hterm _ hmove.1
  · rw [run_snoc]; exact herr e he
  · rw [run_snoc] at hc
    rw [← h.health]
    rcases hstate with hsame | ⟨-, hgood, -⟩
    · exact absurd (hsame.symm.trans hc) hne
    · exact hgood hc
  · rw [run_snoc] at hr
    rw [← h.ready]
    rcases hstate with hsame | ⟨-, -, hready⟩
    · exact absurd (hsame.symm.trans hr) hne
    · exact hready hr

end TrinoManagement.Sequence
