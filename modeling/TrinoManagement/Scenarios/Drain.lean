/-
The drain: what the poller counts, and what a sequence takes an empty count for.

`list_queries` asks for seven live states; the summary counts two of them as running and two as queued. A query in
DISPATCHING, PLANNING or STARTING is listed and counted nowhere, so a cluster with only such queries counts zero.

- `drained_counted`: no request but a force drain takes a sequence to DRAINED unless the stored snapshot of its cluster
  is to be trusted and counts zero.
- `drained_is_empty`: for each answer, DRAINED on it means that it was empty exactly when it is empty or one of its
  queries is in a state that is counted.
- `drained_not_empty`: one PLANNING query, and the sequence is DRAINED.
-/
import Mathlib.Tactic
import TrinoManagement.Collector.Poller
import TrinoManagement.Scenarios.Evidence

namespace TrinoManagement.Service

open TrinoManagement.Collector TrinoManagement.Repository TrinoManagement.Sequence
open TrinoManagement.Run (run)

/-! ## Which count drains -/

/-- the stored row of this sequence says DRAINED -/
def DrainedIn (w : World) (id : ℕ) : Prop := ∃ row, w.rows[id]? = some row ∧ row.state = .drained

instance (w : World) (id : ℕ) : Decidable (DrainedIn w id) :=
  decidable_of_iff (∃ row ∈ w.rows[id]?, row.state = .drained) Iff.rfl

/-- each row that says DRAINED said so in `w₀`, or the snapshot stored there for its cluster counts zero -/
structure Counted (w₀ w : World) : Prop where
  queries : w.queries = w₀.queries
  drained : ∀ (id : ℕ) (row : Row), w.rows[id]? = some row → row.state = .drained →
    DrainedIn w₀ id ∨ observedRunning (w₀.queries row.cluster) = some 0

section Request

variable {env : Env} {o : Oracle} {op : Op} {w₀ w : World} {σ : Ghost}

/-- no request stores a query list -/
theorem handle_queries (e : Act) : (handle env o e w).2.queries = w.queries := by
  cases e with
  | insert s roles =>
    simp only [handle]
    rcases @insertRow_cases env o w s roles with ⟨e, he⟩ | ⟨-, he⟩ <;> rw [he]
  | save stored forceReason =>
    simp only [handle]
    rcases @saveSequence_cases env o w stored forceReason with ⟨e, he⟩ | ⟨row, n, r, forced, -, -, he⟩ <;> rw [he]
  | setActive backend active =>
    simp only [handle]
    rcases @switchBackend_cases o w backend active with he | ⟨e, he⟩ | ⟨-, e, he⟩ <;> rw [he] <;> rfl
  | _ => rfl

theorem queries_called (os : List Oracle) : (step env w (.call op os)).queries = w.queries := by
  obtain ⟨_, hJ, -⟩ := request_inv (J := fun w' _ => w'.queries = w.queries) os
    (fun o e w' σ _ _ h _ => (handle_queries e).trans h) (A := fun _ => True) trivial (fun _ _ => trivial) rfl
  exact hJ

theorem Counted.same {w' : World} (h : Counted w₀ w) (hq : w'.queries = w.queries) (hr : w'.rows = w.rows) :
    Counted w₀ w' :=
  ⟨hq.trans h.queries, fun id row hrow hd => h.drained id row (hr ▸ hrow) hd⟩

/-- a save that drains an unforced sequence has read a count of zero -/
theorem counted_of_saveOk {g : Grip} (hop : op.kind ≠ .forceDrain) (hs : SaveOk op.kind g .drained) :
    g.base = .drained ∨ g.counted = some 0 := by
  unfold SaveOk at hs
  cases hstage : g.stage <;> rw [hstage] at hs
  case loaded =>
    rcases hs with hb | ⟨-, -, hc⟩ | ⟨-, hb⟩ | ⟨-, hb, -⟩
    · exact .inl hb.symm
    · exact .inr (hc.resolve_right hop)
    · cases hb
    · cases hb
  case stopped =>
    rcases hs.2 with hb | ⟨-, hc⟩
    · cases hb
    · exact .inr hc
  all_goals simp at hs

theorem counted_handle (hop : op.kind ≠ .forceDrain) (A : Oracle → Prop) :
    Preserves env op A fun w _ => Counted w₀ w := by
  intro o e w σ _ hl h hp
  cases e with
  | insert s roles =>
    simp only [handle]
    rcases @insertRow_cases env o w s roles with ⟨e, he⟩ | ⟨-, he⟩
    · rw [he]; exact h
    · rw [he]
      refine ⟨h.queries, fun id row hrow hd => ?_⟩
      rcases getElem?_inserted hrow with hrow | ⟨-, rfl⟩
      · exact h.drained id row hrow hd
      · have hpending : s.state = .pending := hp.2.2
        simp [newRow, hpending] at hd
  | save stored forceReason =>
    obtain ⟨g, hg, -, hst, hcases⟩ := save_linked env o hl hp
    simp only [handle]
    rcases hcases with ⟨e, he⟩ | ⟨row, row', r, t, hrow, hc, hb, hc', hst', he⟩
    · rw [he]; exact h
    · rw [he]
      refine ⟨h.queries, fun i r hr hd => ?_⟩
      rcases getElem?_set_cases hrow hr with ⟨rfl, rfl⟩ | ⟨-, hr⟩
      · rw [hst'] at hd
        rw [hd] at hst
        rcases counted_of_saveOk hop hst with hbase | hcount
        · rw [hc', ← hc]
          exact h.drained _ row hrow (hb.trans hbase)
        · -- the snapshot it counted is the one stored all along
          obtain ⟨q, hq, hzero⟩ := Option.bind_eq_some_iff.1 hcount
          have hstored := (hl g hg).1.queries q hq
          rw [h.queries] at hstored
          exact .inr (by rw [hc', hstored, hzero])
      · exact h.drained i r hr hd
  | setActive backend active =>
    refine h.same (handle_queries _) ?_
    simp only [handle]
    rcases @switchBackend_cases o w backend active with he | ⟨e, he⟩ | ⟨-, e, he⟩ <;> rw [he] <;> rfl
  | _ => exact h.same (handle_queries _) rfl

/-- **Only a count of zero drains**, unless an operator forces it. -/
theorem drained_counted {os : List Oracle} {id : ℕ} {row : Row} (hop : op.kind ≠ .forceDrain)
    (h : (step env w (.call op os)).rows[id]? = some row) (hd : row.state = .drained) :
    DrainedIn w id ∨ observedRunning (w.queries row.cluster) = some 0 := by
  obtain ⟨_, hJ, -⟩ := request_inv os (@counted_handle env op w hop fun _ => True) trivial (fun _ _ => trivial)
    ⟨rfl, fun id row hrow hd => .inl ⟨row, hrow, hd⟩⟩
  exact hJ.drained id row h hd

end Request

/-! ## What the poller counts -/

/-- an entry of a `/v1/query` answer for the live states: a dict in one of them -/
structure IsLive (raw : Value) : Prop where
  dict : raw.isDict = true
  state : ∃ state ∈ liveStates, raw.get "state" = .str state

instance (raw : Value) : Decidable (IsLive raw) := decidable_of_iff (_ ∧ _) ⟨fun h => ⟨h.1, h.2⟩, fun h => ⟨h.dict, h.state⟩⟩

/-- the live states counted neither as running nor as queued -/
def betweenStates : List String := ["DISPATCHING", "PLANNING", "STARTING"]

/-- the query is in one of them -/
def Between (raw : Value) : Prop := ∃ state ∈ betweenStates, raw.get "state" = .str state

instance (raw : Value) : Decidable (Between raw) := inferInstanceAs (Decidable (∃ state ∈ betweenStates, _))

theorem counted_iff {raw : Value} (h : IsLive raw) : counted raw = true ↔ ¬ Between raw := by
  have split : ∀ state ∈ liveStates,
      (decide (state ∈ runningStates) || decide (state ∈ queuedStates)) = true ↔ state ∉ betweenStates := by decide
  obtain ⟨state, hmem, hstate⟩ := h.state
  simpa only [counted, Between, hstate, stateIn, Value.str.injEq, exists_eq_right'] using split state hmem

/-- a drain on this answer means that it was empty: the count is zero only for an empty list, and with the answer
stored no unforced request takes a sequence of the cluster to DRAINED unless it was empty -/
structure DrainedEmpty (raws : List Value) (s : QueriesSnapshot) : Prop where
  zero : s.live = 0 ↔ raws = []
  drained : ∀ (env : Env) (w : World) (op : Op) (os : List Oracle) (id : ℕ) (row : Row), op.kind ≠ .forceDrain →
    w.queries row.cluster = some s → (step env w (.call op os)).rows[id]? = some row → row.state = .drained →
    ¬ DrainedIn w id → raws = []

/-- **A drained cluster is empty** exactly on the answers that are empty or list a query past DISPATCHING, PLANNING and
STARTING, or before them. -/
theorem drained_is_empty (cfg : PollerConfig) (clocks : PollClocks) (p p' : Poller) (running : Option ℤ)
    (result : QueryListResult) (s : QueriesSnapshot) (hlive : ∀ raw ∈ result.queries, IsLive raw)
    (h : pollQueries cfg clocks p running (.ok result) = .ok (s, p')) :
    DrainedEmpty result.queries s ↔ result.queries = [] ∨ ∃ raw ∈ result.queries, ¬ Between raw := by
  have hcount := (pollQueries_answered h).live
  constructor
  · intro hd
    by_contra hne
    push Not at hne
    obtain ⟨hne, hbetween⟩ := hne
    -- every query is in a state that is not counted, so the count is zero
    have hzero : s.live = 0 := hcount.2 fun raw hraw => by
      rw [← Bool.not_eq_true, counted_iff (hlive raw hraw), not_not]
      exact hbetween raw hraw
    exact hne (hd.zero.1 hzero)
  · intro hcond
    have empty_of_zero : s.live = 0 → result.queries = [] := by
      intro hzero
      refine hcond.resolve_right ?_
      rintro ⟨raw, hraw, hbetween⟩
      have hcounted := (counted_iff (hlive raw hraw)).2 hbetween
      rw [hcount.1 hzero raw hraw] at hcounted
      cases hcounted
    refine ⟨⟨empty_of_zero, fun hnil => hcount.2 (by simp [hnil])⟩, ?_⟩
    intro env w op os id row hop hq hrow hd hnew
    have hobserved := (drained_counted hop hrow hd).resolve_left hnew
    rw [hq, observedRunning] at hobserved
    split_ifs at hobserved
    exact empty_of_zero (by simpa using hobserved)

namespace Sample

def poller : PollerConfig where
  clusterName := "prod-a"
  baseQueryInterval := 3
  jmxInterval := 15
  infoInterval := 30
  queryTextMaxBytes := 4096
  longRunningSeconds := 300
  responseBackoffBytes := 5000000
  responseBackoffInterval := 10
  jmxCrossCheckMaxAge := none
  h09ConfirmPolls := 2
  resourceGroupInterval := none
  str _ := ""

def query (state : String) : Value := .dict [("queryId", .str "20260806_1"), ("state", .str state)]

/-- the snapshot of a poll at time 1005 that found these queries -/
def polled (raws : List Value) : Option QueriesSnapshot :=
  (pollQueries poller ⟨1005, 1005, 1005⟩ poller.init none (.ok ⟨raws, 3500⟩)).toOption.map Prod.fst

end Sample

/-- a PLANNING query beside a RUNNING one keeps the cluster from draining -/
theorem drained_is_empty_running : ∃ s p',
    pollQueries Sample.poller ⟨1005, 1005, 1005⟩ Sample.poller.init none
      (.ok ⟨[Sample.query "PLANNING", Sample.query "RUNNING"], 3500⟩) = .ok (s, p') ∧
    DrainedEmpty [Sample.query "PLANNING", Sample.query "RUNNING"] s := by
  refine ⟨_, _, rfl, (drained_is_empty Sample.poller ⟨1005, 1005, 1005⟩ Sample.poller.init _ none
    ⟨[Sample.query "PLANNING", Sample.query "RUNNING"], 3500⟩ _ (by decide) rfl).2 (.inr ?_)⟩
  decide

/-- a start, and then the answer of a poll is stored and the sequence refreshed -/
def drainRun (raws : List Value) : List Label :=
  [.pollGateway true, .clock 1000, .call (.start Sample.admin "prod-a" "upgrade") []] ++
    (Sample.polled raws).toList.map .storeQueries ++ [.clock 1010, .call (.refresh 0) []]

/-- **A drained cluster is not empty.** The one live query is in PLANNING. -/
theorem drained_not_empty :
    (∀ raw ∈ [Sample.query "PLANNING"], IsLive raw) ∧
    (∃ s, Sample.polled [Sample.query "PLANNING"] = some s ∧ ¬ DrainedEmpty [Sample.query "PLANNING"] s) ∧
    (run (step Sample.env) (World.init 0 [Sample.backend]) (drainRun [Sample.query "PLANNING"])).rows.map (·.state) =
      [.drained] := by
  refine ⟨by decide, ⟨_, rfl, fun h => ?_⟩, by decide +kernel⟩
  exact absurd (h.zero.1 (by decide)) (by decide)

end TrinoManagement.Service
