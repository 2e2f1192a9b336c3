/-
Is a refresh idempotent?

A refresh rebuilds the sequence from its row, observes, polls the executor, and saves if something it compares has
changed. What the schema has no column for starts afresh on every poll, so a probe of the resource group store that has
something to say says it again each time, and so does a playbook that failed or that TMS lost sight of.

- `Seen`: what one refresh makes of a row, and what it adds to the history.
- `refresh_idempotent`: for every live sequence of every run and whatever is observed, as long as it stays the same, a
  second refresh changes nothing stored iff the first one was not one of these two.
- `refresh_repeats`: a drained sequence whose store is not ready gains an event on every poll.
-/
import Mathlib.Tactic
import TrinoManagement.Ops.Conforms
import TrinoManagement.Ops.Executor
import TrinoManagement.Ops.History
import TrinoManagement.Ops.Serving
import TrinoManagement.Scenarios.Backends
import TrinoManagement.Scenarios.Evidence

namespace TrinoManagement.Service

open TrinoManagement.Audit TrinoManagement.Collector TrinoManagement.Repository TrinoManagement.Sequence
open TrinoManagement.Prog
open TrinoManagement.Run (meets_of_forall run run_inv)

/-! ## What a refresh adds to the history -/

/-- the resource group store is asked and has something to say -/
def Asks (cfg : Config) (stores : String → Option Bool × String) (cluster : String) (state : State) : Prop :=
  cfg.configStore = true ∧ state ∈ [State.draining, .drained] ∧
    ∃ c ∈ cfg.cluster cluster, (stores c.nodeEnvironment).1 ≠ none ∧ (stores c.nodeEnvironment).2 ≠ ""

/-- the executor is polled -/
def Polls (cfg : Config) (state : State) : Prop := state = .restarting ∧ cfg.automated = true

instance (cfg : Config) (stores : String → Option Bool × String) (cluster : String) (state : State) :
    Decidable (Asks cfg stores cluster state) := by unfold Asks; infer_instance

instance (cfg : Config) (state : State) : Decidable (Polls cfg state) := by unfold Polls; infer_instance

section Stages

variable {env : Env} {cfg : Config} {s : Site} {stored : StoredSequence} {sq : RestartSequence} {t : ℚ}

theorem exec_invoke (method : RestartSequence → ℚ → Outcome) {sq : RestartSequence}
    (h : method stored.sequence s.world.now = (sq, .ok ())) :
    exec (serve env) (invoke stored method) s = (.ok { stored with sequence := sq }, s) := by
  have hattempt : exec (serve env) (attempt stored method) s = (.ok ({ stored with sequence := sq }, .ok ()), s) := by
    change (Except.ok ({ stored with sequence := (method stored.sequence s.world.now).1 },
      (method stored.sequence s.world.now).2), s) = _
    rw [h]
  rw [invoke, exec_bind hattempt]
  rfl

/-- the object with more lines in its history -/
def noting (stored : StoredSequence) (news : List Entry) : StoredSequence :=
  { stored with sequence := { stored.sequence with history := stored.sequence.history ++ news } }

@[simp] theorem noting_id (news : List Entry) : (noting stored news).id = stored.id := rfl

theorem noting_noting (news news' : List Entry) : noting (noting stored news) news' = noting stored (news ++ news') := by
  simp [noting]

theorem exec_log (message : RestartSequence → String) {level : String} (hlevel : level ∈ allowedLevels) :
    exec (serve env) (invoke stored fun s t => s.log t (message s) level) s =
      (.ok (noting stored [⟨s.world.now, stored.sequence.state, level, message stored.sequence⟩]), s) :=
  exec_invoke _ (if_pos hlevel)

/-- the resource group store is asked afresh on every poll, so what it has to say is logged again -/
theorem exec_observeConfigStore (hfresh : stored.sequence.configStoreReady = none) :
    ∃ news ready detail, exec (serve env) (observeConfigStore cfg stored) s =
        (.ok { stored with sequence := { stored.sequence with
          history := stored.sequence.history ++ news, configStoreReady := ready, configStoreDetail := detail } }, s) ∧
      outputs news = 0 ∧ (news = [] ↔ ¬ Asks cfg s.stores stored.sequence.cluster stored.sequence.state) := by
  have silent (hno : ¬ Asks cfg s.stores stored.sequence.cluster stored.sequence.state)
      (h : exec (serve env) (observeConfigStore cfg stored) s = (.ok stored, s)) :
      ∃ news ready detail, exec (serve env) (observeConfigStore cfg stored) s =
        (.ok { stored with sequence := { stored.sequence with
          history := stored.sequence.history ++ news, configStoreReady := ready, configStoreDetail := detail } }, s) ∧
      outputs news = 0 ∧ (news = [] ↔ ¬ Asks cfg s.stores stored.sequence.cluster stored.sequence.state) :=
    ⟨[], stored.sequence.configStoreReady, stored.sequence.configStoreDetail, by simpa using h, rfl, by simp [hno]⟩
  by_cases hon : cfg.configStore = false
  · exact silent (fun h => by have := h.1; rw [hon] at this; cases this) (by simp [observeConfigStore, hon])
  by_cases hst : stored.sequence.state ∉ [State.draining, State.drained]
  · exact silent (fun h => hst h.2.1) (by simp only [observeConfigStore, if_neg hon, if_pos hst]; rfl)
  cases hc : cfg.cluster stored.sequence.cluster with
  | none =>
    refine silent (fun h => ?_) (by simp only [observeConfigStore, if_neg hon, if_neg hst, hc]; rfl)
    obtain ⟨-, -, c, hmem, -⟩ := h
    rw [hc] at hmem
    cases hmem
  | some c =>
    have hasks : Asks cfg s.stores stored.sequence.cluster stored.sequence.state ↔
        (s.stores c.nodeEnvironment).1 ≠ none ∧ (s.stores c.nodeEnvironment).2 ≠ "" := by
      unfold Asks
      rw [hc]
      simp only [Option.mem_def, Option.some.injEq, exists_eq_left']
      exact ⟨fun h => h.2.2, fun h => ⟨by simpa using hon, not_not.1 hst, h⟩⟩
    obtain ⟨news, heq, hout, hnil⟩ := observeConfigStore_news stored.sequence s.world.now (s.stores c.nodeEnvironment).1
      (s.stores c.nodeEnvironment).2
    rw [hfresh] at hnil
    have hnil : news = [] ↔ ¬ Asks cfg s.stores stored.sequence.cluster stored.sequence.state := by
      rw [hnil, hasks]
      refine not_congr ⟨fun h => ⟨h.2.1, h.1⟩, fun h => ⟨h.2, h.1, h.1⟩⟩
    refine ⟨news, (s.stores c.nodeEnvironment).1, (s.stores c.nodeEnvironment).2, ?_, hout, hnil⟩
    simp only [observeConfigStore, if_neg hon, if_neg hst, hc]
    exact exec_invoke (fun sq t => sq.observeConfigStore t (s.stores c.nodeEnvironment).1
      (s.stores c.nodeEnvironment).2) heq

theorem exec_recordLines (lines : List String) :
    exec (serve env) (recordLines stored lines) s =
      (.ok (noting stored (lines.map fun line => ⟨s.world.now, stored.sequence.state, levelOutput, line⟩)), s) := by
  induction lines generalizing stored with
  | nil => simp [recordLines, noting]
  | cons line rest ih =>
    rw [recordLines, exec_bind (exec_log (fun _ => line) (by decide)), ih, noting_noting]
    rfl

/-- the state a poll of the executor leads to -/
def polledState (cfg : Config) (status : ExecState) (state : State) : State :=
  if Polls cfg state ∧ status = .succeeded then .verifying else state

/-- what a poll of the executor logs: each line not yet shown, and how the playbook ended -/
def pollNews (cfg : Config) (s : Site) (stored : StoredSequence) : List Entry :=
  if Polls cfg stored.sequence.state then
    ((linesSince s.runs stored.id (outputs stored.sequence.history)).map fun line =>
      ⟨s.world.now, stored.sequence.state, levelOutput, line⟩) ++
      remarks stored.sequence s.world.now (execError s.runs stored.id) (execStatus s.runs stored.id)
  else []

theorem outputs_pollNews : outputs (pollNews cfg s stored) = if Polls cfg stored.sequence.state then
    (linesSince s.runs stored.id (outputs stored.sequence.history)).length else 0 := by
  unfold pollNews
  split_ifs
  · rw [outputs_append, outputs_lines, outputs_remarks, add_zero]
  · rfl

theorem pollNews_eq_nil : pollNews cfg s stored = [] ↔ (Polls cfg stored.sequence.state →
    Unremarked (execStatus s.runs stored.id) ∧
      linesSince s.runs stored.id (outputs stored.sequence.history) = []) := by
  unfold pollNews
  split_ifs with h
  · rw [List.append_eq_nil_iff, List.map_eq_nil_iff, remarks_eq_nil]
    simp only [h, forall_const]
    exact and_comm
  · simp [h]

/-- the executor's state is read from its run -/
theorem exec_execStatus {α : Type} {f : ExecState → M α} {cluster : String} {id : ℕ} {status : ExecState}
    (h : execStatus s.runs id = status) :
    exec (serve env) (perform (Act.execStatus cluster id) >>= f) s = exec (serve env) (f status) s := by
  subst h
  exact exec_bind exec_perform

theorem exec_pollExecutor : exec (serve env) (pollExecutor cfg stored) s =
    (.ok { stored with sequence := { stored.sequence with
      state := polledState cfg (execStatus s.runs stored.id) stored.sequence.state
      history := stored.sequence.history ++ pollNews cfg s stored } }, s) := by
  by_cases hpolls : Polls cfg stored.sequence.state
  swap
  · have hskip : stored.sequence.state ≠ .restarting ∨ cfg.automated = false := by
      by_contra h
      push Not at h
      exact hpolls ⟨h.1, by simpa using h.2⟩
    simp [pollExecutor, hskip, polledState, pollNews, hpolls]
  have hgo : ¬ (stored.sequence.state ≠ .restarting ∨ cfg.automated = false) := by
    rintro (h | h)
    · exact h hpolls.1
    · rw [hpolls.2] at h; cases h
  rw [pollExecutor, if_neg hgo]
  change exec (serve env) (recordLines stored (linesSince s.runs stored.id (outputs stored.sequence.history)) >>= _) s = _
  rw [exec_bind (exec_recordLines _), pollNews, if_pos hpolls, noting_id]
  cases hstatus : execStatus s.runs stored.id with
  | succeeded =>
    rw [exec_execStatus hstatus]
    dsimp only
    rw [exec_bind (exec_log (fun _ => "Playbook finished successfully.") (by decide)), noting_noting]
    have hmark : ∀ news, (noting stored news).sequence.markRestarted s.world.now =
        ({ stored.sequence with
            state := .verifying
            history := stored.sequence.history ++ news ++ [⟨s.world.now, .verifying, levelInfo, stored.sequence.cluster ++
              " restarted. Checking health before restoring traffic."⟩] }, .ok ()) := by
      intro news
      simp [RestartSequence.markRestarted, noting, hpolls.1, RestartSequence.record_eq]
    rw [exec_invoke (fun s t => s.markRestarted t) (hmark _)]
    simp [polledState, hpolls, remarks, noting]
  | failed =>
    rw [exec_execStatus hstatus]
    change exec (serve env) (invoke (noting stored _) fun sq t =>
      sq.log t (playbookFailed sq.cluster ((execError s.runs stored.id).getD "")) levelError) s = _
    rw [exec_log (fun sq => playbookFailed sq.cluster ((execError s.runs stored.id).getD "")) (by decide),
      noting_noting]
    simp only [polledState, reduceCtorEq, and_false, if_false]
    rfl
  | unknown =>
    rw [exec_execStatus hstatus]
    dsimp only
    rw [exec_log (fun sq => lostSight sq.cluster) (by decide), noting_noting]
    simp only [polledState, reduceCtorEq, and_false, if_false]
    rfl
  | pendingOperator =>
    rw [exec_execStatus hstatus]
    simp only [polledState, reduceCtorEq, and_false, if_false, remarks, List.append_nil]
    rfl
  | running =>
    rw [exec_execStatus hstatus]
    simp only [polledState, reduceCtorEq, and_false, if_false, remarks, List.append_nil]
    rfl

theorem asks_drainedAfter {stores : String → Option Bool × String} {cluster : String} (running : Option ℤ)
    (state : State) : Asks cfg stores cluster (drainedAfter running state) ↔ Asks cfg stores cluster state := by
  unfold Asks
  rcases drainedAfter_cases running state with h | ⟨h, h', -⟩
  · rw [h]
  · rw [h', h]
    simp

theorem exec_observe (hfresh : stored.sequence.configStoreReady = none) :
    ∃ news ready detail, exec (serve env) (observe cfg stored) s =
        (.ok { stored with sequence := { stored.sequence with
          state := drainedAfter (observedRunning (s.world.queries stored.sequence.cluster)) stored.sequence.state
          history := stored.sequence.history ++ news
          runningQueries := (observedRunning (s.world.queries stored.sequence.cluster)).orElse
            fun _ => stored.sequence.runningQueries
          healthState := (observedHealth (s.world.health stored.sequence.cluster)).orElse
            fun _ => stored.sequence.healthState
          configStoreReady := ready, configStoreDetail := detail } }, s) ∧
      outputs news = 0 ∧
      (news = [] ↔ ¬ Stirs (observedRunning (s.world.queries stored.sequence.cluster)) stored.sequence.state
          stored.sequence.runningQueries ∧
        ¬ Asks cfg s.stores stored.sequence.cluster stored.sequence.state) := by
  obtain ⟨news, heq, hout, hnil⟩ := takeReading_news (observedRunning (s.world.queries stored.sequence.cluster))
    (observedHealth (s.world.health stored.sequence.cluster)) stored.sequence s.world.now
  -- the object after the reading
  let read : StoredSequence := { stored with sequence := { stored.sequence with
    state := drainedAfter (observedRunning (s.world.queries stored.sequence.cluster)) stored.sequence.state
    history := stored.sequence.history ++ news
    runningQueries := (observedRunning (s.world.queries stored.sequence.cluster)).orElse
      fun _ => stored.sequence.runningQueries
    healthState := (observedHealth (s.world.health stored.sequence.cluster)).orElse
      fun _ => stored.sequence.healthState } }
  obtain ⟨news', ready, detail, heq', hout', hnil'⟩ := @exec_observeConfigStore env cfg s read hfresh
  refine ⟨news ++ news', ready, detail, ?_, by rw [outputs_append, hout, hout'], ?_⟩
  · rw [observe, exec_bind exec_perform]
    simp only [serve, handle, readStore_serves (show Oracle.serves.fault = none from rfl)]
    rw [lift, exec_bind exec_pure, exec_bind exec_perform]
    simp only [serve, handle, readStore_serves (show Oracle.serves.fault = none from rfl)]
    rw [lift, exec_bind exec_pure, exec_bind (exec_invoke _ heq)]
    refine heq'.trans ?_
    simp [read]
  · rw [List.append_eq_nil_iff, hnil, hnil', show Asks cfg s.stores read.sequence.cluster read.sequence.state ↔ _ from
      asks_drainedAfter _ _]

end Stages

/-! ## One refresh -/

/-- the count a refresh reads -/
def Site.running (s : Site) (cluster : String) : Option ℤ := observedRunning (s.world.queries cluster)

/-- the health a refresh reads -/
def Site.health (s : Site) (cluster : String) : Option String := observedHealth (s.world.health cluster)

/-- what a refresh makes of a row -/
structure Refreshed (env : Env) (s : Site) (id : ℕ) (row row' : Row) : Prop where
  cluster : row'.cluster = row.cluster
  state : row'.state = polledState env.toConfig (execStatus s.runs id) (drainedAfter (s.running row.cluster) row.state)
  running : row'.runningQueries = (s.running row.cluster).orElse fun _ => row.runningQueries
  health : row'.healthState = (s.health row.cluster).orElse fun _ => row.healthState
  outputs : outputs row'.events = outputs row.events +
    if Polls env.toConfig row.state then (linesSince s.runs id (outputs row.events)).length else 0

/-- a refresh of the row adds nothing to its history -/
def Silent (env : Env) (s : Site) (id : ℕ) (row : Row) : Prop :=
  ¬ Stirs (s.running row.cluster) row.state row.runningQueries ∧ ¬ Asks env.toConfig s.stores row.cluster row.state ∧
    (Polls env.toConfig row.state → Unremarked (execStatus s.runs id) ∧ linesSince s.runs id (outputs row.events) = [])

/-- a refresh finds the row as it leaves it -/
def Unmoved (env : Env) (s : Site) (id : ℕ) (row : Row) : Prop :=
  polledState env.toConfig (execStatus s.runs id) (drainedAfter (s.running row.cluster) row.state) = row.state ∧
    ((s.running row.cluster).orElse fun _ => row.runningQueries) = row.runningQueries ∧
    ((s.health row.cluster).orElse fun _ => row.healthState) = row.healthState ∧ Silent env s id row

section Refresh

variable {env : Env} {s : Site} {id : ℕ} {row : Row}

theorem polls_drainedAfter {cfg : Config} (running : Option ℤ) (state : State) :
    Polls cfg (drainedAfter running state) ↔ Polls cfg state := by
  unfold Polls
  rcases drainedAfter_cases running state with h | ⟨h, h', -⟩
  · rw [h]
  · rw [h', h]
    simp

theorem exec_view (stored : StoredSequence) : ∃ v, exec (serve env) (view env.toConfig stored) s = (.ok v, s) := by
  unfold view
  by_cases h : stored.sequence.state = .restarting ∧ env.automated = true
  · rw [if_pos h]
    exact ⟨_, rfl⟩
  · rw [if_neg h]
    exact ⟨_, rfl⟩

theorem exec_loadOr404 (hrow : s.world.rows[id]? = some row) :
    exec (serve env) (loadOr404 id) s = (.ok (loadRow env.storage id row), s) := by
  rw [loadOr404, exec_bind exec_perform]
  simp only [serve, handle, readStore_serves (show Oracle.serves.fault = none from rfl), load, hrow]
  rw [lift, exec_bind exec_pure]
  rfl

theorem exec_save {stored : StoredSequence} (hrow : s.world.rows[stored.id]? = some row)
    (hfree : conflicts s.world.rows stored.id row stored.sequence.state = false) :
    ∃ t, exec (serve env) (save stored none) s = (.ok stored.markPersisted,
      { s with world := { s.world with
          rows := s.world.rows.set stored.id
            (row.written env.storage s.world.now stored none stored.pendingEvents.length)
          trace := t } }) := by
  rw [save, exec_bind exec_perform]
  simp only [serve, handle]
  rw [saveSequence_ok rfl hrow hfree, lift, exec_bind exec_pure]
  exact ⟨_, rfl⟩

/-- **One refresh.** It writes the row it has made of the one it loaded; that is the same row exactly when it neither
moves a field nor has anything to log. -/
theorem refresh_row (hsingle : Single s.world) (hrow : s.world.rows[id]? = some row) (hlive : row.state ∉ terminal) :
    ∃ row' t, Refreshed env s id row row' ∧ (row' = row ↔ Unmoved env s id row) ∧
      (exec (serve env) (refresh env.toConfig id) s).2 =
        { s with world := { s.world with rows := s.world.rows.set id row', trace := t } } := by
  obtain ⟨news, ready, detail, hobserve, hout, hnil⟩ := @exec_observe env env.toConfig s
    (loadRow env.storage id row) rfl
  set running := s.running row.cluster with hrunning
  -- the object after the observation, and after the poll
  set seen : StoredSequence := { loadRow env.storage id row with sequence := { (loadRow env.storage id row).sequence with
    state := drainedAfter running row.state
    history := (loadRow env.storage id row).sequence.history ++ news
    runningQueries := running.orElse fun _ => row.runningQueries
    healthState := (s.health row.cluster).orElse fun _ => row.healthState
    configStoreReady := ready, configStoreDetail := detail } } with hseen
  have hobserve' : exec (serve env) (observe env.toConfig (loadRow env.storage id row)) s = (.ok seen, s) := hobserve
  set news' := pollNews env.toConfig s seen with hnews'
  set polled : StoredSequence := { seen with sequence := { seen.sequence with
    state := polledState env.toConfig (execStatus s.runs id) (drainedAfter running row.state)
    history := seen.sequence.history ++ news' } } with hpolled
  have hpoll : exec (serve env) (pollExecutor env.toConfig seen) s = (.ok polled, s) := exec_pollExecutor
  have hhistory : polled.sequence.history = env.storage.readEvents row.events ++ (news ++ news') := by
    simp [hpolled, hseen, loadRow, rebuild]
  have hpending : polled.pendingEvents = news ++ news' := by
    rw [StoredSequence.pendingEvents, hhistory]
    exact List.drop_left' rfl
  have houtputs : outputs (news ++ news') =
      if Polls env.toConfig row.state then (linesSince s.runs id (outputs row.events)).length else 0 := by
    have hshown : outputs seen.sequence.history = outputs row.events := by
      change outputs (env.storage.readEvents row.events ++ news) = _
      rw [outputs_append, outputs_readEvents, hout, add_zero]
    rw [outputs_append, hout, zero_add, hnews', outputs_pollNews, hshown]
    change (if Polls _ (drainedAfter running row.state) then _ else _) = _
    simp only [polls_drainedAfter]
    rfl
  have hsilent : news ++ news' = [] ↔ Silent env s id row := by
    have hshown : outputs seen.sequence.history = outputs row.events := by
      change outputs (env.storage.readEvents row.events ++ news) = _
      rw [outputs_append, outputs_readEvents, hout, add_zero]
    rw [List.append_eq_nil_iff, hnil, hnews', pollNews_eq_nil, hshown]
    unfold Silent
    change (_ ∧ _) ∧ (Polls _ (drainedAfter running row.state) → _) ↔ _
    rw [polls_drainedAfter, and_assoc]
    rfl
  -- whether the object is saved
  have hsame : fingerprint polled = fingerprint (loadRow env.storage id row) ↔ Unmoved env s id row := by
    unfold Unmoved
    rw [← hsilent]
    simp only [fingerprint, Prod.mk.injEq, hhistory, List.length_append]
    refine and_congr Iff.rfl (and_congr Iff.rfl (and_congr Iff.rfl ?_))
    change (env.storage.readEvents row.events).length + _ = (env.storage.readEvents row.events).length ↔ _
    rw [← List.length_append, Nat.add_eq_left, List.length_eq_zero_iff]
  have hrefresh : exec (serve env) (refresh env.toConfig id) s =
      exec (serve env) (if fingerprint polled ≠ fingerprint (loadRow env.storage id row) then
        (do let stored ← save polled none
            view env.toConfig stored)
        else view env.toConfig polled) s := by
    rw [refresh, exec_bind (exec_loadOr404 hrow)]
    dsimp only
    rw [exec_bind hobserve', exec_bind hpoll]
    rfl
  rw [hrefresh]
  by_cases hfp : fingerprint polled = fingerprint (loadRow env.storage id row)
  · -- nothing is saved: the row is what it was
    have hunmoved := hsame.1 hfp
    obtain ⟨hst, hrun, hhealth, hquiet⟩ := hunmoved
    obtain ⟨v, hv⟩ := @exec_view env s polled
    have hset : s.world.rows.set id row = s.world.rows := by
      obtain ⟨hlt, hget⟩ := List.getElem?_eq_some_iff.1 hrow
      rw [← hget, List.set_getElem_self]
    refine ⟨row, s.world.trace, ⟨rfl, hst.symm, hrun.symm, hhealth.symm, ?_⟩, by simp [hsame.1 hfp], ?_⟩
    · rw [← houtputs, hsilent.2 hquiet]
      simp [outputs]
    · rw [if_neg (not_not.2 hfp), hv, hset]
  · obtain ⟨t, hsave⟩ := @exec_save env s row polled hrow
      (conflicts_single hsingle hrow hlive _)
    obtain ⟨v, hv⟩ := @exec_view env { s with world := { s.world with
          rows := s.world.rows.set polled.id
            (row.written env.storage s.world.now polled none polled.pendingEvents.length)
          trace := t } } polled.markPersisted
    refine ⟨row.written env.storage s.world.now polled none polled.pendingEvents.length, t, ⟨rfl, rfl, rfl, rfl, ?_⟩,
      ?_, ?_⟩
    · simp only [Row.written, List.take_length, hpending, outputs_append, houtputs]
    · rw [← hsame]
      refine ⟨fun h => absurd ?_ hfp, fun h => absurd h hfp⟩
      -- a row that was written and is the same has the same fingerprint
      have hwritten : (row.written env.storage s.world.now polled none polled.pendingEvents.length).events =
          row.events ++ (news ++ news') := by
        simp only [Row.written, hpending, List.take_length]
      have hnone : news ++ news' = [] := by
        rw [h] at hwritten
        exact List.self_eq_append_right.1 hwritten
      simp only [fingerprint, Prod.mk.injEq, hhistory, hnone, List.append_nil]
      exact ⟨congrArg Row.state h, congrArg Row.runningQueries h, congrArg Row.healthState h, rfl⟩
    · rw [if_pos hfp, exec_bind hsave, hv]
      rfl

end Refresh

/-! ## The second refresh -/

/-- the next refresh logs again what the last one logged -/
def Repeats (env : Env) (s : Site) (id : ℕ) (row : Row) : Prop :=
  Asks env.toConfig s.stores row.cluster row.state ∨
    (Polls env.toConfig row.state ∧ execStatus s.runs id ∈ [ExecState.failed, .unknown])

instance (env : Env) (s : Site) (id : ℕ) (row : Row) : Decidable (Repeats env s id row) := by
  unfold Repeats; infer_instance

section Second

variable {env : Env} {cfg : Config} {s s' : Site} {id : ℕ} {row row' : Row}

/-- the state a refresh leads to is one the same refresh keeps -/
theorem polledState_settled (running : Option ℤ) (status : ExecState) (state : State) :
    polledState cfg status (drainedAfter running (polledState cfg status (drainedAfter running state))) =
      polledState cfg status (drainedAfter running state) := by
  by_cases hp : Polls cfg state ∧ status = .succeeded
  · have hd : drainedAfter running state = state := by
      rw [hp.1.1]
      cases running <;> rfl
    have hv : polledState cfg status (drainedAfter running state) = .verifying := by
      rw [hd, polledState, if_pos hp]
    rw [hv]
    have hv' : drainedAfter running .verifying = .verifying := by cases running <;> rfl
    rw [hv', polledState, if_neg]
    rintro ⟨⟨h, -⟩, -⟩
    cases h
  · have hf : ∀ st, (Polls cfg st ↔ Polls cfg state) → polledState cfg status st = st := fun st hst =>
      if_neg fun h => hp ⟨hst.1 h.1, h.2⟩
    rw [hf _ (polls_drainedAfter running state)]
    have hd : drainedAfter running (drainedAfter running state) = drainedAfter running state := by
      rcases drainedAfter_cases running state with h | ⟨-, h, -⟩
      · rw [h, h]
      · rw [h]
        cases running <;> rfl
    rw [hd, hf _ (polls_drainedAfter running state)]

theorem polledState_cases (cfg : Config) (status : ExecState) (state : State) :
    (polledState cfg status state = state ∧ ¬ (Polls cfg state ∧ status = .succeeded)) ∨
    (polledState cfg status state = .verifying ∧ Polls cfg state ∧ status = .succeeded) := by
  unfold polledState
  split_ifs with h
  · exact .inr ⟨rfl, h⟩
  · exact .inl ⟨rfl, h⟩

/-- a live sequence is live after a refresh -/
theorem live_refreshed (h : Refreshed env s id row row') (hlive : row.state ∉ terminal) : row'.state ∉ terminal := by
  rw [h.state]
  rcases polledState_cases env.toConfig (execStatus s.runs id)
    (drainedAfter (s.running row.cluster) row.state) with ⟨hp, -⟩ | ⟨hp, -⟩
  · rw [hp]
    rcases drainedAfter_cases (s.running row.cluster) row.state with hd | ⟨-, hd, -⟩
    · rwa [hd]
    · rw [hd]
      decide
  · rw [hp]
    decide

/-- a drain the first refresh did not end is one the second does not stir -/
theorem not_stirs (running remembered : Option ℤ) (status : ExecState) (state : State) :
    ¬ Stirs running (polledState cfg status (drainedAfter running state)) (running.orElse fun _ => remembered) := by
  rintro ⟨hst, n, hn, hcount⟩
  obtain rfl : running = some n := hn
  rcases polledState_cases cfg status (drainedAfter (some n) state) with ⟨hp, -⟩ | ⟨hp, -⟩
  · rw [hp] at hst
    have h0 : n ≠ 0 := by
      rintro rfl
      cases state <;> simp [drainedAfter, RestartSequence.drainedBy] at hst
    rcases hcount with h | ⟨-, h⟩
    · exact h0 h
    · exact h rfl
  · rw [hp] at hst
    cases hst

/-- what the first refresh has made of the row, the second changes again exactly when it logs again -/
theorem unmoved_refreshed (h : Refreshed env s id row row') (hrunning : s'.running row.cluster = s.running row.cluster)
    (hhealth : s'.health row.cluster = s.health row.cluster) (hruns : s'.runs = s.runs) (hstores : s'.stores = s.stores) :
    Unmoved env s' id row' ↔ ¬ Repeats env s id row := by
  unfold Unmoved Silent
  rw [h.cluster, hrunning, hhealth, hruns, hstores, h.state, h.running, h.health, h.outputs]
  have hrun : ((s.running row.cluster).orElse fun _ => (s.running row.cluster).orElse fun _ => row.runningQueries) =
      (s.running row.cluster).orElse fun _ => row.runningQueries := by cases s.running row.cluster <;> rfl
  have hhea : ((s.health row.cluster).orElse fun _ => (s.health row.cluster).orElse fun _ => row.healthState) =
      (s.health row.cluster).orElse fun _ => row.healthState := by cases s.health row.cluster <;> rfl
  simp only [polledState_settled, hrun, hhea, not_stirs, not_false_eq_true, true_and]
  rcases polledState_cases env.toConfig (execStatus s.runs id)
    (drainedAfter (s.running row.cluster) row.state) with ⟨hp, hno⟩ | ⟨hp, hpolls, hsucc⟩
  · rw [hp, asks_drainedAfter, polls_drainedAfter]
    rw [polls_drainedAfter] at hno
    have hlines : Polls env.toConfig row.state → linesSince s.runs id (outputs row.events +
        if Polls env.toConfig row.state then (linesSince s.runs id (outputs row.events)).length else 0) = [] := by
      intro hpolls
      rw [if_pos hpolls]
      unfold linesSince
      cases s.runs id with
      | none => rfl
      | some run =>
        change run.lines.drop (_ + (run.lines.drop _).length) = []
        rw [List.drop_eq_nil_iff, List.length_drop]
        omega
    have hended : Polls env.toConfig row.state →
        (Unremarked (execStatus s.runs id) ↔ execStatus s.runs id ∉ [ExecState.failed, .unknown]) := by
      intro hpolls
      have hsucc : execStatus s.runs id ≠ .succeeded := fun hs => hno ⟨hpolls, hs⟩
      simp [Unremarked, hsucc]
    unfold Repeats
    rw [not_or, not_and]
    refine and_congr Iff.rfl ⟨fun hq hpolls => (hended hpolls).1 (hq hpolls).1, fun hq hpolls => ?_⟩
    exact ⟨(hended hpolls).2 (hq hpolls), hlines hpolls⟩
  · -- the playbook has just been seen to succeed
    rw [polls_drainedAfter] at hpolls
    rw [hp]
    have hno : ¬ Repeats env s id row := by
      rintro (⟨-, hst, -⟩ | ⟨-, hst⟩)
      · rw [hpolls.1] at hst
        simp at hst
      · rw [hsucc] at hst
        simp at hst
    have hv : ¬ Asks env.toConfig s.stores row.cluster .verifying := fun h => by simpa using h.2.1
    have hv' : ¬ Polls env.toConfig .verifying := fun h => by cases h.1
    simp [hno, hv, hv']

end Second

/-- a refresh of the sequence, read off the clock `t` -/
def Site.refreshAt (env : Env) (s : Site) (t : ℚ) (id : ℕ) : Site :=
  (Site.request env { s with world := { s.world with now := t } } (.refresh id)).2

/-- **Refresh is idempotent where it has nothing to repeat.** For every live sequence of every run, and whatever the stored
snapshots, the resource group store and the executor say: a second refresh right after a first one, with everything
observed the same, leaves every stored row as the first left it iff neither the resource group store is asked and answers
with a detail, nor the executor is polled for a playbook that failed or that was lost sight of. -/
theorem refresh_idempotent (env : Env) (now : ℚ) (backends : List Backend) (before : List Label) (runs : Runs)
    (stores : String → Option Bool × String) (id : ℕ) (row : Row) (t t' : ℚ)
    (hrow : (run (step env) (World.init now backends) before).rows[id]? = some row) (hlive : row.state ∉ terminal) :
    let s : Site := ⟨run (step env) (World.init now backends) before, runs, stores⟩
    ((s.refreshAt env t id).refreshAt env t' id).world.rows = (s.refreshAt env t id).world.rows ↔
      ¬ Repeats env s id row := by
  intro s
  have hsingle : Single s.world :=
    run_inv Single (fun w l hw _ => single_step hw l) (meets_of_forall fun _ _ => trivial) (single_init now backends)
  -- the first refresh
  obtain ⟨row', tr, hrefreshed, -, hfirst⟩ := @refresh_row env
    { s with world := ({ s.world with now := t }).called (.refresh id) } id row hsingle hrow hlive
  have hmade : Refreshed env s id row row' :=
    ⟨hrefreshed.cluster, hrefreshed.state, hrefreshed.running, hrefreshed.health, hrefreshed.outputs⟩
  have hfirst' : s.refreshAt env t id = { s with world :=
      { ({ s.world with now := t }).called (.refresh id) with rows := s.world.rows.set id row', trace := tr } } := hfirst
  have hsingle' : Single (s.refreshAt env t id).world := by
    obtain ⟨os, hos⟩ := serve_request env { s with world := { s.world with now := t } } (.refresh id)
    rw [Site.refreshAt, ← hos]
    exact single_step (w := { s.world with now := t }) hsingle _
  have hrow' : (s.refreshAt env t id).world.rows[id]? = some row' := by
    rw [hfirst']
    exact getElem?_written hrow
  -- the second one
  obtain ⟨row'', tr', -, hiff, hsecond⟩ := @refresh_row env
    { s.refreshAt env t id with
      world := ({ (s.refreshAt env t id).world with now := t' }).called (.refresh id) } id row' hsingle' hrow'
    (live_refreshed hmade hlive)
  have hsecond' : ((s.refreshAt env t id).refreshAt env t' id).world.rows =
      (s.refreshAt env t id).world.rows.set id row'' := congrArg (fun s : Site => s.world.rows) hsecond
  rw [hsecond']
  have hset : (s.refreshAt env t id).world.rows.set id row'' = (s.refreshAt env t id).world.rows ↔ row'' = row' := by
    constructor
    · intro h
      have hget := @getElem?_written (s.refreshAt env t id).world.rows id row' row'' hrow'
      rw [h, hrow'] at hget
      exact (Option.some.inj hget).symm
    · rintro rfl
      obtain ⟨hlt, hget⟩ := List.getElem?_eq_some_iff.1 hrow'
      rw [← hget, List.set_getElem_self]
  rw [hset, hiff]
  refine unmoved_refreshed hmade ?_ ?_ ?_ ?_ <;> rw [hfirst'] <;> rfl

/-- a restart whose drain has ended -/
def drainedRun : List Label :=
  [.pollGateway true, .storeQueries (Sample.queries 5 0 0), .call (.start Sample.admin "prod-a" "upgrade") []]

/-- the deployment with a resource group store to ask -/
def Sample.asking : Env := { Sample.env with configStore := true }

/-- the sequence of `drainedRun`, as stored -/
def drainedRow : Row :=
  ((run (step Sample.asking) (World.init 0 [Sample.backend]) drainedRun).rows[0]?).get (by decide +kernel)

/-- a store with nothing to say -/
theorem refresh_idempotent_quiet :
    let s : Site := ⟨run (step Sample.asking) (World.init 0 [Sample.backend]) drainedRun, fun _ => none,
      fun _ => (some true, "")⟩
    ((s.refreshAt Sample.asking 8 0).refreshAt Sample.asking 9 0).world.rows =
      (s.refreshAt Sample.asking 8 0).world.rows :=
  (refresh_idempotent Sample.asking 0 [Sample.backend] drainedRun (fun _ => none) (fun _ => (some true, "")) 0 drainedRow 8
    9 (by decide +kernel) (by decide +kernel)).2 (by decide +kernel)

/-- **Every poll repeats itself.** The store is not ready; the second refresh logs it once more. -/
theorem refresh_repeats :
    let s : Site := ⟨run (step Sample.asking) (World.init 0 [Sample.backend]) drainedRun, fun _ => none,
      fun _ => (some false, "the store is down")⟩
    ((s.refreshAt Sample.asking 8 0).world.rows.map fun row => (row.state, row.events.length)) = [(.drained, 3)] ∧
    (((s.refreshAt Sample.asking 8 0).refreshAt Sample.asking 9 0).world.rows.map
      fun row => (row.state, row.events.length)) = [(.drained, 4)] := by
  decide +kernel

end TrinoManagement.Service
