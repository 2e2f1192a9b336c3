/-
Does a forced drain lead to a restart?

`force_drain` moves the sequence to DRAINED past its running queries, and keeps the reason on the row. `restart` then
observes again and calls `confirm_drained`, which asks the count as if nothing had been forced.

- `force_path`: after a force drain that succeeded and anything observed since, a restart that the outside serves starts
  the executor and stores RESTARTING iff the count it reads is zero.
- `forced_restart_refused`: with three queries still running, the forced restart is refused.
-/
import Mathlib.Tactic
import TrinoManagement.Ops.Serving
import TrinoManagement.Scenarios.Backends
import TrinoManagement.Scenarios.Evidence

namespace TrinoManagement.Service

open TrinoManagement.Audit TrinoManagement.Collector TrinoManagement.Repository TrinoManagement.Sequence
open TrinoManagement.Run (Meets meets_of_forall run run_inv)

/-! ## What is claimed -/

/-- the request returned -/
def Succeeds (env : Env) (w : World) (op : Op) (os : List Oracle) : Prop :=
  (Prog.run (handle env) os (op.prog env.toConfig) (w.called op)).1.isOk = true

instance (env : Env) (w : World) (op : Op) (os : List Oracle) : Decidable (Succeeds env w op os) := by
  unfold Succeeds; infer_instance

/-- refreshes, and whatever happens outside requests -/
def Watching : Label → Prop
  | .call (.refresh _) _ => True
  | .call .. => False
  | _ => True

instance : DecidablePred Watching
  | .call (.refresh _) _ => inferInstanceAs (Decidable True)
  | .call (.start ..) _ | .call (.forceDrain ..) _ | .call (.restart ..) _ | .call (.markRestarted ..) _
  | .call (.complete ..) _ | .call (.abort ..) _ => inferInstanceAs (Decidable False)
  | .clock _ | .storeQueries _ | .storeHealth _ | .pollGateway _ | .editGateway _ => inferInstanceAs (Decidable True)

def launches (id : ℕ) : Event → Bool
  | .launched _ i _ => i == id
  | _ => false

/-- the request being served has started the executor for the sequence -/
def Launched (w : World) (id : ℕ) : Prop := (sameRequest w.trace).any (launches id) = true

/-- the executor was started, and RESTARTING is stored -/
def Restarted (w : World) (id : ℕ) : Prop := Launched w id ∧ w.rows[id]?.map (·.state) = some .restarting

instance (w : World) (id : ℕ) : Decidable (Restarted w id) := by unfold Restarted Launched; infer_instance

/-- the count a restart reads is zero: that of the stored snapshot if it can be trusted, else the one remembered -/
def CountsZero (w : World) (id : ℕ) : Prop :=
  ∃ row ∈ w.rows[id]?, ∃ n ∈ (observedRunning (w.queries row.cluster)).orElse fun _ => row.runningQueries, n ≤ 0

instance (w : World) (id : ℕ) : Decidable (CountsZero w id) := by unfold CountsZero; infer_instance

/-! ## Forced, and still drained -/

/-- DRAINED is stored -/
def IsDrained (w : World) (id : ℕ) : Prop := w.rows[id]?.map (·.state) = some .drained

section Forced

variable {env : Env} {op : Op} {w w' : World} {σ : Ghost} {o : Oracle} {id : ℕ}

theorem IsDrained.same (h : IsDrained w id) (hrows : w'.rows = w.rows) : IsDrained w' id := by
  unfold IsDrained
  rw [hrows]
  exact h

theorem isDrained_written {row row' : Row} {t : List Event} (hrow : w.rows[id]? = some row) (hst : row'.state = .drained) :
    IsDrained { w with rows := w.rows.set id row', trace := t } id := by
  simp [IsDrained, getElem?_written hrow, hst]

theorem isDrained_other {i : ℕ} {row' : Row} {t : List Event} (h : IsDrained w id) (hne : i ≠ id) :
    IsDrained { w with rows := w.rows.set i row', trace := t } id := by
  simp only [IsDrained, List.getElem?_set_ne hne]
  exact h

theorem stage_quiet {e : Act} (hq : e.writes = false) {r : e.Answer} (h : ∀ g, σ.grip = some g → g.stage = .loaded) :
    ∀ g, (σ.after e r).grip = some g → g.stage = .loaded := by
  intro g hg
  rcases (after_quiet hq r).2 g hg with hs | ⟨g₀, hg₀, -, -, -, hs⟩
  · exact hs
  · exact hs.trans (h g₀ hg₀)

/-- while a force drain runs: what it has saved is DRAINED -/
structure Forcing (id : ℕ) (w : World) (σ : Ghost) : Prop where
  stage : ∀ g, σ.grip = some g → g.stage = .loaded
  drained : σ.grip.isSome → σ.written = true → IsDrained w id

theorem forcing_handle {p : Principal} {reason : String} :
    Preserves env (.forceDrain p id reason) (fun _ => True) (Forcing id) := by
  intro o e w σ _ hl h hp
  cases e with
  | insert s roles => simpa [Op.kind] using permits_insert hp
  | save stored forceReason =>
    have hdrained : stored.sequence.state = .drained := by
      obtain ⟨_, _, _, _, _, _, hd⟩ := hp
      exact hd rfl
    obtain ⟨g, hg, hid, hst, hcases⟩ := save_linked env o hl hp
    obtain rfl : g.id = id := (hl g hg).2 id rfl
    simp only [handle]
    rcases hcases with ⟨e, he⟩ | ⟨row, row', r, t, hrow, hc, hb, hc', hs, he⟩
    · rw [he]
      exact ⟨fun _ h => (by cases h), fun h => (by cases h)⟩
    · rw [he]
      refine ⟨fun g' hg' => ?_, fun _ _ => isDrained_written hrow (hs.trans hdrained)⟩
      obtain ⟨-, g₀, hg₀, rfl⟩ := after_save hg'
      simp [h.stage g₀ hg₀, Stage.saved]
  | setActive backend active => simpa [Op.kind] using permits_setActive hp
  | execStart cluster i => simpa [Op.kind] using permits_execStart hp
  | _ =>
    refine ⟨stage_quiet rfl h.stage, fun hg hw => ?_⟩
    have hw' := (written_quiet rfl).symm.trans hw
    exact h.drained (grip_quiet rfl hp hw' hg) hw'

/-- a force drain that returned has stored DRAINED -/
theorem isDrained_forced {p : Principal} {reason : String} {os : List Oracle}
    (h : Succeeds env w (.forceDrain p id reason) os) : IsDrained (step env w (.call (.forceDrain p id reason) os)) id := by
  obtain ⟨σ, hJ, -, hend⟩ := request_ends os (saves_forceDrain env.toConfig p id reason) (@forcing_handle env id p reason)
    trivial (fun _ _ => trivial) ⟨fun _ h => (by cases h), fun h => (by cases h)⟩
  unfold Succeeds at h
  cases hr : (Prog.run (handle env) os ((Op.forceDrain p id reason).prog env.toConfig)
      (w.called (.forceDrain p id reason))).1 with
  | error e => rw [hr] at h; cases h
  | ok v =>
    rw [hr] at hend
    exact hJ.drained hend.2.1 hend.2.2

/-- while a refresh runs -/
structure Refreshing (id : ℕ) (w : World) (σ : Ghost) : Prop where
  stage : ∀ g, σ.grip = some g → g.stage = .loaded
  drained : IsDrained w id

theorem refreshing_handle {i : ℕ} : Preserves env (.refresh i) (fun _ => True) (Refreshing id) := by
  intro o e w σ _ hl h hp
  cases e with
  | insert s roles => simpa [Op.kind] using permits_insert hp
  | save stored forceReason =>
    obtain ⟨g, hg, hid, hst, hcases⟩ := save_linked env o hl hp
    simp only [handle]
    rcases hcases with ⟨e, he⟩ | ⟨row, row', r, t, hrow, hc, hb, hc', hs, he⟩
    · rw [he]
      exact ⟨fun _ h => (by cases h), h.drained⟩
    · rw [he]
      refine ⟨fun g' hg' => ?_, ?_⟩
      · obtain ⟨-, g₀, hg₀, rfl⟩ := after_save hg'
        simp [h.stage g₀ hg₀, Stage.saved]
      · by_cases hne : g.id = id
        · -- a refresh of a drained sequence saves it drained
          subst hne
          have hbase : g.base = .drained := by
            have := h.drained
            rw [IsDrained, hrow, Option.map_some, hb] at this
            exact Option.some.inj this
          rw [SaveOk, h.stage g hg] at hst
          refine isDrained_written hrow (hs.trans ?_)
          simpa [hbase, Op.kind] using hst
        · exact isDrained_other h.drained hne
  | setActive backend active => simpa [Op.kind] using permits_setActive hp
  | execStart cluster i => simpa [Op.kind] using permits_execStart hp
  | _ => exact ⟨stage_quiet rfl h.stage, h.drained⟩

/-- observing a drained sequence leaves it drained -/
theorem isDrained_watching (h : IsDrained w id) {l : Label} (hl : Watching l) : IsDrained (step env w l) id := by
  cases l with
  | call op os =>
    cases op with
    | refresh i =>
      obtain ⟨σ, hJ, -, -⟩ := request_inv os (@refreshing_handle env id i) trivial
        (fun _ _ => trivial) ⟨fun _ h => (by cases h), h⟩
      exact hJ.drained
    | _ => exact hl.elim
  | _ => exact h

/-! ## The restart -/

/-- while a restart runs: nothing is written before the executor is started, and that only past a count of zero -/
structure Restarting (w₀ : World) (id : ℕ) (w : World) (σ : Ghost) : Prop where
  same : σ.written = false → w.rows = w₀.rows ∧ w.queries = w₀.queries
  launched : Launched w id → CountsZero w₀ id

theorem launched_cons {e : Event} (ht : w'.trace = e :: w.trace) (he : (calledOp e).isNone = true)
    (hl : launches id e = false) : Launched w' id ↔ Launched w id := by
  simp [Launched, sameRequest, ht, he, hl]

/-- what the contract demands before the executor is started -/
theorem countsZero_execStart {w₀ : World} {p : Principal} {cluster : String} {i : ℕ}
    (hl : Linked (.restart p id) w σ) (h : Restarting w₀ id w σ) (hp : Permits (.restart p id) σ (.execStart cluster i)) :
    CountsZero w₀ id := by
  obtain ⟨g, hg, -, -, -, hw, -, -, hread, n, hn, hcount⟩ := hp
  obtain ⟨⟨⟨row, hrow, hc, -, hrem, -⟩, hqueries, -, -⟩, htarget⟩ := hl g hg
  obtain rfl : g.id = id := htarget id rfl
  obtain ⟨q, hq⟩ := Option.isSome_iff_exists.1 hread
  obtain ⟨hrows, hstored⟩ := h.same hw
  refine ⟨row, hrows ▸ hrow, n, ?_, hn⟩
  rw [← hstored, hc, hqueries q hq, hrem]
  simpa [Grip.count, Grip.counted, hq] using hcount

theorem restarting_handle {w₀ : World} {p : Principal} :
    Preserves env (.restart p id) (fun _ => True) (Restarting w₀ id) := by
  intro o e w σ _ hl h hp
  cases e with
  | insert s roles => simpa [Op.kind] using permits_insert hp
  | save stored forceReason =>
    simp only [handle]
    refine ⟨fun hw => by simp at hw, ?_⟩
    rcases @saveSequence_cases env o w stored forceReason with ⟨e, he⟩ | ⟨row, n, r, forced, hrow, -, he⟩
    · rw [he]; exact h.launched
    · rw [he]
      exact fun hlaunched => h.launched ((launched_cons rfl rfl rfl).1 hlaunched)
  | setActive backend active => simpa [Op.kind] using permits_setActive hp
  | execStart cluster i => exact ⟨fun hw => by simp [handle] at hw, fun _ => countsZero_execStart hl h hp⟩
  | _ => exact ⟨fun hw => h.same ((written_quiet rfl).symm.trans hw), h.launched⟩

/-- the executor is started: RESTARTING is saved, and reading it back changes nothing -/
theorem leads_record {stored : StoredSequence} {row : Row} (hid : stored.id = id)
    (hst : stored.sequence.state = .restarting) (hrow : w.rows[id]? = some row) (hdrained : row.state = .drained)
    (hsingle : Single w) (hlaunched : Launched w id) :
    Leads Serves env (fun w' => Restarted w' id) (do
      let _ ← save stored none
      get env.toConfig id) (fun _ w' => Restarted w' id) w := by
  subst hid
  have hfree : conflicts w.rows stored.id row stored.sequence.state = false :=
    conflicts_single hsingle hrow (by simp [hdrained, terminal]) _
  rw [leads_bind, save, leads_bind, leads_perform]
  intro o ho
  simp only [handle]
  rw [saveSequence_ok ho.fault hrow hfree, lift, leads_bind, leads_pure, leads_pure]
  have restarted : ∀ w' w'' : World, w'.rows[stored.id]?.map (·.state) = some .restarting → Launched w' stored.id →
      SameButAudit w' w'' → Restarted w'' stored.id := fun w' w'' hr hl h =>
    ⟨by rw [Launched, h.trace]; exact hl, by rw [h.rows]; exact hr⟩
  refine leads_quiet quiet_get (fun w'' => restarted _ w'' ?_ ?_) fun _ w'' => restarted _ w'' ?_ ?_
  · simp [getElem?_written hrow, hst]
  · exact (launched_cons rfl rfl rfl).2 hlaunched
  · simp [getElem?_written hrow, hst]
  · exact (launched_cons rfl rfl rfl).2 hlaunched

/-- a restart of a drained sequence whose count is zero gets through, if it is served -/
theorem leads_restart {p : Principal} {row : Row} {n : ℤ} (hadmin : p.can manageHealth = true) (hsingle : Single w)
    (hrow : w.rows[id]? = some row) (hst : row.state = .drained)
    (hcount : ((observedRunning (w.queries row.cluster)).orElse fun _ => row.runningQueries) = some n) (hn : n ≤ 0) :
    Leads Serves env (fun w' => Restarted w' id) (restart env.toConfig p id) (fun _ w' => Restarted w' id) w := by
  rw [restart, leads_bind]
  refine leads_ite (fun _ => ?_) fun h => absurd hadmin h
  rw [leads_pure, leads_bind]
  refine leads_loadOr404 stores_serves hrow ?_
  rw [leads_bind]
  refine leads_observe (by simp [loadRow, rebuild, RestartSequence.initial]) ?_
  intro s ho hready
  have hdrained : s.sequence.state = .drained := by
    rw [ho.state, loadRow_state, hst]
    rcases drainedAfter_cases (observedRunning (w.queries row.cluster)) .drained with hd | ⟨hd, -⟩
    · exact hd
    · cases hd
  have hcount' : s.sequence.runningQueries = some n := ho.running.trans hcount
  rw [leads_bind]
  refine leads_invokeOrRefuse ?_
  intro t
  obtain ⟨hist, he⟩ := @RestartSequence.confirmDrained_ok s.sequence t (by simp [hdrained]) n hcount' hn
  refine ⟨_, he, ?_⟩
  rw [leads_bind]
  refine leads_invokeOrRefuse ?_
  intro t
  obtain ⟨hist', he'⟩ := @RestartSequence.markRestarting_ok { s.sequence with state := .drained, history := hist } t rfl hready
  refine ⟨_, he', ?_⟩
  rw [leads_bind]
  refine leads_audited stores_serves s.sequence.reason.notBlank ?_
  rw [leads_bind, leads_perform]
  intro o ho'
  obtain ⟨state, hstate⟩ := ho'.executor
  simp only [handle, startAnswer, hstate]
  rw [lift, leads_pure]
  intro w' hw'
  have hlaunched : Launched w' id := by
    simp [Launched, hw'.trace, sameRequest, calledOp, launches, ho.id]
  have hrow' : w'.rows[id]? = some row := by rw [hw'.rows]; exact hrow
  have hsingle' : Single w' := by rw [Single, hw'.rows]; exact hsingle
  -- the executor is started; one more log line, and RESTARTING is saved
  have rest : ∀ stored : StoredSequence, stored.id = s.id → stored.sequence.state = .restarting → Leads Serves env _ _ _ w' :=
    fun stored hid hst' => leads_record (hid.trans ho.id) hst' hrow' hst hsingle' hlaunched
  refine leads_ite (fun _ => ?_) fun _ => ?_
  · rw [leads_bind]
    exact leads_invoke fun t => ⟨_, RestartSequence.log_warn .., rest _ rfl rfl⟩
  · rw [leads_bind]
    exact leads_invoke fun t => ⟨_, RestartSequence.log_info .., rest _ rfl rfl⟩

end Forced

/-- **The force path.** After any run, a force drain that succeeded, and any refreshes and observations since: a restart by
an operator that the outside serves starts the executor and stores RESTARTING iff the count it reads is zero. -/
theorem force_path (env : Env) (now : ℚ) (backends : List Backend) (before between : List Label) (p q : Principal) (id : ℕ)
    (reason : String) (os os' : List Oracle)
    (hforced : Succeeds env (run (step env) (World.init now backends) before) (.forceDrain p id reason) os)
    (hbetween : ∀ l ∈ between, Watching l) (hadmin : q.can manageHealth = true) (hserves : ∀ o ∈ os', Serves o) :
    Restarted (run (step env) (World.init now backends)
      (before ++ [.call (.forceDrain p id reason) os] ++ between ++ [.call (.restart q id) os'])) id ↔
    CountsZero (run (step env) (World.init now backends)
      (before ++ [.call (.forceDrain p id reason) os] ++ between)) id := by
  rw [Run.run_snoc]
  have hdrained : IsDrained (run (step env) (World.init now backends)
      (before ++ [.call (.forceDrain p id reason) os] ++ between)) id := by
    rw [Run.run_append, Run.run_snoc]
    exact run_inv (fun w => IsDrained w id) (fun w l hw hl => isDrained_watching hw hl) (meets_of_forall hbetween)
      (isDrained_forced hforced)
  have hsingle : Single (run (step env) (World.init now backends)
      (before ++ [.call (.forceDrain p id reason) os] ++ between)) :=
    run_inv Single (fun w l hw _ => single_step hw l) (meets_of_forall fun _ _ => trivial) (single_init now backends)
  generalize run (step env) (World.init now backends) (before ++ [.call (.forceDrain p id reason) os] ++ between) = w
    at hdrained hsingle
  constructor
  · rintro ⟨hlaunched, -⟩
    obtain ⟨σ, hJ, -, -⟩ := request_inv os' (@restarting_handle env id w q) trivial
      (fun _ _ => trivial) ⟨fun _ => ⟨rfl, rfl⟩, fun h => by simp [Launched, sameRequest, World.called, calledOp] at h⟩
    exact hJ.launched hlaunched
  · rintro ⟨row, hrow, n, hcount, hn⟩
    have hst : row.state = .drained := by
      rw [IsDrained, show w.rows[id]? = some row from hrow] at hdrained
      exact Option.some.inj hdrained
    have hleads : Leads Serves env (fun w' => Restarted w' id) (restart env.toConfig q id) (fun _ w' => Restarted w' id)
        (w.called (.restart q id)) := leads_restart hadmin hsingle hrow hst hcount hn
    have hend := Prog.wp_run serves_default hserves hleads
    revert hend
    change Prog.Ends _ _ (Prog.run (handle env) os' (restart env.toConfig q id) (w.called (.restart q id))).1 _ → _
    cases (Prog.run (handle env) os' (restart env.toConfig q id) (w.called (.restart q id))).1 <;> exact fun h => h

attribute [irreducible] Restarted

/-- a drain that three queries hold up -/
def drainingRun : List Label :=
  [.pollGateway true, .call (.start Sample.admin "prod-a" "upgrade") [], .storeQueries (Sample.queries 5 3 0)]

/-- the queries end between the forced drain and the restart -/
theorem force_path_ended :
    Restarted (run (step Sample.env) (World.init 0 [Sample.backend])
      (drainingRun ++ [.call (.forceDrain Sample.admin 0 "no time") []] ++
        [.storeQueries (Sample.queries 9 0 0), .call (.refresh 0) []] ++ [.call (.restart Sample.admin 0) []])) 0 :=
  (force_path Sample.env 0 [Sample.backend] drainingRun [.storeQueries (Sample.queries 9 0 0), .call (.refresh 0) []]
    Sample.admin Sample.admin 0 "no time" [] [] (by decide +kernel) (by decide +kernel) (by decide +kernel)
    (by decide +kernel)).2 (by decide +kernel)

/-- **The force path is closed.** The drain was forced past three running queries; the restart is refused for them. -/
theorem forced_restart_refused :
    Succeeds Sample.env (run (step Sample.env) (World.init 0 [Sample.backend]) drainingRun)
      (.forceDrain Sample.admin 0 "no time") [] ∧
    ¬ Restarted (run (step Sample.env) (World.init 0 [Sample.backend])
      (drainingRun ++ [.call (.forceDrain Sample.admin 0 "no time") []] ++ [] ++
        [.call (.restart Sample.admin 0) []])) 0 := by
  decide +kernel

end TrinoManagement.Service
