/-
Every request keeps to its contract: one lemma a request, in the order of the source, and `conforms` over all of them.

Each lemma walks its program once, effect by effect, so what a scenario needs to know about a request it takes from
`Permits` and never from the program.
-/
import Mathlib.Tactic
import TrinoManagement.Ops.Contract

namespace TrinoManagement.Service

open TrinoManagement.Audit TrinoManagement.Collector TrinoManagement.Repository TrinoManagement.Sequence
open TrinoManagement.Prog

/-! ## What an observation lets a request save -/

theorem drainedAfter_cases (running : Option ℤ) (st : State) :
    drainedAfter running st = st ∨ (st = .draining ∧ drainedAfter running st = .drained ∧ running = some 0) := by
  rcases running with _ | n
  · exact .inl rfl
  · cases st <;> simp only [drainedAfter, RestartSequence.drainedBy, true_or]
    split_ifs with h
    · exact .inr ⟨trivial, rfl, h⟩
    · exact .inl rfl

section Saves

variable {kind : Kind} {q : Option QueriesSnapshot} {h : Option HealthSnapshot} {stored s s' : StoredSequence}

/-- the grip after loading and observing -/
def Grip.observed (stored : StoredSequence) (q : Option QueriesSnapshot) (h : Option HealthSnapshot) : Grip :=
  { Grip.ofStored stored with queries := some q, health := some h }

@[simp] theorem counted_observed : (Grip.observed stored q h).counted = observedRunning q := rfl

theorem count_observed (ho : Observed (observedRunning q) (observedHealth h) stored s) :
    (Grip.observed stored q h).count = s.sequence.runningQueries := ho.running.symm

theorem healthNow_observed (ho : Observed (observedRunning q) (observedHealth h) stored s) :
    (Grip.observed stored q h).healthNow = s.sequence.healthState := ho.health.symm

/-- an observation and a poll of the executor, in this order, may be saved -/
theorem saveOk_observed (ho : Observed (observedRunning q) (observedHealth h) stored s) (hp : Polled s s') :
    SaveOk kind (Grip.observed stored q h) s'.sequence.state := by
  change _ ∨ _
  rcases hp.state with hs | ⟨hr, hv⟩
  · rw [hs, ho.state]
    rcases drainedAfter_cases (observedRunning q) stored.sequence.state with hd | ⟨hb, hd, h0⟩
    · exact .inl hd
    · exact .inr (.inl ⟨hb, hd, .inl h0⟩)
  · rw [ho.state] at hr
    rcases drainedAfter_cases (observedRunning q) stored.sequence.state with hd | ⟨-, hd, -⟩
    · exact .inr (.inr (.inl ⟨hd.symm.trans hr, hv⟩))
    · rw [hd] at hr; cases hr

/-- a state the drain does not touch was there before the observation -/
theorem base_of_observed (ho : Observed (observedRunning q) (observedHealth h) stored s)
    (hne : s.sequence.state ≠ .drained) : stored.sequence.state = s.sequence.state := by
  rcases drainedAfter_cases (observedRunning q) stored.sequence.state with hd | ⟨-, hd, -⟩
  · exact (ho.state.trans hd).symm
  · exact absurd (ho.state.trans hd) hne

theorem base_of_drained (ho : Observed (observedRunning q) (observedHealth h) stored s)
    (hd : s.sequence.state ∈ [State.draining, .drained]) : stored.sequence.state ∈ [State.draining, .drained] := by
  rcases drainedAfter_cases (observedRunning q) stored.sequence.state with he | ⟨hb, -, -⟩
  · rwa [← he, ← ho.state]
  · rw [hb]; decide

end Saves

/-! ## The requests -/

section Requests

variable (cfg : Config) (p : Principal)

/-- the conclusion of every lemma below -/
abbrev Conforms (op : Op) : Prop := Keeps op Settled (op.prog cfg) (fun _ σ => Settled σ) ⟨none, false⟩

theorem settled_observed {stored : StoredSequence} {q : Option QueriesSnapshot} {h : Option HealthSnapshot}
    {written : Bool} : Settled ⟨some (Grip.observed stored q h), written⟩ :=
  settled_of_stage rfl (by simp [Grip.observed, Grip.ofStored])

section Frame

variable {op : Op} {id : ℕ}

/-- how a request on a stored row opens: an administrator asks, and the row it names is loaded -/
theorem keeps_opened {α : Type} {f : StoredSequence → M α} {K : α → Ghost → Prop} (ht : ∀ t ∈ op.target, id = t)
    (hK : ∀ stored, Keeps op Settled (f stored) K ⟨some (.ofStored stored), false⟩) :
    Keeps op Settled (requireAdmin p >>= fun _ => loadOr404 id >>= f) K ⟨none, false⟩ := by
  rw [keeps_bind]
  refine keeps_requireAdmin settled_none ?_
  rw [keeps_bind]
  exact keeps_loadOr404 ht mayLoad_init hK

/-- how it ends: what was saved is loaded again for the answer -/
theorem keeps_answered {g : Grip} {base : State} {remembered : Option ℤ} {health : Option String} {written : Bool}
    (ht : ∀ t ∈ op.target, id = t) : Keeps op Settled (get cfg id) (fun _ σ => Settled σ)
      ⟨some { g with base := base, remembered := remembered, rememberedHealth := health
                     stage := g.stage.saved }, written⟩ :=
  keeps_get ht mayLoad_saved fun _ _ h _ => h

end Frame

theorem conforms_refresh (id : ℕ) : Conforms cfg (.refresh id) := by
  change Keeps _ _ (refresh cfg id) _ _
  rw [refresh, keeps_bind]
  refine keeps_loadOr404 (by simp [Op.target]) mayLoad_init ?_
  intro stored
  dsimp only
  rw [keeps_bind]
  refine keeps_observe rfl (by simp [Grip.ofStored]) rfl ?_
  intro q h s ho
  rw [keeps_bind]
  refine keeps_pollExecutor settled_observed ?_
  intro s' hp
  refine keeps_ite (fun _ => ?_) fun _ => keeps_view fun _ => settled_observed
  rw [keeps_bind]
  refine keeps_save rfl (hp.id.trans ho.id) (hp.cluster.trans ho.cluster) (saveOk_observed ho hp) (by simp) (by simp [Op.kind]) ?_
  exact keeps_view fun _ => settled_saved

/-- a force drain that returns has saved -/
theorem saves_forceDrain (id : ℕ) (overrideReason : String) : Keeps (.forceDrain p id overrideReason) Settled
    (forceDrain cfg p id overrideReason) (fun _ σ => Settled σ ∧ σ.grip.isSome ∧ σ.written = true) ⟨none, false⟩ := by
  rw [forceDrain]
  refine keeps_opened p (by simp [Op.target]) ?_
  intro stored
  rw [keeps_bind]
  refine keeps_observe rfl (by simp [Grip.ofStored]) rfl ?_
  intro q h s ho
  rw [keeps_bind]
  refine keeps_invokeOrRefuse settled_observed ?_
  intro t r hr
  rcases @RestartSequence.forceDrained_cases s.sequence t overrideReason with ⟨e, he⟩ | ⟨hst, -, hist, he⟩
  · rw [he] at hr; cases hr
  · rw [he] at hr
    cases hr
    rw [keeps_bind]
    refine keeps_audited settled_observed (keeps_save rfl ho.id ho.cluster ?_ (fun _ => rfl) (fun _ => rfl) ?_)
    · -- forcing a drain saves DRAINED from either state it is allowed in
      have hb := base_of_drained ho hst
      simp only [List.mem_cons, List.not_mem_nil, or_false] at hb
      rcases hb with hb | hb
      · exact .inr (.inl ⟨hb, rfl, .inr rfl⟩)
      · exact .inl hb.symm
    · exact keeps_get (by simp [Op.target]) mayLoad_saved fun _ _ h hw => ⟨h, hw⟩

theorem conforms_forceDrain (id : ℕ) (overrideReason : String) : Conforms cfg (.forceDrain p id overrideReason) :=
  (saves_forceDrain cfg p id overrideReason).mono (fun _ h => h) fun _ _ h => h.1

theorem conforms_restart (id : ℕ) : Conforms cfg (.restart p id) := by
  change Keeps _ _ (restart cfg p id) _ _
  rw [restart]
  refine keeps_opened p (by simp [Op.target]) ?_
  intro stored
  rw [keeps_bind]
  refine keeps_observe rfl (by simp [Grip.ofStored]) rfl ?_
  intro q h s ho
  rw [keeps_bind]
  refine keeps_invokeOrRefuse settled_observed ?_
  intro t r hr
  rcases @RestartSequence.confirmDrained_cases s.sequence t with ⟨e, he⟩ | ⟨hst, ⟨n, hn, hcount⟩, hist, he⟩
  · rw [he] at hr; cases hr
  rw [he] at hr
  cases hr
  rw [keeps_bind]
  refine keeps_invokeOrRefuse settled_observed ?_
  intro t r hr
  rcases RestartSequence.markRestarting_cases with ⟨e, he⟩ | ⟨-, -, hist', he⟩
  · rw [he] at hr; cases hr
  rw [he] at hr
  cases hr
  have hbase := base_of_drained ho hst
  rw [keeps_bind]
  refine keeps_audited settled_observed ?_
  rw [keeps_bind, keeps_perform]
  refine ⟨⟨_, rfl, ho.cluster.symm, ho.id.symm, rfl, rfl, rfl, hbase, rfl, n, hn, (count_observed ho).trans hcount⟩,
    fun r => ?_⟩
  rcases r with e | state
  · exact settled_none
  · rw [lift, keeps_pure]
    -- either note is one more log line, and then RESTARTING is saved
    have rest : ∀ hist, Keeps (.restart p id) Settled (do
        let _ ← save { s with sequence := { s.sequence with state := .restarting, history := hist } } none
        get cfg id) (fun _ σ => Settled σ)
        ⟨some { Grip.observed stored q h with stage := .launched }, true⟩ := fun hist => by
      rw [keeps_bind]
      refine keeps_save rfl ho.id ho.cluster ⟨hbase, rfl⟩ (by simp) (by simp [Op.kind]) ?_
      exact keeps_answered cfg (by simp [Op.target])
    have settled : Settled ⟨some { Grip.observed stored q h with stage := .launched }, true⟩ :=
      settled_of_stage rfl (by simp)
    refine keeps_ite (fun _ => ?_) fun _ => ?_
    · rw [keeps_bind]
      exact keeps_log settled fun hist => rest hist
    · rw [keeps_bind]
      exact keeps_log settled fun hist => rest hist

theorem conforms_markRestarted (id : ℕ) : Conforms cfg (.markRestarted p id) := by
  change Keeps _ _ (markRestarted cfg p id) _ _
  rw [markRestarted]
  refine keeps_opened p (by simp [Op.target]) ?_
  intro stored
  rw [keeps_bind]
  refine keeps_invokeOrRefuse (settled_of_stage rfl (by simp [Grip.ofStored])) ?_
  intro t r hr
  rcases @RestartSequence.markRestarted_cases stored.sequence t with ⟨e, he⟩ | ⟨hst, hist, he⟩
  · rw [he] at hr; cases hr
  rw [he] at hr
  cases hr
  rw [keeps_bind]
  refine keeps_observe rfl (by simp [Grip.ofStored]) rfl ?_
  intro q h s ho
  rw [keeps_bind]
  refine keeps_save rfl ho.id ho.cluster (.inr (.inr (.inl ⟨hst, ?_⟩))) (by simp) (by simp [Op.kind]) ?_
  · rw [ho.state]
    cases observedRunning q <;> rfl
  · exact keeps_answered cfg (by simp [Op.target])

theorem conforms_complete (id : ℕ) : Conforms cfg (.complete p id) := by
  change Keeps _ _ (complete cfg p id) _ _
  rw [complete]
  refine keeps_opened p (by simp [Op.target]) ?_
  intro stored
  rw [keeps_bind]
  refine keeps_observe rfl (by simp [Grip.ofStored]) rfl ?_
  intro q h s ho
  rw [keeps_bind]
  refine keeps_attempt ?_
  intro t
  rcases @RestartSequence.confirmHealthy_cases s.sequence t with ⟨e, he⟩ | ⟨hst, hgood, hist, he⟩
  · rw [he]
    cases e with
    | stepBlocked m =>
      dsimp only
      rw [keeps_bind]
      refine keeps_save rfl ho.id ho.cluster (saveOk_observed ho (.refl s)) (by simp) (by simp [Op.kind]) ?_
      exact settled_saved
    | sequenceError m => exact settled_observed
    | typeError => exact settled_observed
  rw [he]
  dsimp only
  have hbase : stored.sequence.state = .verifying := (base_of_observed ho (by simp [hst])).trans hst
  rw [keeps_bind]
  refine keeps_audited settled_observed (keeps_setGatewayActive (g := Grip.observed stored q h) rfl ho.cluster
    ⟨rfl, .inl ⟨rfl, hbase, rfl, (healthNow_observed ho).trans hgood, rfl⟩⟩ (by simp) ?_ ?_ fun gw => ?_)
  · exact fun gw => settled_of_stage rfl (by simp [Grip.observed, Grip.ofStored])
  · exact fun gw e => settled_of_stage rfl (by simp [Stage.switched, Grip.observed, Grip.ofStored])
  · -- traffic is back: nothing before the save can raise
    rw [keeps_bind]
    have hcomplete := fun t => @RestartSequence.complete_ok { s.sequence with history := hist } t hst hgood
    refine keeps_invoke (fun t r hr => ?_) fun t r e hr => ?_
    · obtain ⟨hist', he⟩ := hcomplete t
      obtain rfl := (Prod.mk.inj (he.symm.trans hr)).1
      rw [keeps_bind]
      refine keeps_save rfl ho.id ho.cluster (.inl ⟨hbase, rfl⟩) (by simp) (by simp [Op.kind]) ?_
      exact keeps_answered cfg (by simp [Op.target])
    · obtain ⟨hist', he⟩ := hcomplete t
      exact absurd (Prod.mk.inj (he.symm.trans hr)).2 (by simp)

theorem conforms_abort (id : ℕ) (note : String) : Conforms cfg (.abort p id note) := by
  change Keeps _ _ (abort cfg p id note) _ _
  rw [abort]
  refine keeps_opened p (by simp [Op.target]) ?_
  intro stored
  rw [keeps_bind]
  refine keeps_invokeOrRefuse (settled_of_stage rfl (by simp [Grip.ofStored])) ?_
  intro t r hr
  rcases @RestartSequence.beginAbort_cases stored.sequence t note with ⟨e, he⟩ | ⟨hst, hist, he⟩
  · rw [he] at hr; cases hr
  rw [he] at hr
  cases hr
  rw [keeps_bind]
  refine keeps_save rfl rfl rfl (.inr (.inr (.inr ⟨hst, rfl, rfl⟩))) (by simp) (by simp [Op.kind]) ?_
  rw [keeps_bind]
  -- once ABORTING is stored, a reactivation that raises leaves the request where it was
  refine keeps_tryCatch (fun σ => ∃ g, σ.grip = some g ∧ g.id = stored.id ∧ g.cluster = stored.sequence.cluster ∧
    g.base = .aborting ∧ g.stage = .loaded) ?_ ?_
  · refine keeps_audited ⟨_, rfl, rfl, rfl, rfl, rfl⟩
      (keeps_setGatewayActive rfl rfl ⟨rfl, .inr ⟨rfl, rfl⟩⟩ (by simp) ?_ ?_ fun gw => ?_)
    · exact fun gw => ⟨_, rfl, rfl, rfl, rfl, rfl⟩
    · exact fun gw e => ⟨_, rfl, rfl, rfl, rfl, rfl⟩
    · rw [keeps_bind]
      refine keeps_invoke (fun t r hr => ?_) fun t r e hr => ?_
      · obtain ⟨hist', he⟩ := @RestartSequence.finishAbort_ok { stored.sequence with state := .aborting, history := hist } t rfl
        obtain rfl := (Prod.mk.inj (he.symm.trans hr)).1
        rw [keeps_bind]
        refine keeps_save rfl rfl rfl (.inr ⟨rfl, rfl⟩) (by simp) (by simp [Op.kind]) ?_
        exact keeps_answered cfg (by simp [Op.target])
      · obtain ⟨hist', he⟩ := @RestartSequence.finishAbort_ok { stored.sequence with state := .aborting, history := hist } t rfl
        exact absurd (Prod.mk.inj (he.symm.trans hr)).2 (by simp)
  · rintro e σ ⟨g, hg, hid, hc, hb, hs⟩
    have settled : Settled σ := settled_of_stage hg (by simp [hs])
    dsimp only
    rw [keeps_bind]
    refine keeps_log settled ?_
    intro hist'
    rw [keeps_bind]
    have hst : SaveOk .abort g .aborting := by rw [SaveOk, hs]; exact .inl hb.symm
    exact keeps_save hg hid.symm hc.symm hst (by simp) (by simp [Op.kind]) settled_saved

theorem conforms_start (cluster reason : String) : Conforms cfg (.start p cluster reason) := by
  change Keeps _ _ (start cfg p cluster reason) _ _
  rw [start, keeps_bind]
  refine keeps_requireAdmin settled_none ?_
  rw [keeps_bind]
  have h404 : ∀ K : Unit → Ghost → Prop, K () ⟨none, false⟩ →
      Keeps (.start p cluster reason) Settled (clusterOr404 cfg cluster) K ⟨none, false⟩ := by
    intro K hK
    unfold clusterOr404
    cases cfg.cluster cluster with
    | none => exact settled_none
    | some _ => exact hK
  refine h404 _ ?_
  split
  swap
  · exact settled_none
  rename_i hblank
  rw [keeps_bind]
  refine keeps_tryCatch (fun σ => σ = ⟨none, false⟩) ?_ fun e σ hσ => by rw [hσ]; exact settled_none
  rw [keeps_bind, keeps_perform]
  refine ⟨trivial, fun r => ?_⟩
  rcases r with e | ⟨⟩
  · rfl
  rw [lift, keeps_pure]
  rw [keeps_bind]
  refine keeps_tryCatch Settled (keeps_create rfl rfl rfl fun id => ?_) fun e σ hσ => by cases e <;> exact hσ
  rw [keeps_bind]
  -- a deactivation that raised, or was never tried, leaves a sequence that was only created
  refine keeps_tryCatch (fun σ => ∃ g, σ.grip = some g ∧ g.id = id ∧ g.cluster = cluster ∧ g.base = .pending ∧
    (g.stage = .created ∨ g.stage = .unstopped)) ?_ ?_
  · refine keeps_audited ⟨_, rfl, rfl, rfl, rfl, .inl rfl⟩
      (keeps_setGatewayActive rfl rfl ⟨rfl, rfl⟩ (fun _ => rfl) ?_ ?_ fun gw => ?_)
    · exact fun gw => ⟨_, rfl, rfl, rfl, rfl, .inl rfl⟩
    · exact fun gw e => ⟨_, rfl, rfl, rfl, rfl, .inr rfl⟩
    · have settled : ∀ g : Grip, g.stage = .stopped → Settled ⟨some g, true⟩ :=
        fun g hg => settled_of_stage rfl (by simp [hg])
      rw [keeps_bind]
      refine keeps_invoke (fun t r hr => ?_) fun _ _ _ _ => settled _ rfl
      rcases @RestartSequence.begin_cases
        (RestartSequence.initial cluster (Text.Reason.ofString reason hblank) p.username) t with ⟨e, he⟩ | ⟨-, hist, he⟩
      · exact absurd (Prod.mk.inj (he.symm.trans hr)).2 (by simp)
      obtain rfl := (Prod.mk.inj (he.symm.trans hr)).1
      rw [keeps_bind]
      refine keeps_observe rfl (by simp [Stage.switched]) rfl ?_
      intro q h s ho
      rw [keeps_bind]
      refine keeps_save rfl ho.id ho.cluster ⟨rfl, ?_⟩ (by simp) (by simp [Op.kind]) ?_
      · rw [ho.state]
        rcases drainedAfter_cases (observedRunning q) .draining with hd | ⟨-, hd, h0⟩
        · exact .inl hd
        · exact .inr ⟨hd, h0⟩
      · exact keeps_answered cfg (by simp [Op.target])
  · rintro e σ ⟨g, hg, hid, hc, hb, hs⟩
    have settled : Settled σ := settled_of_stage hg (by rcases hs with hs | hs <;> simp [hs])
    rw [keeps_bind]
    refine keeps_log settled ?_
    intro hist
    rw [keeps_bind]
    refine keeps_invoke (fun t r hr => ?_) fun _ _ _ _ => settled
    obtain ⟨hist', he⟩ := @RestartSequence.beginAbort_ok { RestartSequence.initial cluster
      (Text.Reason.ofString reason hblank) p.username with history := hist } t "Nothing was changed." (by
        simp [RestartSequence.initial, terminal])
    obtain rfl := (Prod.mk.inj (he.symm.trans hr)).1
    rw [keeps_bind]
    refine keeps_invoke (fun t r hr => ?_) fun _ _ _ _ => settled
    obtain ⟨hist'', he⟩ := @RestartSequence.finishAbort_ok { RestartSequence.initial cluster
      (Text.Reason.ofString reason hblank) p.username with state := .aborting, history := hist' } t rfl
    obtain rfl := (Prod.mk.inj (he.symm.trans hr)).1
    rw [keeps_bind]
    refine keeps_save hg hid.symm hc.symm ?_ (by simp) (by simp [Op.kind]) (settled_of_stage rfl ?_)
    · rcases hs with hs | hs
      · rw [SaveOk, hs]; exact ⟨hb, .inr rfl⟩
      · rw [SaveOk, hs]; exact ⟨hb, rfl⟩
    · rcases hs with hs | hs <;> simp [hs, Stage.saved]

/-- **Every request keeps to its contract**, whatever the outside answers. -/
theorem conforms (op : Op) : Conforms cfg op := by
  cases op with
  | start p cluster reason => exact conforms_start cfg p cluster reason
  | refresh id => exact conforms_refresh cfg id
  | forceDrain p id reason => exact conforms_forceDrain cfg p id reason
  | restart p id => exact conforms_restart cfg p id
  | markRestarted p id => exact conforms_markRestarted cfg p id
  | complete p id => exact conforms_complete cfg p id
  | abort p id note => exact conforms_abort cfg p id note

end Requests

end TrinoManagement.Service
