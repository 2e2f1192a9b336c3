/-
Configuration and staleness: if every poll succeeds at the moment it is scheduled for, no health evaluation is stale once
all three kinds have been polled.

`build_config` holds the stale threshold against the base interval of the queries only.
- `round_onTime`: what was polled is recent until it is due again, if no interval is longer than the threshold.
- `staleness_agrees`: and an interval that is longer shows in two ticks. `jmx_goes_stale` is one the collector itself
  comes to with a JMX interval of a minute.
-/
import Mathlib.Tactic
import TrinoManagement.Collector.HealthWriter

namespace TrinoManagement.HealthWriter

open TrinoManagement.Collector TrinoManagement.Run

/-! ## Polls on schedule -/

/-- every answer is there and can be read, and is stored -/
structure Succeeds (cfg : PollerConfig) (r : Round) : Prop where
  info : ∃ info, r.info = .ok info
  jmx : ∀ name, ∃ attributes, r.mbean name = .ok attributes
  queries : ∃ result rows, r.queries = .ok result ∧ result.queries.mapM (summariseQuery cfg) = .ok rows
  loads : r.loadRaises = none
  saves : ∀ kind ∈ monitored, r.saves kind = true

/-- at its scheduled time, and instantly: all clocks of a round agree, the wall clock `shift` apart -/
structure OnSchedule (cfg : PollerConfig) (shift : ℚ) (w : Watch) (r : Round) : Prop where
  succeeds : Succeeds cfg r
  later : w.now ≤ r.now
  due : ∀ kind ∈ monitored, ∀ t, w.poller.nextDue kind = some t → r.now ≤ t
  wall : r.wall = r.now + shift
  clocks : ∀ kind, r.clocks kind = ⟨r.wall, r.now, r.now⟩

/-- any first times, over whatever an earlier run has stored -/
def start (c : CollectorSection) (d : Deployment) (phase : SnapshotKind → ℚ) (stored : Inputs) (began : ℚ) : Watch :=
  let p := (pollerConfig c d).init
  ⟨{ p with nextDue := fun kind => (p.nextDue kind).map fun _ => phase kind }, stored, [], began⟩

/-- no evaluation is stale once every kind has been polled -/
def NeverStale (c : CollectorSection) : Prop :=
  ∀ d shift phase stored began rounds,
    Meets (round (pollerConfig c d)) (OnSchedule (pollerConfig c d) shift) (start c d phase stored began) rounds →
    ∀ before r after, rounds = before ++ r :: after →
      (∀ kind ∈ monitored, kind ∈ (run (round (pollerConfig c d)) (start c d phase stored began) (before ++ [r])).polled) →
      evaluation c d (run (round (pollerConfig c d)) (start c d phase stored began) before) r ≠ some true

/-! ## Intervals within the threshold -/

/-- the longest a kind can be left alone -/
def longestInterval (c : CollectorSection) : SnapshotKind → ℚ
  | .queries => max c.queryPollInterval c.responseBackoffInterval
  | .jmx => c.jmxPollInterval
  | .info => c.infoPollInterval
  | .resourceGroups => 0

section Within

variable {c : CollectorSection} {d : Deployment} {shift : ℚ} {w : Watch} {r : Round}

/-- what has been polled stays recent until it is due again -/
structure OnTime (c : CollectorSection) (shift : ℚ) (w : Watch) : Prop where
  queryInterval : w.poller.queryInterval ≤ c.staleThreshold
  recent : ∀ kind ∈ monitored, kind ∈ w.polled → ∃ t due, w.inputs.collectedAt kind = some t ∧
    w.poller.nextDue kind = some due ∧ due + shift ≤ t + c.staleThreshold

/-- the same in the middle of a tick, and recent now -/
structure Underway (c : CollectorSection) (shift : ℚ) (w : Watch) (r : Round) (t : Ticked) : Prop where
  queryInterval : t.poller.queryInterval ≤ c.staleThreshold
  recent : ∀ kind ∈ monitored, kind ∈ w.polled ++ t.saved.map (·.kind) →
    ∃ x due, (w.inputs.putAll t.saved).collectedAt kind = some x ∧ t.poller.nextDue kind = some due ∧
      due + shift ≤ x + c.staleThreshold ∧ r.wall ≤ x + c.staleThreshold

theorem underway_deliver (hc : ∀ kind ∈ monitored, longestInterval c kind ≤ c.staleThreshold)
    (hpositive : 0 ≤ c.staleThreshold) (hr : OnSchedule (pollerConfig c d) shift w r) {t : Ticked} {kind : SnapshotKind}
    {s : Produced} {p : Poller} (ht : Underway c shift w r t)
    (hpoll : poll (pollerConfig c d) r t.poller t.jmx kind = .ok (s, p)) :
    Underway c shift w r (t.deliver (pollerConfig c d) r kind s p) := by
  have hpolled := poll_polled hpoll
  have hquery : p.queryInterval ≤ c.staleThreshold := by
    have hqueries := hc .queries (by simp [monitored])
    have hbase : c.queryPollInterval ≤ c.staleThreshold := le_trans (le_max_left _ _) hqueries
    have hbackoff : c.responseBackoffInterval ≤ c.staleThreshold := le_trans (le_max_right _ _) hqueries
    have hmem := hpolled.queryInterval
    simp only [List.mem_cons, List.not_mem_nil, or_false] at hmem
    rcases hmem with h | h | h
    · exact h ▸ ht.queryInterval
    · exact h ▸ hbase
    · exact h ▸ hbackoff
  refine ⟨hquery, ?_⟩
  intro kind' hkind' hmem
  rw [collectedAt_deliver w.inputs hpoll hkind' (hr.succeeds.saves kind), nextDue_deliver hpoll]
  by_cases hsame : kind' = kind
  · subst hsame
    have hinterval : p.interval (pollerConfig c d) kind' ≤ c.staleThreshold := by
      cases kind' with
      | queries => exact hquery
      | jmx => exact hc .jmx hkind'
      | info => exact hc .info hkind'
      | resourceGroups => simp [monitored] at hkind'
    rw [if_pos rfl, if_pos rfl, hr.clocks, hr.wall]
    refine ⟨_, _, rfl, rfl, ?_, ?_⟩
    · dsimp only
      linarith
    · dsimp only
      linarith
  · rw [if_neg hsame, if_neg hsame]
    refine ht.recent kind' hkind' ?_
    rw [List.mem_append] at hmem ⊢
    refine hmem.imp_right ?_
    intro hsaved
    simp only [Ticked.deliver] at hsaved
    split_ifs at hsaved
    · rw [List.map_append, List.map_singleton, List.mem_append, List.mem_singleton, poll_kind hpoll] at hsaved
      exact hsaved.resolve_right hsame
    · exact hsaved

/-- a round on schedule, over what is recent -/
theorem underway_tick (hc : ∀ kind ∈ monitored, longestInterval c kind ≤ c.staleThreshold)
    (hpositive : 0 ≤ c.staleThreshold) (hr : OnSchedule (pollerConfig c d) shift w r) (hw : OnTime c shift w) :
    Underway c shift w r (tick (pollerConfig c d) r w.poller w.inputs.jmx).1 := by
  refine serveAll_inv (Underway c shift w r) (fun kind _ t s p ht hpoll => underway_deliver hc hpositive hr ht hpoll) ?_
  refine ⟨hw.queryInterval, ?_⟩
  intro kind hkind hmem
  obtain ⟨x, due, hx, hdue, hle⟩ := hw.recent kind hkind (by simpa using hmem)
  refine ⟨x, due, hx, hdue, hle, ?_⟩
  have hnow := hr.due kind hkind due hdue
  rw [hr.wall]
  linarith

theorem round_onTime (hc : ∀ kind ∈ monitored, longestInterval c kind ≤ c.staleThreshold)
    (hpositive : 0 ≤ c.staleThreshold) (hw : OnTime c shift w) (hr : OnSchedule (pollerConfig c d) shift w r) :
    OnTime c shift (round (pollerConfig c d) w r) := by
  have ht := underway_tick hc hpositive hr hw
  refine ⟨ht.queryInterval, ?_⟩
  intro kind hkind hmem
  obtain ⟨x, due, hx, hdue, hle, -⟩ := ht.recent kind hkind hmem
  exact ⟨x, due, hx, hdue, hle⟩

/-- an evaluation over what is recent is not stale -/
theorem evaluation_fresh (hc : ∀ kind ∈ monitored, longestInterval c kind ≤ c.staleThreshold)
    (hpositive : 0 ≤ c.staleThreshold) (hw : OnTime c shift w) (hr : OnSchedule (pollerConfig c d) shift w r)
    (hall : ∀ kind ∈ monitored, kind ∈ (round (pollerConfig c d) w r).polled) : evaluation c d w r ≠ some true := by
  have ht := underway_tick hc hpositive hr hw
  have hrecent : ∀ kind ∈ monitored, ∃ x, (round (pollerConfig c d) w r).inputs.collectedAt kind = some x ∧
      r.wall ≤ x + c.staleThreshold := by
    intro kind hkind
    obtain ⟨x, due, hx, -, -, hle⟩ := ht.recent kind hkind (hall kind hkind)
    exact ⟨x, hx, hle⟩
  have hfresh : (healthConfig c d).staleAt ((round (pollerConfig c d) w r).inputs.visit d.cluster r.wall) = false := by
    rw [staleAt_eq_false]
    constructor
    · obtain ⟨x, hx, -⟩ := hrecent .jmx (by simp [monitored])
      exact ⟨.jmx, by simp [monitored], by rw [hx]; rfl⟩
    · intro kind hkind t ht
      obtain ⟨x, hx, hle⟩ := hrecent kind hkind
      cases hx.symm.trans ht
      exact hle
  unfold evaluation
  rw [round] at hfresh
  generalize tick (pollerConfig c d) r w.poller w.inputs.jmx = ticked at hfresh
  obtain ⟨t, _ | e⟩ := ticked
  · dsimp only at hfresh ⊢
    split_ifs
    · simp
    · rw [hfresh]
      simp
  · simp

theorem neverStale_of_within (hc : ∀ kind ∈ monitored, longestInterval c kind ≤ c.staleThreshold)
    (hpositive : 0 ≤ c.staleThreshold) : NeverStale c := by
  rintro d shift phase stored began rounds hmeets before r after rfl hall
  obtain ⟨hbefore, hr⟩ := meets_split hmeets
  have hstart : OnTime c shift (start c d phase stored began) := by
    refine ⟨le_trans (le_max_left _ _) (hc .queries (by simp [monitored])), ?_⟩
    intro kind _ hmem
    exact absurd hmem List.not_mem_nil
  have hw := run_inv (OnTime c shift) (fun w r hw hr => round_onTime hc hpositive hw hr) hbefore hstart
  rw [run_snoc] at hall
  exact evaluation_fresh hc hpositive hw hr hall

end Within

/-! ## An interval beyond it -/

section Beyond

variable {cfg : PollerConfig} {r : Round} {kind : SnapshotKind} {kinds : List SnapshotKind} {t : Ticked}

theorem poll_succeeds (hr : Succeeds cfg r) (hkind : kind ∈ monitored) (p : Poller) (jmx : Option JmxSnapshot) :
    ∃ s p', poll cfg r p jmx kind = .ok (s, p') := by
  cases kind with
  | info => exact ⟨_, _, rfl⟩
  | jmx => exact ⟨_, _, rfl⟩
  | resourceGroups => simp [monitored] at hkind
  | queries =>
    obtain ⟨result, rows, hresult, hrows⟩ := hr.queries
    simp only [poll, hr.loads, hresult, pollQueries, hrows]
    exact ⟨_, _, rfl⟩

/-- the kinds a tick gets through, and what it leaves alone -/
structure Through (i : Inputs) (kinds : List SnapshotKind) (t t' : Ticked) : Prop where
  produced : t'.produced.map (·.kind) = t.produced.map (·.kind) ++ kinds
  saved : t'.saved.map (·.kind) = t.saved.map (·.kind) ++ kinds
  collectedAt : ∀ kind ∈ monitored, kind ∉ kinds → (i.putAll t'.saved).collectedAt kind = (i.putAll t.saved).collectedAt kind
  nextDue : ∀ kind, kind ∉ kinds → t'.poller.nextDue kind = t.poller.nextDue kind

theorem serveAll_succeeds (i : Inputs) (hr : Succeeds cfg r) (hkinds : ∀ kind ∈ kinds, kind ∈ monitored) :
    ∃ t', serveAll cfg r kinds t = (t', none) ∧ Through i kinds t t' := by
  induction kinds generalizing t with
  | nil => exact ⟨t, rfl, by simp, by simp, fun _ _ _ => rfl, fun _ _ => rfl⟩
  | cons kind kinds ih =>
    have hkind := hkinds kind List.mem_cons_self
    obtain ⟨s, p, hpoll⟩ := poll_succeeds hr hkind t.poller t.jmx
    obtain ⟨t', ht', hthrough⟩ := @ih (t.deliver cfg r kind s p) fun k hk => hkinds k (List.mem_cons_of_mem kind hk)
    rw [serveAll, hpoll]
    refine ⟨t', ht', ?_, ?_, ?_, ?_⟩
    · rw [hthrough.produced]
      simp [Ticked.deliver, poll_kind hpoll]
    · rw [hthrough.saved]
      simp [Ticked.deliver, poll_kind hpoll, hr.saves kind hkind]
    · intro kind' hkind' hother
      rw [List.mem_cons, not_or] at hother
      rw [hthrough.collectedAt kind' hkind' hother.2, collectedAt_deliver i hpoll hkind' fun _ => hr.saves kind hkind,
        if_neg hother.1]
    · intro kind' hother
      rw [List.mem_cons, not_or] at hother
      rw [hthrough.nextDue kind' hother.2, nextDue_deliver hpoll, if_neg hother.1]

/-- a tick at which only some of the monitored kinds are due -/
theorem tick_succeeds {w : Watch} (hr : Succeeds cfg r) (hdue : ∀ kind ∈ w.poller.dueKinds r.now, kind ∈ monitored) :
    ∃ t', tick cfg r w.poller w.inputs.jmx = (t', none) ∧
      Through w.inputs (w.poller.dueKinds r.now) ⟨w.poller, w.inputs.jmx, [], []⟩ t' :=
  serveAll_succeeds w.inputs hr hdue

/-- a round of answers with nothing in them, the query list of `responseBytes` -/
def answered (responseBytes : ℕ) (t : ℚ) : Round where
  now := t
  wall := t
  clocks _ := ⟨t, t, t⟩
  info := .ok .none
  mbean _ := .ok .none
  queries := .ok ⟨[], responseBytes⟩
  resourceGroups := .ok ⟨[], .none, none, none⟩
  loadRaises := none
  saves _ := true

theorem answered_succeeds (responseBytes : ℕ) (t : ℚ) : Succeeds cfg (answered responseBytes t) :=
  ⟨⟨_, rfl⟩, fun _ => ⟨_, rfl⟩, ⟨_, [], rfl, rfl⟩, rfl, fun _ _ => rfl⟩

/-- the query list is too long -/
def steady (c : CollectorSection) (t : ℚ) : Round := answered c.responseBackoffBytes.toNat t

theorem steady_succeeds (c : CollectorSection) (t : ℚ) : Succeeds cfg (steady c t) := answered_succeeds _ t

/-- the interval a kind is rescheduled with once a list was too long -/
def backedOff (c : CollectorSection) : SnapshotKind → ℚ
  | .queries => c.responseBackoffInterval
  | kind => longestInterval c kind

/-- a list that is too long, and the interval is the longer one -/
theorem pollQueries_long {clocks : PollClocks} {p : Poller} {running : Option ℤ} {result : QueryListResult}
    (hbytes : cfg.responseBackoffBytes ≤ result.responseBytes) :
    Returns (fun x => x.2.queryInterval = cfg.responseBackoffInterval) (pollQueries cfg clocks p running (.ok result)) := by
  refine returns_bind fun rows _ => returns_pure ?_
  dsimp only
  split_ifs <;> simp [Poller.succeed, Poller.adaptInterval, hbytes]

theorem interval_steady {c : CollectorSection} {d : Deployment} {p p' : Poller} {jmx : Option JmxSnapshot} {s : Produced}
    {now : ℚ} (hkind : kind ∈ monitored) (h : poll (pollerConfig c d) (steady c now) p jmx kind = .ok (s, p')) :
    p'.interval (pollerConfig c d) kind = backedOff c kind := by
  cases kind with
  | info => rfl
  | jmx => rfl
  | resourceGroups => simp [monitored] at hkind
  | queries =>
    simp only [poll, steady, answered] at h
    obtain ⟨⟨q, p''⟩, hq, hpair⟩ := map_eq_ok.1 h
    cases hpair
    exact pollQueries_long (Int.self_le_toNat c.responseBackoffBytes) _ hq

/-! ### Two ticks -/

variable (c : CollectorSection) (now : ℚ)

/-- no resource groups are collected -/
def plain : Deployment := ⟨"prod-a", 300, none, fun _ => "", ⟨[], [], [], 0, true⟩⟩

/-- one kind first, and the others later -/
def oneFirst (kind : SnapshotKind) (later : ℚ) : Watch :=
  start c plain (fun k => if k = kind then 0 else later) ⟨none, none, none⟩ 0

theorem nextDue_oneFirst (later : ℚ) (k : SnapshotKind) :
    (oneFirst c kind later).poller.nextDue k =
      if k ∈ monitored then some (if k = kind then 0 else later) else none := by
  cases k <;> simp [oneFirst, start, PollerConfig.init, pollerConfig, plain, monitored]

theorem mem_dueKinds {p : Poller} {k : SnapshotKind} : k ∈ p.dueKinds now ↔ ∃ due, p.nextDue k = some due ∧ due ≤ now := by
  have horder : k ∈ Poller.pollOrder := by cases k <;> simp [Poller.pollOrder]
  rw [Poller.dueKinds, List.mem_filter, and_iff_right horder, Poller.isDue]
  cases p.nextDue k <;> simp

/-- the first tick polls the one kind, which is due again once its interval is over -/
theorem first_tick (hkind : kind ∈ monitored) {later : ℚ} (hlater : 0 < later) :
    let w := round (pollerConfig c plain) (oneFirst c kind later) (steady c 0)
    w.polled = [kind] ∧ w.inputs.collectedAt kind = some 0 ∧
      ∀ k, w.poller.nextDue k =
        if k ∈ monitored then some (if k = kind then backedOff c kind else later) else none := by
  have hdue : (oneFirst c kind later).poller.dueKinds 0 = [kind] := by
    have hnone : ∀ k, (oneFirst c kind later).poller.isDue 0 k = decide (k = kind) := by
      intro k
      rw [Poller.isDue, nextDue_oneFirst]
      by_cases hk : k = kind
      · subst hk
        simp [hkind]
      · by_cases hmem : k ∈ monitored <;> simp [hk, hmem, hlater]
    rw [Poller.dueKinds, funext hnone]
    fin_cases hkind <;> rfl
  obtain ⟨s, p, hpoll⟩ := @poll_succeeds (pollerConfig c plain) (steady c 0) kind (steady_succeeds c 0) hkind
    (oneFirst c kind later).poller none
  have htick : tick (pollerConfig c plain) (steady c 0) (oneFirst c kind later).poller (oneFirst c kind later).inputs.jmx =
      (Ticked.deliver ⟨(oneFirst c kind later).poller, none, [], []⟩ (pollerConfig c plain) (steady c 0) kind s p, none) := by
    rw [tick]
    change serveAll _ _ ((oneFirst c kind later).poller.dueKinds 0) ⟨_, none, [], []⟩ = _
    rw [hdue, serveAll, hpoll]
    rfl
  dsimp only [round]
  rw [htick]
  refine ⟨?_, ?_, ?_⟩
  · simp [Ticked.deliver, steady, answered, poll_kind hpoll, oneFirst, start]
  · dsimp only
    rw [collectedAt_deliver _ hpoll hkind fun _ => rfl, if_pos rfl]
    rfl
  · intro k
    dsimp only
    rw [nextDue_deliver hpoll, interval_steady hkind hpoll, nextDue_oneFirst]
    by_cases hk : k = kind
    · subst hk
      simp [hkind, steady, answered]
    · simp [hk]

/-- the others, before the first is due again, and it is too old by then -/
theorem long_goes_stale (hkind : kind ∈ monitored) (hpositive : 0 ≤ c.staleThreshold)
    (hlong : c.staleThreshold < backedOff c kind) : ¬NeverStale c := by
  intro hnever
  obtain ⟨later, hstale, hbefore⟩ := exists_between hlong
  obtain ⟨hpolled, hcollected, hnext⟩ := first_tick c hkind (hpositive.trans_lt hstale)
  set w := round (pollerConfig c plain) (oneFirst c kind later) (steady c 0) with hw
  have hdueKinds : ∀ k, k ∈ w.poller.dueKinds later ↔ k ∈ monitored ∧ k ≠ kind := by
    intro k
    rw [mem_dueKinds, hnext]
    by_cases hk : k = kind
    · subst hk
      simp [hkind, hbefore]
    · by_cases hmem : k ∈ monitored <;> simp [hk, hmem]
  obtain ⟨t, htick, hthrough⟩ := @tick_succeeds (pollerConfig c plain) (steady c later) w (steady_succeeds c later)
    fun k hk => ((hdueKinds k).1 hk).1
  -- both rounds are on schedule
  have hfirst : OnSchedule (pollerConfig c plain) 0 (oneFirst c kind later) (steady c 0) := by
    refine ⟨steady_succeeds c 0, le_rfl, ?_, (add_zero 0).symm, fun _ => rfl⟩
    intro k hk t ht
    rw [nextDue_oneFirst, if_pos hk] at ht
    cases ht
    change 0 ≤ _
    split_ifs
    · exact le_rfl
    · exact (hpositive.trans_lt hstale).le
  have hsecond : OnSchedule (pollerConfig c plain) 0 w (steady c later) := by
    refine ⟨steady_succeeds c later, (hpositive.trans_lt hstale).le, ?_, (add_zero later).symm, fun _ => rfl⟩
    intro k hk t ht
    rw [hnext, if_pos hk] at ht
    cases ht
    change later ≤ _
    split_ifs
    · exact hbefore.le
    · exact le_rfl
  have hall : ∀ k ∈ monitored, k ∈ (round (pollerConfig c plain) w (steady c later)).polled := by
    intro k hk
    simp only [round, htick, hpolled, hthrough.saved, List.map_nil, List.nil_append, List.mem_append, List.mem_singleton]
    by_cases hsame : k = kind
    · exact .inl hsame
    · exact .inr ((hdueKinds k).2 ⟨hk, hsame⟩)
  refine hnever plain 0 (fun k => if k = kind then 0 else later) ⟨none, none, none⟩ 0 [steady c 0, steady c later]
    ⟨hfirst, hsecond, trivial⟩ [steady c 0] (steady c later) [] rfl hall ?_
  change evaluation c plain w (steady c later) = some true
  have hsome : t.produced ≠ [] := by
    intro hnil
    have hkinds : w.poller.dueKinds (steady c later).now = [] := by simpa [hnil] using hthrough.produced.symm
    obtain ⟨k, hk, hother⟩ : ∃ k ∈ monitored, k ≠ kind := by
      fin_cases hkind
      · exact ⟨.info, by simp [monitored], by simp⟩
      · exact ⟨.jmx, by simp [monitored], by simp⟩
      · exact ⟨.jmx, by simp [monitored], by simp⟩
    have hmem : k ∈ w.poller.dueKinds (steady c later).now := (hdueKinds k).2 ⟨hk, hother⟩
    rw [hkinds] at hmem
    exact List.not_mem_nil hmem
  have hold : (healthConfig c plain).staleAt ((w.inputs.putAll t.saved).visit plain.cluster (steady c later).wall) = true := by
    rw [← Bool.not_eq_false, staleAt_eq_false]
    rintro ⟨-, hrecent⟩
    have hkept : (w.inputs.putAll t.saved).collectedAt kind = some 0 := by
      rw [hthrough.collectedAt kind hkind fun h => ((hdueKinds kind).1 h).2 rfl]
      exact hcollected
    have hle := hrecent kind hkind 0 hkept
    rw [zero_add] at hle
    exact absurd hle (not_le.2 hstale)
  simp only [evaluation, htick, if_neg hsome, hold]

end Beyond

/-- **Configuration and staleness agree** exactly if no interval that may separate two polls of a kind is longer than the
threshold, not only the base interval of the queries. -/
theorem staleness_agrees {repr : ℚ → String} {raw : Value} {c : CollectorSection} (h : buildCollector repr raw = .ok c) :
    NeverStale c ↔ c.responseBackoffInterval ≤ c.staleThreshold ∧ c.jmxPollInterval ≤ c.staleThreshold ∧
      c.infoPollInterval ≤ c.staleThreshold := by
  obtain ⟨hpositive, hbase⟩ := buildCollector_ok h
  have hthreshold : 0 ≤ c.staleThreshold := hpositive.le.trans hbase
  constructor
  · intro hnever
    have hwithin : ∀ kind ∈ monitored, backedOff c kind ≤ c.staleThreshold := by
      intro kind hkind
      by_contra hlong
      exact long_goes_stale c hkind hthreshold (not_le.1 hlong) hnever
    exact ⟨hwithin .queries (by simp [monitored]), hwithin .jmx (by simp [monitored]), hwithin .info (by simp [monitored])⟩
  · rintro ⟨hbackoff, hjmx, hinfo⟩
    refine neverStale_of_within ?_ hthreshold
    intro kind hkind
    fin_cases hkind
    · exact hjmx
    · exact max_le hbase hbackoff
    · exact hinfo

/-- the defaults agree -/
theorem staleness_agrees_default : NeverStale ⟨5, 15, 30, 30, 4096, 5000000, 10⟩ := by
  have hdefault : buildCollector toString (.dict []) = .ok ⟨5, 15, 30, 30, 4096, 5000000, 10⟩ := by decide +kernel
  exact (staleness_agrees hdefault).2 (by norm_num)

/-! ### JMX once a minute -/

def everyMinute : CollectorSection := ⟨5, 60, 30, 30, 4096, 5000000, 10⟩

/-- every five seconds, all three kinds at first, as the collector starts -/
def rounds (n : ℕ) : List Round := (List.range n).map fun k : ℕ => answered 64 (5 * (k : ℚ))

def started : Watch := start everyMinute plain (fun _ => 0) ⟨none, none, none⟩ 0

/-- no poll of the round is late -/
def ready (w : Watch) (r : Round) : Bool := monitored.all fun kind => (w.poller.nextDue kind).all fun t => decide (r.now ≤ t)

theorem rounds_onSchedule : Meets (round (pollerConfig everyMinute plain))
    (OnSchedule (pollerConfig everyMinute plain) 0) started (rounds 8) := by
  have hready : Meets (round (pollerConfig everyMinute plain)) (fun w r => w.now ≤ r.now ∧ ready w r = true) started
      (rounds 8) := by decide +kernel
  have hanswered : Meets (round (pollerConfig everyMinute plain)) (fun _ r => ∃ t, r = answered 64 t) started (rounds 8) := by
    refine meets_of_forall ?_
    intro r hr
    obtain ⟨k, -, rfl⟩ := List.mem_map.1 hr
    exact ⟨_, rfl⟩
  refine (hready.and hanswered).mono ?_
  rintro w r ⟨⟨hlater, hready⟩, t, rfl⟩
  refine ⟨answered_succeeds 64 t, hlater, ?_, (add_zero t).symm, fun _ => rfl⟩
  intro kind hkind due hdue
  simpa [hdue] using List.all_eq_true.1 hready kind hkind

theorem jmx_goes_stale :
    buildCollector toString (.dict [("collector", .dict [("jmx_poll_interval_seconds", .int 60)])]) = .ok everyMinute ∧
      evaluation everyMinute plain (run (round (pollerConfig everyMinute plain)) started (rounds 7)) (answered 64 35) =
        some true ∧
      ¬NeverStale everyMinute := by
  have hstale : evaluation everyMinute plain (run (round (pollerConfig everyMinute plain)) started (rounds 7))
      (answered 64 35) = some true := by decide +kernel
  refine ⟨by decide +kernel, hstale, ?_⟩
  intro hnever
  have hlast : rounds 8 = rounds 7 ++ [answered 64 35] := by
    rw [rounds, rounds, List.range_succ, List.map_append, List.map_singleton]
    norm_num
  refine hnever plain 0 (fun _ => 0) ⟨none, none, none⟩ 0 (rounds 8) rounds_onSchedule (rounds 7) (answered 64 35) []
    hlast ?_ hstale
  rw [← hlast]
  decide +kernel

end TrinoManagement.HealthWriter
