/-
The interval of the query polls over any sequence of response sizes.

A response at the limit or above brings the back-off interval, and a later one below half of the limit the base interval
again. `build_config` takes the two intervals and the limit as they come.
- `queryInterval_run`: what a run of ticks has come to is what the sizes of its responses come to, one after another.
- `inLimits_of`: the interval keeps within its limits; `interval_kept`: so does the poller's, after any run of ticks.
- `adaptive_iff`: the interval keeps to the base and to the two limits exactly when the back-off interval is no shorter than
  the base wherever it is used, and no response has the size at which half of an odd limit is rounded.
- `short_backOff`: a base of twenty seconds, and the default of ten for longer responses.
-/
import Mathlib.Tactic
import TrinoManagement.Scenarios.Staleness

namespace TrinoManagement.HealthWriter

open TrinoManagement.Collector TrinoManagement.Run

/-! ## The interval of a run -/

section Ticks

variable {cfg : PollerConfig} {r : Round} {kind : SnapshotKind} {p p' : Poller} {jmx : Option JmxSnapshot} {s : Produced}

/-- the sizes the snapshots report -/
def responseSizes (produced : List Produced) : List ℕ :=
  (queryLists produced).filterMap fun q => q.payload.map (·.responseBytes)

/-- what one response makes of an interval -/
def adapted (cfg : PollerConfig) (interval : ℚ) (responseBytes : ℕ) : ℚ :=
  if cfg.responseBackoffBytes ≤ responseBytes then cfg.responseBackoffInterval
  else if (responseBytes : ℤ) < cfg.responseBackoffBytes / 2 then cfg.baseQueryInterval
  else interval

/-- the poller after responses of these sizes -/
def adaptAll (cfg : PollerConfig) (p : Poller) (sizes : List ℕ) : Poller := sizes.foldl (fun p n => p.adaptInterval cfg n) p

theorem queryInterval_adaptInterval (p : Poller) (cfg : PollerConfig) (responseBytes : ℕ) :
    (p.adaptInterval cfg responseBytes).queryInterval = adapted cfg p.queryInterval responseBytes := by
  unfold Poller.adaptInterval adapted
  split_ifs <;> rfl

theorem queryInterval_adaptAll (p : Poller) (sizes : List ℕ) :
    (adaptAll cfg p sizes).queryInterval = sizes.foldl (adapted cfg) p.queryInterval := by
  induction sizes generalizing p with
  | nil => rfl
  | cons n sizes ih =>
    rw [adaptAll, List.foldl_cons, List.foldl_cons, ← queryInterval_adaptInterval]
    exact ih _

theorem responseSizes_append (produced produced' : List Produced) :
    responseSizes (produced ++ produced') = responseSizes produced ++ responseSizes produced' := by
  simp [responseSizes, queryLists]

/-- an answer adapts the interval once, and a failed request leaves it -/
theorem pollQueries_adapts {clocks : PollClocks} {running : Option ℤ} (answer : Except ClientError QueryListResult) :
    Returns (fun x => x.2.queryInterval = (responseSizes [.queries x.1]).foldl (adapted cfg) p.queryInterval)
      (pollQueries cfg clocks p running answer) := by
  cases answer with
  | error e => exact returns_pure rfl
  | ok result =>
    refine returns_bind fun rows _ => returns_pure ?_
    dsimp only
    split_ifs
    · exact queryInterval_adaptInterval ..
    · exact queryInterval_adaptInterval ..

theorem poll_adapts (h : poll cfg r p jmx kind = .ok (s, p')) :
    p'.queryInterval = (responseSizes [s]).foldl (adapted cfg) p.queryInterval := by
  cases kind with
  | info =>
    cases h
    exact (pollInfo_polled _ _ _).2.2
  | jmx =>
    cases h
    exact (pollJmx_polled _ _ _).2.2
  | resourceGroups =>
    obtain ⟨collection, -, hpair⟩ := bind_eq_ok.1 h
    cases hpair
    exact (@pollResourceGroups_polled cfg _ p collection).2.2
  | queries =>
    simp only [poll] at h
    split at h
    · cases h
    · obtain ⟨x, hx, hpair⟩ := map_eq_ok.1 h
      cases hpair
      exact pollQueries_adapts _ x hx

theorem queryInterval_tick : (tick cfg r p jmx).1.poller.queryInterval =
    (responseSizes (tick cfg r p jmx).1.produced).foldl (adapted cfg) p.queryInterval := by
  refine serveAll_inv (fun t => t.poller.queryInterval = (responseSizes t.produced).foldl (adapted cfg) p.queryInterval)
    (fun kind _ t s p' ht hp => ?_) rfl
  change p'.queryInterval = (responseSizes (t.produced ++ [s])).foldl (adapted cfg) p.queryInterval
  rw [responseSizes_append, List.foldl_append, ← ht]
  exact poll_adapts hp

/-- the sizes of all responses of a run -/
def sizesOver (cfg : PollerConfig) : Watch → List Round → List ℕ
  | _, [] => []
  | w, r :: rounds => responseSizes (tick cfg r w.poller w.inputs.jmx).1.produced ++ sizesOver cfg (round cfg w r) rounds

/-- **A run of ticks** has come to the interval that the sizes of its responses come to. -/
theorem queryInterval_run (w : Watch) (rounds : List Round) : (run (round cfg) w rounds).poller.queryInterval =
    (adaptAll cfg w.poller (sizesOver cfg w rounds)).queryInterval := by
  rw [queryInterval_adaptAll]
  induction rounds generalizing w with
  | nil => rfl
  | cons r rounds ih =>
    rw [run_cons, ih, sizesOver, List.foldl_append]
    exact congrArg (List.foldl (adapted cfg) · (sizesOver cfg (round cfg w r) rounds)) queryInterval_tick

end Ticks

/-! ## The two limits -/

/-- a response of the limit or more has been seen, and none below half of it since -/
def BackedOff (limit : ℤ) (sizes : List ℕ) : Prop :=
  ∃ (before : List ℕ) (size : ℕ) (after : List ℕ), sizes = before ++ size :: after ∧ limit ≤ size ∧
    ∀ later ∈ after, ¬ 2 * (later : ℤ) < limit

/-- the interval in force after responses of these sizes -/
def inForce (c : CollectorSection) (d : Deployment) (sizes : List ℕ) : ℚ :=
  (adaptAll (pollerConfig c d) (pollerConfig c d).init sizes).queryInterval

/-- never below the base, and the back-off interval exactly while backed off -/
structure InLimits (c : CollectorSection) (d : Deployment) (sizes : List ℕ) : Prop where
  base : c.queryPollInterval ≤ inForce c d sizes
  long : BackedOff c.responseBackoffBytes sizes → inForce c d sizes = c.responseBackoffInterval
  short : ¬ BackedOff c.responseBackoffBytes sizes → inForce c d sizes = c.queryPollInterval

/-- so after every response of the sequence -/
def Adaptive (c : CollectorSection) (d : Deployment) (sizes : List ℕ) : Prop :=
  ∀ seen rest, sizes = seen ++ rest → InLimits c d seen

/-- the back-off interval is a longer one wherever a response asks for it -/
def BacksOff (c : CollectorSection) (sizes : List ℕ) : Prop :=
  ∀ size ∈ sizes, c.responseBackoffBytes ≤ (size : ℤ) → c.queryPollInterval ≤ c.responseBackoffInterval

/-- no response while backed off has the one size that is below half of an odd limit and not below the half rounded down -/
def Halves (c : CollectorSection) (sizes : List ℕ) : Prop :=
  Each (fun seen size => BackedOff c.responseBackoffBytes seen → 2 * (size : ℤ) + 1 = c.responseBackoffBytes →
    c.responseBackoffInterval = c.queryPollInterval) sizes

section Limits

variable {c : CollectorSection} {d : Deployment} {limit : ℤ} {sizes : List ℕ} {size : ℕ}

theorem not_backedOff_nil : ¬ BackedOff limit [] := by
  rintro ⟨before, size, after, h, -⟩
  simp at h

/-- one response more -/
theorem backedOff_snoc : BackedOff limit (sizes ++ [size]) ↔
    limit ≤ (size : ℤ) ∨ BackedOff limit sizes ∧ ¬ 2 * (size : ℤ) < limit := by
  constructor
  · rintro ⟨before, big, after, h, hbig, hafter⟩
    rcases List.eq_nil_or_concat after with rfl | ⟨after', last, rfl⟩
    · obtain ⟨-, hlast⟩ := List.append_inj' h rfl
      obtain rfl := (List.cons.inj hlast).1
      exact .inl hbig
    · rw [List.concat_eq_append, ← List.cons_append, ← List.append_assoc] at h
      obtain ⟨hsizes, hlast⟩ := List.append_inj' h rfl
      obtain rfl := (List.cons.inj hlast).1
      rw [List.concat_eq_append] at hafter
      refine .inr ⟨⟨before, big, after', hsizes, hbig, fun later hlater => ?_⟩, ?_⟩
      · exact hafter later (List.mem_append_left _ hlater)
      · exact hafter size (List.mem_append_right _ List.mem_cons_self)
  · rintro (h | ⟨⟨before, big, after, rfl, hbig, hafter⟩, hsize⟩)
    · exact ⟨sizes, size, [], rfl, h, fun later hlater => by cases hlater⟩
    · refine ⟨before, big, after ++ [size], by simp, hbig, fun later hlater => ?_⟩
      rcases List.mem_append.1 hlater with hlater | hlater
      · exact hafter later hlater
      · obtain rfl := List.mem_singleton.1 hlater
        exact hsize

theorem inForce_snoc : inForce c d (sizes ++ [size]) = adapted (pollerConfig c d) (inForce c d sizes) size := by
  simp only [inForce, queryInterval_adaptAll, List.foldl_append, List.foldl_cons, List.foldl_nil]

theorem inLimits_nil : InLimits c d [] := ⟨le_rfl, fun h => absurd h not_backedOff_nil, fun _ => rfl⟩

/-- a response of the limit or more -/
theorem inForce_long (h : c.responseBackoffBytes ≤ (size : ℤ)) :
    inForce c d (sizes ++ [size]) = c.responseBackoffInterval := by
  rw [inForce_snoc]
  exact if_pos h

/-- below half of the limit, by the rounded half too -/
theorem inForce_short (h : (size : ℤ) < c.responseBackoffBytes) (hhalf : (size : ℤ) < c.responseBackoffBytes / 2) :
    inForce c d (sizes ++ [size]) = c.queryPollInterval := by
  rw [inForce_snoc]
  exact (if_neg (by exact not_le.2 h)).trans (if_pos hhalf)

/-- between the two limits nothing changes -/
theorem inForce_between (h : (size : ℤ) < c.responseBackoffBytes) (hhalf : c.responseBackoffBytes / 2 ≤ (size : ℤ)) :
    inForce c d (sizes ++ [size]) = inForce c d sizes := by
  rw [inForce_snoc]
  exact (if_neg (by exact not_le.2 h)).trans (if_neg (by exact not_lt.2 hhalf))

/-- one response more keeps to the limits exactly if it backs off for longer, and is not rounded away -/
theorem inLimits_snoc (h : InLimits c d sizes) : InLimits c d (sizes ++ [size]) ↔
    (c.responseBackoffBytes ≤ (size : ℤ) → c.queryPollInterval ≤ c.responseBackoffInterval) ∧
    (BackedOff c.responseBackoffBytes sizes → 2 * (size : ℤ) + 1 = c.responseBackoffBytes →
      c.responseBackoffInterval = c.queryPollInterval) := by
  by_cases hlong : c.responseBackoffBytes ≤ (size : ℤ)
  · have hforce : inForce c d (sizes ++ [size]) = c.responseBackoffInterval := inForce_long hlong
    have hoff : BackedOff c.responseBackoffBytes (sizes ++ [size]) := backedOff_snoc.2 (.inl hlong)
    constructor
    · intro hlimits
      exact ⟨fun _ => hforce ▸ hlimits.base, fun _ hodd => by omega⟩
    · rintro ⟨hbase, -⟩
      exact ⟨hforce ▸ hbase hlong, fun _ => hforce, fun hnot => absurd hoff hnot⟩
  · rw [not_le] at hlong
    have hoff : BackedOff c.responseBackoffBytes (sizes ++ [size]) ↔
        BackedOff c.responseBackoffBytes sizes ∧ ¬ 2 * (size : ℤ) < c.responseBackoffBytes := by
      rw [backedOff_snoc]
      exact or_iff_right (not_le.2 hlong)
    by_cases hhalf : (size : ℤ) < c.responseBackoffBytes / 2
    · have hforce : inForce c d (sizes ++ [size]) = c.queryPollInterval := inForce_short hlong hhalf
      have hnot : ¬ BackedOff c.responseBackoffBytes (sizes ++ [size]) := fun hback => (hoff.1 hback).2 (by omega)
      constructor
      · exact fun _ => ⟨fun hle => by omega, fun _ hodd => by omega⟩
      · exact fun _ => ⟨hforce.ge, fun hback => absurd hback hnot, fun _ => hforce⟩
    · have hforce : inForce c d (sizes ++ [size]) = inForce c d sizes := inForce_between hlong (not_lt.1 hhalf)
      by_cases hodd : 2 * (size : ℤ) + 1 = c.responseBackoffBytes
      · -- below half of the limit, and yet nothing has changed
        have hnot : ¬ BackedOff c.responseBackoffBytes (sizes ++ [size]) := fun hback => (hoff.1 hback).2 (by omega)
        constructor
        · intro hlimits
          refine ⟨fun hle => by omega, fun hback _ => ?_⟩
          rw [← h.long hback, ← hforce]
          exact hlimits.short hnot
        · rintro ⟨-, hequal⟩
          have hshort : inForce c d sizes = c.queryPollInterval := by
            by_cases hback : BackedOff c.responseBackoffBytes sizes
            · rw [h.long hback, hequal hback hodd]
            · exact h.short hback
          exact ⟨(hforce.trans hshort).ge, fun hback => absurd hback hnot, fun _ => hforce.trans hshort⟩
      · have hsame : BackedOff c.responseBackoffBytes (sizes ++ [size]) ↔ BackedOff c.responseBackoffBytes sizes := by
          rw [hoff]
          exact and_iff_left (by omega)
        constructor
        · exact fun _ => ⟨fun hle => by omega, fun _ hodd' => absurd hodd' hodd⟩
        · exact fun _ => ⟨hforce ▸ h.base, fun hback => hforce.trans (h.long (hsame.1 hback)),
            fun hback => hforce.trans (h.short fun hb => hback (hsame.2 hb))⟩

theorem backsOff_snoc : BacksOff c (sizes ++ [size]) ↔ BacksOff c sizes ∧
    (c.responseBackoffBytes ≤ (size : ℤ) → c.queryPollInterval ≤ c.responseBackoffInterval) := by
  simp only [BacksOff, List.forall_mem_append, List.forall_mem_singleton]

theorem halves_snoc : Halves c (sizes ++ [size]) ↔ Halves c sizes ∧ (BackedOff c.responseBackoffBytes sizes →
    2 * (size : ℤ) + 1 = c.responseBackoffBytes → c.responseBackoffInterval = c.queryPollInterval) := each_snoc

theorem inLimits_of (hback : BacksOff c sizes) (hhalves : Halves c sizes) : InLimits c d sizes := by
  induction sizes using List.reverseRecOn with
  | nil => exact inLimits_nil
  | append_singleton sizes size ih =>
    obtain ⟨hback, hlong⟩ := backsOff_snoc.1 hback
    obtain ⟨hhalves, hodd⟩ := halves_snoc.1 hhalves
    exact (inLimits_snoc (ih hback hhalves)).2 ⟨hlong, hodd⟩

/-- **After any run of ticks** whose responses back off for longer, and are not rounded away, the poller's interval is within
its limits. -/
theorem interval_kept {w : Watch} {rounds : List Round} (hstart : w.poller.queryInterval = c.queryPollInterval)
    (hback : BacksOff c (sizesOver (pollerConfig c d) w rounds)) (hhalves : Halves c (sizesOver (pollerConfig c d) w rounds)) :
    c.queryPollInterval ≤ (run (round (pollerConfig c d)) w rounds).poller.queryInterval ∧
      (BackedOff c.responseBackoffBytes (sizesOver (pollerConfig c d) w rounds) →
        (run (round (pollerConfig c d)) w rounds).poller.queryInterval = c.responseBackoffInterval) ∧
      (¬ BackedOff c.responseBackoffBytes (sizesOver (pollerConfig c d) w rounds) →
        (run (round (pollerConfig c d)) w rounds).poller.queryInterval = c.queryPollInterval) := by
  have hforce : (run (round (pollerConfig c d)) w rounds).poller.queryInterval =
      inForce c d (sizesOver (pollerConfig c d) w rounds) := by
    rw [queryInterval_run, inForce, queryInterval_adaptAll, queryInterval_adaptAll, hstart]
    rfl
  have hlimits : InLimits c d (sizesOver (pollerConfig c d) w rounds) := inLimits_of hback hhalves
  rw [hforce]
  exact ⟨hlimits.base, hlimits.long, hlimits.short⟩

theorem adaptive_snoc : Adaptive c d (sizes ++ [size]) ↔ Adaptive c d sizes ∧ InLimits c d (sizes ++ [size]) := by
  constructor
  · intro h
    refine ⟨?_, h _ [] (List.append_nil _).symm⟩
    rintro seen rest rfl
    exact h seen (rest ++ [size]) (List.append_assoc ..)
  · rintro ⟨h, hlast⟩ seen rest hsizes
    rcases List.eq_nil_or_concat rest with rfl | ⟨rest', last, rfl⟩
    · rw [List.append_nil] at hsizes
      exact hsizes ▸ hlast
    · rw [List.concat_eq_append, ← List.append_assoc] at hsizes
      exact h seen rest' (List.append_inj' hsizes rfl).1

/-- **The interval adapts as it should** exactly when the back-off interval is no shorter than the base wherever a response
asks for it, and no response has the size at which half of an odd limit is rounded. -/
theorem adaptive_iff (c : CollectorSection) (d : Deployment) (sizes : List ℕ) :
    Adaptive c d sizes ↔ BacksOff c sizes ∧ Halves c sizes := by
  induction sizes using List.reverseRecOn with
  | nil =>
    constructor
    · intro _
      exact ⟨fun size hsize => absurd hsize List.not_mem_nil, each_nil⟩
    · rintro - seen rest hsizes
      rw [(List.append_eq_nil_iff.1 hsizes.symm).1]
      exact inLimits_nil
  | append_singleton sizes size ih =>
    rw [adaptive_snoc, ih, backsOff_snoc, halves_snoc]
    constructor
    · rintro ⟨⟨hb, hh⟩, hlast⟩
      obtain ⟨hlong, hodd⟩ := (inLimits_snoc (inLimits_of hb hh)).1 hlast
      exact ⟨⟨hb, hlong⟩, hh, hodd⟩
    · rintro ⟨⟨hb, hlong⟩, hh, hodd⟩
      exact ⟨⟨hb, hh⟩, (inLimits_snoc (inLimits_of hb hh)).2 ⟨hlong, hodd⟩⟩

end Limits

/-- a configuration with a base interval of its own and the defaults beside it -/
def slowBase : Value := .dict [("collector", .dict [("query_poll_interval_seconds", .int 20)])]

/-- a base of twenty seconds is accepted, and a response of six megabytes halves it -/
theorem short_backOff : buildCollector (fun _ => "") slowBase = .ok ⟨20, 15, 30, 30, 4096, 5000000, 10⟩ ∧
    ¬ Adaptive ⟨20, 15, 30, 30, 4096, 5000000, 10⟩ plain [6000000] := by
  refine ⟨by decide +kernel, fun h => ?_⟩
  have hbase := (h [6000000] [] rfl).base
  rw [show inForce ⟨20, 15, 30, 30, 4096, 5000000, 10⟩ plain [6000000] = 10 from by decide +kernel] at hbase
  norm_num at hbase

end TrinoManagement.HealthWriter
