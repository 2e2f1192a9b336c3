/-
The out-of-memory kills between two evaluations, over runs of the health engine.

H-07 judges the difference to the counter it read last, and the engine remembers what was read last, by whatever
evaluation. A stale one says UNKNOWN whatever H-07 found, and its reading is remembered all the same.
- `oomCounters_run`: what the engine remembers of a cluster is the last number that H-07 read of it.
- `delta_iff`: between two judgements no kill is lost exactly when no stale evaluation in between read another number than
  the first of them.
- `stale_swallows`: three kills that are in no judgement.
-/
import Mathlib.Tactic
import TrinoManagement.Core.Run
import TrinoManagement.Health.Engine

namespace TrinoManagement.Health

open TrinoManagement.Run

/-! ## Runs -/

/-- what `HealthEngine.evaluate` is called with -/
structure Evaluation where
  ctx : HealthContext
  now : ℚ
  stale : Bool
  overrides : Value

/-- the number H-07 reads, unless it is disabled or cannot read one -/
def Evaluation.reading (e : Evaluation) : Option ℤ :=
  if disabled e.overrides "H-07" then none else currentOomKills e.ctx

/-- the engine after an evaluation -/
def evaluated (engine : HealthEngine) (e : Evaluation) : HealthEngine :=
  (engine.evaluate e.ctx e.now e.stale e.overrides).2

/-- the numbers that H-07 read of a cluster, stale evaluations included -/
def readings (cluster : String) (es : List Evaluation) : List ℤ :=
  (es.filter (·.ctx.clusterName = cluster)).filterMap Evaluation.reading

/-- what H-07 says of an evaluation that follows others -/
def judgement (engine : HealthEngine) (e : Evaluation) : Except PyError HealthResult := h07OomKills (engine.prepare e.ctx)

/-- two evaluations of one cluster with current data, none of them between -/
structure Consecutive (first : Evaluation) (between : List Evaluation) (second : Evaluation) : Prop where
  cluster : second.ctx.clusterName = first.ctx.clusterName
  firstCurrent : first.stale = false
  secondCurrent : second.stale = false
  between : ∀ e ∈ between, e.ctx.clusterName = first.ctx.clusterName → e.stale = false → e.reading = none

/-- the counter never went down from the first of them to the second -/
def Rising (first : Evaluation) (between : List Evaluation) (second : Evaluation) : Prop :=
  (readings first.ctx.clusterName (first :: between ++ [second])).Pairwise (· ≤ ·)

/-! ## What is remembered -/

section Memory

variable {engine : HealthEngine} {e : Evaluation} {es es' : List Evaluation} {cluster : String}

theorem mem_activeTestIds : "H-07" ∈ engine.activeTestIds e.overrides ↔ disabled e.overrides "H-07" = false := by
  rw [HealthEngine.activeTestIds, List.mem_map]
  constructor
  · rintro ⟨t, ht, hid⟩
    have hactive := (List.mem_filter.1 ht).2
    rw [Bool.and_eq_true, hid] at hactive
    simpa using hactive.2
  · intro h
    refine ⟨("H-07", h07OomKills), List.mem_filter.2 ⟨by simp [allTests], ?_⟩, rfl⟩
    simp [h, gatewayTests]

/-- one evaluation -/
theorem oomCounters_evaluated : (evaluated engine e).oomCounters cluster =
    if e.ctx.clusterName = cluster then e.reading.orElse fun _ => engine.oomCounters cluster
    else engine.oomCounters cluster := by
  have hkills : (if "H-07" ∈ engine.activeTestIds e.overrides then currentOomKills (engine.prepare e.ctx) else none) =
      e.reading := by
    simp only [mem_activeTestIds, Evaluation.reading]
    cases disabled e.overrides "H-07" <;> rfl
  simp only [evaluated, HealthEngine.evaluate, hkills]
  cases e.reading with
  | none => simp
  | some n =>
    by_cases h : e.ctx.clusterName = cluster
    · subst h
      simp [HealthEngine.prepare]
    · simp [HealthEngine.prepare, h, Function.update_of_ne (Ne.symm h)]

theorem readings_append : readings cluster (es ++ es') = readings cluster es ++ readings cluster es' := by
  simp [readings]

theorem readings_cons : readings cluster (e :: es) =
    (if e.ctx.clusterName = cluster then e.reading.toList else []) ++ readings cluster es := by
  unfold readings
  split_ifs with h
  · rw [List.filter_cons_of_pos (by simpa using h), List.filterMap_cons]
    cases e.reading <;> rfl
  · rw [List.filter_cons_of_neg (by simpa using h), List.nil_append]

/-- **The engine remembers** the last number that H-07 read of a cluster. -/
theorem oomCounters_run : (run evaluated engine es).oomCounters cluster =
    (readings cluster es).getLast?.orElse fun _ => engine.oomCounters cluster := by
  induction es using List.reverseRecOn with
  | nil => rfl
  | append_singleton es e ih =>
    rw [run_snoc, oomCounters_evaluated, ih, readings_append, readings_cons]
    split_ifs
    · cases e.reading <;> simp [readings]
    · simp [readings]

theorem prepare_run : ((run evaluated engine es).prepare e.ctx).previousOomKills =
    (readings e.ctx.clusterName es).getLast?.orElse fun _ => engine.oomCounters e.ctx.clusterName := oomCounters_run

end Memory

/-! ## What is judged -/

section Judged

variable {engine : HealthEngine} {ctx : HealthContext} {first second : Evaluation} {before between : List Evaluation}
  {result : HealthResult} {a b : ℤ}

/-- H-07 judges the difference to the number before it -/
theorem h07_delta {previous current : ℤ} (hprevious : ctx.previousOomKills = some previous)
    (hcurrent : currentOomKills ctx = some current) (h : h07OomKills ctx = .ok result) :
    result.observedValue = .dict [("total", .int current), ("delta", .int (max 0 (current - previous)))] := by
  unfold currentOomKills at hcurrent
  unfold h07OomKills at h
  cases hnumber : ctx.number clusterMemoryMbean "QueriesKilledDueToOutOfMemory" with
  | error e => rw [hnumber] at hcurrent; cases hcurrent
  | ok total =>
    rw [hnumber] at hcurrent h
    obtain ⟨q, rfl, rfl⟩ := Option.map_eq_some_iff.1 hcurrent
    simp only [bind, Except.bind, hprevious] at h
    obtain ⟨concerning, -, h⟩ := bind_eq_ok.1 h
    obtain ⟨bad, -, h⟩ := bind_eq_ok.1 h
    cases h
    rfl

/-- the last reading before the second of them is the first's, or one in between -/
theorem getLast_readings (hfirst : first.reading = some a) :
    (readings first.ctx.clusterName (before ++ first :: between)).getLast? =
      some ((a :: readings first.ctx.clusterName between).getLast (List.cons_ne_nil _ _)) := by
  rw [readings_append, readings_cons, if_pos rfl, hfirst]
  change (_ ++ (a :: readings first.ctx.clusterName between)).getLast? = _
  rw [List.getLast?_append_of_ne_nil _ (List.cons_ne_nil _ _), List.getLast?_eq_some_getLast (List.cons_ne_nil _ _)]

/-- numbers that never go down from `a` end with `a` only if all of them are `a` -/
theorem getLast_eq_iff {l : List ℤ} (h : (a :: l).Pairwise (· ≤ ·)) :
    (a :: l).getLast (List.cons_ne_nil _ _) = a ↔ ∀ c ∈ l, c = a := by
  induction l generalizing a with
  | nil => simp
  | cons c l ih =>
    obtain ⟨hle, hrest⟩ := List.pairwise_cons.1 h
    have hc : a ≤ c := hle c List.mem_cons_self
    rw [List.getLast_cons (List.cons_ne_nil _ _), List.forall_mem_cons]
    constructor
    · intro hlast
      have hmem : (c :: l).getLast (List.cons_ne_nil _ _) ∈ c :: l := List.getLast_mem _
      have hca : c ≤ a := by
        rcases List.mem_cons.1 hmem with hhead | htail
        · exact (hhead.symm.trans hlast).le
        · exact hlast ▸ (List.pairwise_cons.1 hrest).1 _ htail
      obtain rfl : c = a := le_antisymm hca hc
      exact ⟨rfl, (ih hrest).1 hlast⟩
    · rintro ⟨rfl, hall⟩
      exact (ih hrest).2 hall

/-- **No kill is lost** between two judgements exactly when no evaluation between them read another number than the first of
them. By `Consecutive` such an evaluation is a stale one. -/
theorem delta_iff (hconsecutive : Consecutive first between second) (hrising : Rising first between second)
    (hfirst : first.reading = some a) (hsecond : second.reading = some b)
    (hjudged : judgement (run evaluated engine (before ++ first :: between)) second = .ok result) :
    result.observedValue = .dict [("total", .int b), ("delta", .int (b - a))] ↔
      ∀ e ∈ between, e.ctx.clusterName = first.ctx.clusterName → ∀ c, e.reading = some c → c = a := by
  let last := (a :: readings first.ctx.clusterName between).getLast (List.cons_ne_nil _ _)
  have hprevious : ((run evaluated engine (before ++ first :: between)).prepare second.ctx).previousOomKills = some last := by
    rw [prepare_run, hconsecutive.cluster, getLast_readings hfirst]
    rfl
  have hcurrent : currentOomKills ((run evaluated engine (before ++ first :: between)).prepare second.ctx) = some b := by
    unfold Evaluation.reading at hsecond
    split_ifs at hsecond
    exact hsecond
  -- the numbers from the first to the second of them
  have hall : ((a :: readings first.ctx.clusterName between) ++ [b]).Pairwise (· ≤ ·) := by
    have h := hrising
    rw [Rising, readings_append, readings_cons, if_pos rfl, hfirst, readings_cons, if_pos hconsecutive.cluster,
      hsecond] at h
    exact h
  obtain ⟨hupTo, -, hlast⟩ := List.pairwise_append.1 hall
  have hle : last ≤ b := hlast last (List.getLast_mem _) b List.mem_cons_self
  rw [h07_delta hprevious hcurrent hjudged]
  have hdelta : Value.dict [("total", .int b), ("delta", .int (max 0 (b - last)))] =
      .dict [("total", .int b), ("delta", .int (b - a))] ↔ last = a := by
    simp only [Value.dict.injEq, List.cons.injEq, Prod.mk.injEq, Value.int.injEq, true_and, and_true]
    omega
  rw [hdelta, getLast_eq_iff hupTo]
  constructor
  · intro h e he hcluster c hc
    exact h c (List.mem_filterMap.2 ⟨e, List.mem_filter.2 ⟨he, by simpa using hcluster⟩, hc⟩)
  · intro h c hc
    obtain ⟨e, he, hc⟩ := List.mem_filterMap.1 hc
    obtain ⟨he, hcluster⟩ := List.mem_filter.1 he
    exact h e he (by simpa using hcluster) c hc

end Judged

/-! ## Three kills -/

/-- a counter that was read as `kills` -/
def killed (kills : ℤ) (stale : Bool) : Evaluation where
  ctx := ⟨"prod-a", 3, .dict [], none, some ⟨"prod-a", 0, .dict [("mbeans", .dict [(clusterMemoryMbean,
    .dict [("QueriesKilledDueToOutOfMemory", .int kills)])])], none, none⟩, none, true, none, none⟩
  now := 0
  stale := stale
  overrides := .dict []

def freshEngine : HealthEngine := ⟨false, fun _ => none⟩

/-- a stale evaluation between two others -/
theorem killed_consecutive (kills : ℤ) : Consecutive (killed 5 false) [killed kills true] (killed 8 false) := by
  refine ⟨rfl, rfl, rfl, ?_⟩
  intro e he _ hcurrent
  rw [List.mem_singleton.1 he] at hcurrent
  cases hcurrent

theorem five_reading (stale : Bool) : (killed 5 stale).reading = some 5 := by
  cases stale <;> decide +kernel

theorem eight_reading (stale : Bool) : (killed 8 stale).reading = some 8 := by
  cases stale <;> decide +kernel

theorem killed_rising {kills : ℤ} (hreading : (killed kills true).reading = some kills) (hfive : 5 ≤ kills)
    (height : kills ≤ 8) : Rising (killed 5 false) [killed kills true] (killed 8 false) := by
  have hreadings : readings "prod-a" (killed 5 false :: [killed kills true] ++ [killed 8 false]) = [5, kills, 8] := by
    simp only [List.cons_append, List.nil_append, readings_cons, hreading, five_reading, eight_reading]
    rfl
  change (readings "prod-a" (killed 5 false :: [killed kills true] ++ [killed 8 false])).Pairwise (· ≤ ·)
  rw [hreadings]
  simp [hfive, height]

/-- with the counter unchanged while the snapshot of the nodes is old, the three kills after it are judged -/
theorem delta_counts : ∃ result,
    judgement (run evaluated freshEngine ([] ++ killed 5 false :: [killed 5 true])) (killed 8 false) = .ok result ∧
      result.observedValue = .dict [("total", .int 8), ("delta", .int (8 - 5))] := by
  have hjudged : judgement (run evaluated freshEngine ([] ++ killed 5 false :: [killed 5 true])) (killed 8 false) =
      .ok ⟨"H-07", "Out-of-memory kills", .bad, .dict [("total", .int 8), ("delta", .int 3)], .float 3,
        "3 queries were killed for running out of memory. Something large is squeezing the cluster — check the top " ++
          "memory consumers in Live Queries."⟩ := by
    decide +kernel
  have hrising := killed_rising (five_reading true) le_rfl (by decide)
  refine ⟨_, hjudged, (delta_iff (killed_consecutive 5) hrising (five_reading false) (eight_reading false) hjudged).2 ?_⟩
  intro e he _ c hc
  rw [List.mem_singleton.1 he, five_reading] at hc
  exact (Option.some.inj hc).symm

/-- the snapshot of the nodes is old when the counter goes from five to eight, and fresh again after it -/
theorem stale_swallows : Consecutive (killed 5 false) [killed 8 true] (killed 8 false) ∧
    Rising (killed 5 false) [killed 8 true] (killed 8 false) ∧
    ∃ result, judgement (run evaluated freshEngine ([] ++ killed 5 false :: [killed 8 true])) (killed 8 false) = .ok result ∧
      result.observedValue ≠ .dict [("total", .int 8), ("delta", .int (8 - 5))] ∧ result.state = .good := by
  exact ⟨killed_consecutive 8, killed_rising (eight_reading true) (by decide) le_rfl,
    ⟨"H-07", "Out-of-memory kills", .good, .dict [("total", .int 8), ("delta", .int 0)], .float 3, ""⟩, by decide +kernel,
    by decide, rfl⟩

end TrinoManagement.Health
