/-
Persistent denial: access control empties every query list while every JMX reading says that queries run. Once
`h09_confirm_polls` query polls had a JMX reading fresh enough to judge by, every query snapshot saved from then on should
be untrustworthy, whatever lies in between.

A query poll judges, abstains for want of a fresh JMX reading, or fails. An abstaining poll sets the counter back, and its
own snapshot is trusted.

- `watched_tick`, `watched_run`: the poller's counter is the streak of judging polls, and an answered poll is trusted
  exactly while that streak is short.
- `reported_iff`: the denial stays reported exactly when each answered poll that is saved late enough ends a long streak.
- `denial_forgotten`: with queries every 3 s and JMX every 15 s it does not.
-/
import Mathlib.Tactic
import TrinoManagement.Collector.Poller
import TrinoManagement.Core.Dict
import TrinoManagement.Core.Run

namespace TrinoManagement.Collector

open TrinoManagement.Run (Meets run run_inv meets_of_forall)

/-! ## Polls and what they could judge by -/

inductive Judgement where
  | failed
  | abstained
  | judged
deriving DecidableEq, Repr

/-- one query poll: what it could judge by, whether its snapshot was saved, and whether that is to be trusted -/
structure QueryPolled where
  judgement : Judgement
  saved : Bool
  trusted : Bool
deriving DecidableEq, Repr

/-- a stored JMX reading that is recent enough, and a number -/
def judges (cfg : PollerConfig) (now : ℚ) (jmx : Option JmxSnapshot) : Bool := (lastJmxRunningQueries cfg now jmx).isSome

def judgement (cfg : PollerConfig) (r : Round) (jmx : Option JmxSnapshot) : Judgement :=
  match r.queries with
  | .error _ => .failed
  | .ok _ => if judges cfg r.wall jmx then .judged else .abstained

/-- the poller, the stored JMX snapshot, and every query poll so far, the newest first -/
structure Watch where
  poller : Poller
  jmx : Option JmxSnapshot
  polls : List QueryPolled

def Watch.tick (cfg : PollerConfig) (s : Watch) (r : Round) : Watch :=
  let t := (Collector.tick cfg r s.poller s.jmx).1
  ⟨t.poller, t.jmx,
    (queryLists t.produced).map (fun q => ⟨judgement cfg r t.jmx, r.saves .queries, q.trustworthy⟩) ++ s.polls⟩

/-- the poller has just been built; a JMX snapshot may be stored -/
def Watch.init (cfg : PollerConfig) (jmx : Option JmxSnapshot) : Watch := ⟨cfg.init, jmx, []⟩

/-- every list that arrives is empty, and every JMX reading says that queries run -/
structure Denied (r : Round) : Prop where
  empty : ∀ result, r.queries = .ok result → result.queries = []
  running : ∀ attributes, r.mbean queryManagerMbean = .ok attributes →
    ∃ n : ℤ, 0 < n ∧ attributes.get "RunningQueries" = .int n

/-- a stored reading says so too -/
def SaysRunning (jmx : Option JmxSnapshot) : Prop :=
  ∀ s ∈ jmx, ∀ q, (s.payload.getPath ["mbeans", queryManagerMbean, "RunningQueries"]).number = some q → ∃ n : ℤ, 0 < n ∧ q = n

/-! ## What is claimed, and the condition -/

/-- query polls that judged -/
def judgedCount (polls : List QueryPolled) : ℕ := polls.countP fun p => p.judgement = .judged

/-- judging polls in a row, up to the newest; failed polls do not count -/
def judgedStreak : List QueryPolled → ℕ
  | [] => 0
  | p :: earlier =>
    match p.judgement with
    | .failed => judgedStreak earlier
    | .abstained => 0
    | .judged => judgedStreak earlier + 1

/-- from the `n`th judging poll on, no saved snapshot is to be trusted -/
def Reported (n : ℕ) : List QueryPolled → Prop
  | [] => True
  | p :: earlier => Reported n earlier ∧ (p.saved = true → n ≤ judgedCount (p :: earlier) → p.trusted = false)

/-- from the `n`th judging poll on, each answered poll that is saved ends a streak of `n` -/
def Unbroken (n : ℕ) : List QueryPolled → Prop
  | [] => True
  | p :: earlier => Unbroken n earlier ∧
      (p.saved = true → p.judgement ≠ .failed → n ≤ judgedCount (p :: earlier) → n ≤ judgedStreak (p :: earlier))

/-! ## What JMX says -/

section Jmx

variable {cfg : PollerConfig} {r : Round}

/-- an MBean that was read is what the coordinator answered -/
theorem readMbeans_mem {answers : String → Except ClientError Value} {p : String × Value}
    (h : p ∈ (readMbeans answers).mbeans) : answers p.1 = .ok p.2 := by
  have main : ∀ (names : List String) (reads : MbeanReads), (∀ p ∈ reads.mbeans, answers p.1 = .ok p.2) →
      ∀ p ∈ (names.foldl (fun reads name => reads.read name (answers name)) reads).mbeans, answers p.1 = .ok p.2 := by
    intro names
    induction names with
    | nil => exact fun _ h => h
    | cons name names ih =>
      intro reads hreads
      refine ih _ ?_
      intro p hp
      dsimp only at hp
      cases ha : answers name with
      | error e =>
        rw [ha] at hp
        exact hreads p hp
      | ok attributes =>
        rw [ha] at hp
        rcases List.mem_append.1 hp with hp | hp
        · exact hreads p hp
        · obtain rfl := List.mem_singleton.1 hp
          exact ha
  exact main jmxMbeans ⟨[], [], none⟩ (fun p hp => by cases hp) p h

/-- the reading a JMX poll stores is the coordinator's, or none -/
theorem pollJmx_running {clocks : PollClocks} {p : Poller} {answers : String → Except ClientError Value} {q : ℚ}
    (h : ((pollJmx cfg clocks p answers).1.payload.getPath ["mbeans", queryManagerMbean, "RunningQueries"]).number = some q) :
    ∃ attributes, answers queryManagerMbean = .ok attributes ∧ (attributes.get "RunningQueries").number = some q := by
  unfold pollJmx at h
  dsimp only at h
  by_cases hnone : (readMbeans answers).mbeans = []
  · rw [if_pos hnone] at h
    cases h
  · rw [if_neg hnone] at h
    change ((((readMbeans answers).mbeans.lookup queryManagerMbean).getD .none).get "RunningQueries").number = some q at h
    cases hlookup : (readMbeans answers).mbeans.lookup queryManagerMbean with
    | none => rw [hlookup] at h; cases h
    | some attributes =>
      rw [hlookup] at h
      exact ⟨attributes, readMbeans_mem (Dict.mem_of_lookup hlookup), h⟩

theorem saysRunning_tick (h : Denied r) {p : Poller} {jmx : Option JmxSnapshot} (hjmx : SaysRunning jmx) :
    SaysRunning (tick cfg r p jmx).1.jmx := by
  refine serveAll_inv (fun t => SaysRunning t.jmx) (fun kind _ t s p' ht hp => ?_) hjmx
  cases s with
  | jmx snapshot =>
    have hkind := poll_kind hp
    subst hkind
    cases hsave : r.saves .jmx with
    | false => simpa [Ticked.deliver, Produced.kind, hsave] using ht
    | true =>
      have hstored : (t.deliver cfg r .jmx (.jmx snapshot) p').jmx = some snapshot := by
        simp [Ticked.deliver, hsave]
      change SaysRunning (t.deliver cfg r .jmx (.jmx snapshot) p').jmx
      rw [hstored]
      intro s' hs' q hq
      obtain rfl := Option.some.inj hs'
      cases hp
      obtain ⟨attributes, hanswer, hnumber⟩ := pollJmx_running hq
      obtain ⟨n, hn, hget⟩ := h.running attributes hanswer
      rw [hget] at hnumber
      exact ⟨n, hn, (Option.some.inj hnumber).symm⟩
  | _ => rw [jmx_deliver (by simp [Produced.kind])]; exact ht

/-- a reading to judge by is a reason to suspect -/
theorem suspicion_of_judges {now : ℚ} {jmx : Option JmxSnapshot} (h : SaysRunning jmx) :
    (suspicion [] (lastJmxRunningQueries cfg now jmx)).isSome = judges cfg now jmx := by
  unfold judges lastJmxRunningQueries
  cases jmx with
  | none => rfl
  | some s =>
    dsimp only
    split_ifs
    · rfl
    · cases hq : (s.payload.getPath ["mbeans", queryManagerMbean, "RunningQueries"]).number with
      | none => rfl
      | some q =>
        obtain ⟨n, hn, rfl⟩ := h s rfl q hq
        have hne : n ≠ 0 := by omega
        simp [suspicion, Option.filter, hne]

end Jmx

/-! ## The counter is the streak -/

/-- each poll was trusted exactly when it was answered and its streak short -/
def Told (n : ℕ) : List QueryPolled → Prop
  | [] => True
  | p :: earlier => Told n earlier ∧ (p.trusted = true ↔ p.judgement ≠ .failed ∧ judgedStreak (p :: earlier) < n)

structure Watched (cfg : PollerConfig) (s : Watch) : Prop where
  suspicious : s.poller.suspiciousPolls = judgedStreak s.polls
  jmx : SaysRunning s.jmx
  told : Told cfg.confirmPolls s.polls

section Watch

variable {cfg : PollerConfig} {s : Watch} {r : Round}

/-- one poll adds to the streak, ends it or leaves it, and is told by it -/
theorem pollQueries_told (hr : Denied r) {p₀ p' : Poller} {jmx : Option JmxSnapshot} {q : QueriesSnapshot}
    {polls : List QueryPolled} (hp₀ : p₀.suspiciousPolls = judgedStreak polls) (hjmx : SaysRunning jmx)
    (h : pollQueries cfg (r.clocks .queries) p₀ (lastJmxRunningQueries cfg r.wall jmx) r.queries = .ok (q, p')) (saved : Bool) :
    p'.suspiciousPolls = judgedStreak (⟨judgement cfg r jmx, saved, q.trustworthy⟩ :: polls) ∧
    (q.trustworthy = true ↔ judgement cfg r jmx ≠ .failed ∧
      judgedStreak (⟨judgement cfg r jmx, saved, q.trustworthy⟩ :: polls) < cfg.confirmPolls) := by
  unfold judgement
  cases hq : r.queries with
  | error e =>
    rw [hq] at h
    cases h
    refine ⟨hp₀, ?_⟩
    simp [Snapshot.trustworthy, failedSnapshot]
  | ok result =>
    rw [hq] at h
    have hanswered := pollQueries_answered h
    rw [hr.empty result hq] at hanswered
    have hsome := @suspicion_of_judges cfg r.wall jmx hjmx
    have htrust := hanswered.trustworthy
    have hcount := hanswered.suspiciousPolls
    unfold confirmed at htrust
    unfold suspect at htrust hcount
    dsimp only
    cases hj : judges cfg r.wall jmx with
    | false =>
      rw [hj] at hsome
      have hnone := Option.isNone_iff_eq_none.1 (by simpa using hsome)
      rw [hnone] at htrust hcount
      have hone : 0 < cfg.confirmPolls := by
        unfold PollerConfig.confirmPolls
        omega
      refine ⟨hcount, ?_⟩
      simp [htrust, judgedStreak, hone]
    | true =>
      rw [hj] at hsome
      obtain ⟨n, hn⟩ := Option.isSome_iff_exists.1 hsome
      rw [hn] at htrust hcount
      simp only [Option.isSome_some, if_true] at htrust hcount
      rw [hp₀] at htrust hcount
      refine ⟨hcount, ?_⟩
      rw [htrust]
      simp [judgedStreak, Option.filter]

/-- **One tick** keeps the counter and the record in step. -/
theorem watched_tick (hr : Denied r) (h : Watched cfg s) : Watched cfg (s.tick cfg r) := by
  have hjmx := @saysRunning_tick cfg r hr s.poller s.jmx h.jmx
  unfold Watch.tick
  rcases tick_queries cfg r s.poller s.jmx with hnone | ⟨p₀, q, p', hp₀, hpoll, hone⟩
  · dsimp only
    rw [hnone.lists]
    exact ⟨hnone.suspiciousPolls.trans h.suspicious, hjmx, h.told⟩
  · obtain ⟨hcount, htrust⟩ := pollQueries_told hr (hp₀.trans h.suspicious) hjmx hpoll (r.saves .queries)
    dsimp only
    rw [hone.lists]
    exact ⟨hone.suspiciousPolls.trans hcount, hjmx, h.told, htrust⟩

theorem watched_init {jmx : Option JmxSnapshot} (hjmx : SaysRunning jmx) : Watched cfg (Watch.init cfg jmx) :=
  ⟨rfl, hjmx, trivial⟩

theorem watched_run {jmx : Option JmxSnapshot} (hjmx : SaysRunning jmx) {rounds : List Round}
    (hrounds : ∀ r ∈ rounds, Denied r) : Watched cfg (run (Watch.tick cfg) (Watch.init cfg jmx) rounds) :=
  run_inv (Watched cfg) (fun _ _ h hok => watched_tick hok h) (meets_of_forall hrounds) (watched_init hjmx)

/-- a poll that is told by its streak is reported exactly when that is long -/
theorem reported_iff_unbroken {n : ℕ} {polls : List QueryPolled} (h : Told n polls) : Reported n polls ↔ Unbroken n polls := by
  induction polls with
  | nil => exact Iff.rfl
  | cons p earlier ih =>
    obtain ⟨htold, htrust⟩ := h
    unfold Reported Unbroken
    rw [ih htold]
    apply and_congr_right
    intro _
    constructor
    · intro hreported hsaved hanswered hlate
      by_contra hshort
      have htrusted := htrust.2 ⟨hanswered, not_le.1 hshort⟩
      rw [hreported hsaved hlate] at htrusted
      cases htrusted
    · intro hunbroken hsaved hlate
      by_contra htrusted
      obtain ⟨hanswered, hshort⟩ := htrust.1 (by simpa using htrusted)
      have hlong := hunbroken hsaved hanswered hlate
      omega

end Watch

/-- **Denial is forgotten by abstaining.** In every run of ticks that is denied throughout, the denial stays reported
exactly when each answered poll that is saved from the `h09_confirm_polls`th judging poll on ends a streak of as many. -/
theorem reported_iff (cfg : PollerConfig) (jmx : Option JmxSnapshot) (hjmx : SaysRunning jmx) (rounds : List Round)
    (hrounds : ∀ r ∈ rounds, Denied r) :
    Reported cfg.confirmPolls (run (Watch.tick cfg) (Watch.init cfg jmx) rounds).polls ↔
      Unbroken cfg.confirmPolls (run (Watch.tick cfg) (Watch.init cfg jmx) rounds).polls :=
  reported_iff_unbroken (watched_run hjmx hrounds).told

instance Reported.decidable (n : ℕ) : ∀ polls, Decidable (Reported n polls)
  | [] => isTrue trivial
  | p :: earlier =>
    have := Reported.decidable n earlier
    inferInstanceAs (Decidable (Reported n earlier ∧ (p.saved = true → n ≤ judgedCount (p :: earlier) → p.trusted = false)))

instance Unbroken.decidable (n : ℕ) : ∀ polls, Decidable (Unbroken n polls)
  | [] => isTrue trivial
  | p :: earlier =>
    have := Unbroken.decidable n earlier
    inferInstanceAs (Decidable (Unbroken n earlier ∧ (p.saved = true → p.judgement ≠ .failed →
      n ≤ judgedCount (p :: earlier) → n ≤ judgedStreak (p :: earlier))))

namespace Sample

/-- queries every 3 s, JMX every 15 s, two polls to confirm -/
def deniedCluster : PollerConfig where
  clusterName := "prod-a"
  baseQueryInterval := 3
  jmxInterval := 15
  infoInterval := 30
  queryTextMaxBytes := 4096
  longRunningSeconds := 300
  responseBackoffBytes := 5000000
  responseBackoffInterval := 10
  jmxCrossCheckMaxAge := none
  h09ConfirmPolls := 2
  resourceGroupInterval := none
  str _ := ""

/-- a tick of a coordinator whose lists are filtered and which runs three queries -/
def deniedRound (now : ℚ) : Round where
  now := now
  wall := now
  clocks _ := ⟨now, now, now⟩
  info := .ok (.dict [("starting", .bool false)])
  mbean _ := .ok (.dict [("RunningQueries", .int 3)])
  queries := .ok ⟨[], 2⟩
  resourceGroups := .ok ⟨[], .dict [], none, none⟩
  loadRaises := none
  saves _ := true

theorem denied_deniedRound (now : ℚ) : Denied (deniedRound now) := by
  constructor
  · intro result h
    cases h
    rfl
  · intro attributes h
    cases h
    exact ⟨3, by decide, rfl⟩

/-- three query polls, the last one too long after the JMX reading -/
def deniedRounds : List Round := [deniedRound 0, deniedRound 3, deniedRound 6]

theorem denied_deniedRounds : ∀ r ∈ deniedRounds, Denied r := by
  intro r hr
  simp only [deniedRounds, List.mem_cons, List.not_mem_nil, or_false] at hr
  rcases hr with rfl | rfl | rfl <;> exact denied_deniedRound _

theorem saysRunning_none : SaysRunning none := fun _ h => by cases h

end Sample

theorem reported_two : Reported Sample.deniedCluster.confirmPolls (run (Watch.tick Sample.deniedCluster)
    (Watch.init Sample.deniedCluster none) [Sample.deniedRound 0, Sample.deniedRound 3]).polls := by
  refine (reported_iff Sample.deniedCluster none Sample.saysRunning_none [Sample.deniedRound 0, Sample.deniedRound 3] ?_).2 ?_
  · intro r hr
    simp only [List.mem_cons, List.not_mem_nil, or_false] at hr
    rcases hr with rfl | rfl <;> exact Sample.denied_deniedRound _
  · decide +kernel

/-- **Denial is forgotten.** Two polls have judged and reported it; the third abstains, and its empty list is trusted. -/
theorem denial_forgotten : (∀ r ∈ Sample.deniedRounds, Denied r) ∧
    ¬Reported Sample.deniedCluster.confirmPolls
      (run (Watch.tick Sample.deniedCluster) (Watch.init Sample.deniedCluster none) Sample.deniedRounds).polls :=
  ⟨Sample.denied_deniedRounds, by decide +kernel⟩

end TrinoManagement.Collector
