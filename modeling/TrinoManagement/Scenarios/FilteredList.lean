/-
A query list filtered by access control: the poller of one cluster beside the restart service, every list empty while
JMX says that queries are running.

The poller holds an empty list against the stored JMX reading, and only if that is recent. Where there is none it
abstains, and until `h09_confirm_polls` suspicions in a row it believes the list: those snapshots are to be trusted, and
a refresh that reads one drains the sequence.

- `QueryPoll`: what a query poll had to judge by, and whether its snapshot was stored; `streak`, the usable readings in
  a row up to the newest poll.
- `watched_move`: the poller's counter is the streak, and the stored snapshot is to be trusted exactly while the streak
  it was stored at is too short.
- `filtered_list_drains_unconfirmed`: no unforced request drains on a snapshot stored at a long enough streak.
- `filtered_list_drains`: the first suspicious poll is believed, and drains.
-/
import Mathlib.Tactic
import TrinoManagement.Scenarios.Drain

namespace TrinoManagement.Service

open TrinoManagement.Collector TrinoManagement.Repository TrinoManagement.Sequence
open TrinoManagement.Run (Meets run run_inv meets_of_forall)

/-! ## The poller beside the service -/

/-- one query poll: whether a usable JMX reading was at hand, and whether its snapshot was stored -/
structure QueryPoll where
  usable : Bool
  saved : Bool
deriving DecidableEq, Repr

/-- a stored JMX reading that is recent enough, and a number other than zero -/
def usableReading (cfg : PollerConfig) (now : ℚ) (jmx : Option JmxSnapshot) : Bool :=
  match jmx with
  | none => false
  | some s =>
    !s.isStale now cfg.crossCheckMaxAge &&
      match (s.payload.getPath ["mbeans", queryManagerMbean, "RunningQueries"]).number with
      | some n => decide (1 ≤ |n|)
      | none => false

structure Plant where
  world : World
  poller : Poller
  jmx : Option JmxSnapshot
  /-- every query poll so far, for the record; the newest comes first -/
  polls : List QueryPoll

inductive Move where
  | tick (r : Round)
  | other (l : Label)

section Step

variable (env : Env) (cfg : PollerConfig)

def Plant.tick (s : Plant) (r : Round) : Plant :=
  let t := (Collector.tick cfg r s.poller s.jmx).1
  { world := (queryLists t.saved).foldl (fun w q => step env w (.storeQueries q)) s.world
    poller := t.poller
    jmx := t.jmx
    polls := if queryLists t.produced = [] then s.polls else ⟨usableReading cfg r.wall t.jmx, r.saves .queries⟩ :: s.polls }

def Plant.step (s : Plant) : Move → Plant
  | .tick r => s.tick env cfg r
  | .other l => { s with world := Service.step env s.world l }

/-- the poller has just been built; anything may be stored -/
def Plant.init (w : World) (jmx : Option JmxSnapshot) : Plant := ⟨w, cfg.init, jmx, []⟩

end Step

/-- access control empties every list, every JMX reading that arrives says that queries run, and nobody else stores
query lists of the cluster -/
def Filtered (cfg : PollerConfig) : Move → Prop
  | .tick r => (∃ bytes, r.queries = .ok ⟨[], bytes⟩) ∧
      ∀ attributes, r.mbean queryManagerMbean = .ok attributes → ∃ n : ℤ, 0 < n ∧ attributes.get "RunningQueries" = .int n
  | .other (.storeQueries s) => s.cluster ≠ cfg.clusterName
  | .other _ => True

/-! ## The suspicion -/

/-- usable readings in a row, up to the newest poll -/
def streak (polls : List QueryPoll) : ℕ := (polls.takeWhile (·.usable)).length

/-- the stored snapshot was stored by a poll that ended a long enough streak -/
def Confirmed (cfg : PollerConfig) (polls : List QueryPoll) : Prop :=
  cfg.confirmPolls ≤ streak (polls.dropWhile fun p => !p.saved)

theorem one_le_confirmPolls (cfg : PollerConfig) : 1 ≤ cfg.confirmPolls := by
  unfold PollerConfig.confirmPolls
  omega

@[simp] theorem streak_cons (p : QueryPoll) (polls : List QueryPoll) :
    streak (p :: polls) = if p.usable then streak polls + 1 else 0 := by
  unfold streak
  rw [List.takeWhile_cons]
  split_ifs <;> simp

/-- the code takes a reading for a reason to suspect exactly when it is usable -/
theorem suspicion_isSome (cfg : PollerConfig) (now : ℚ) (jmx : Option JmxSnapshot) :
    (suspicion [] (lastJmxRunningQueries cfg now jmx)).isSome = usableReading cfg now jmx := by
  cases jmx with
  | none => rfl
  | some s =>
    simp only [suspicion, if_true, lastJmxRunningQueries, usableReading]
    cases hstale : s.isStale now cfg.crossCheckMaxAge with
    | true => rfl
    | false =>
      cases (s.payload.getPath ["mbeans", queryManagerMbean, "RunningQueries"]).number with
      | none => rfl
      | some q =>
        rw [Bool.eq_iff_iff]
        simp [Option.filter, ← truncate_ne_zero]

/-- the poller's counter is the streak, and a stored snapshot that is to be trusted was stored at a short one -/
structure Watched (cfg : PollerConfig) (s : Plant) : Prop where
  suspicious : s.poller.suspiciousPolls = streak s.polls
  stored : ∀ (last : QueryPoll) (rest : List QueryPoll), s.polls.dropWhile (fun p => !p.saved) = last :: rest →
    ∃ q, s.world.queries cfg.clusterName = some q ∧ (q.trustworthy = true → streak (last :: rest) < cfg.confirmPolls)

section Watch

variable {env : Env} {cfg : PollerConfig} {s : Plant}

/-- an empty list adds to the streak or ends it, and is believed only while the streak is short -/
theorem answered_streak {p₀ p' : Poller} {q : QueriesSnapshot} {now : ℚ} {jmx : Option JmxSnapshot}
    {polls : List QueryPoll} (saved : Bool) (hp₀ : p₀.suspiciousPolls = streak polls)
    (h : Answered cfg p₀ (lastJmxRunningQueries cfg now jmx) [] q p') :
    p'.suspiciousPolls = streak (⟨usableReading cfg now jmx, saved⟩ :: polls) ∧
    (q.trustworthy = true → streak (⟨usableReading cfg now jmx, saved⟩ :: polls) < cfg.confirmPolls) := by
  have hone := one_le_confirmPolls cfg
  have hsome := suspicion_isSome cfg now jmx
  have hcount : suspect p₀ [] (lastJmxRunningQueries cfg now jmx) =
      streak (⟨usableReading cfg now jmx, saved⟩ :: polls) := by
    rw [suspect, hsome, streak_cons, hp₀]
  refine ⟨h.suspiciousPolls.trans hcount, fun htrust => ?_⟩
  rw [h.trustworthy, confirmed, hcount] at htrust
  by_cases husable : usableReading cfg now jmx = true
  · rw [husable] at hsome
    obtain ⟨n, hn⟩ := Option.isSome_iff_exists.1 hsome
    by_contra hlong
    rw [hn, Option.filter, if_pos (decide_eq_true (not_lt.1 hlong))] at htrust
    cases htrust
  · rw [streak_cons, if_neg husable]
    omega

theorem watched_tick {r : Round} (h : Watched cfg s) (hf : Filtered cfg (.tick r)) : Watched cfg (s.tick env cfg r) := by
  obtain ⟨⟨bytes, hempty⟩, -⟩ := hf
  unfold Plant.tick
  rcases tick_queries cfg r s.poller s.jmx with hnone | ⟨p₀, q, p', hp₀, hpoll, hone⟩
  · -- no query poll: nothing changes that matters
    dsimp only
    rw [hnone.lists, hnone.saved, if_pos rfl]
    exact ⟨hnone.suspiciousPolls.trans h.suspicious, h.stored⟩
  · rw [hempty] at hpoll
    have hanswered := pollQueries_answered hpoll
    obtain ⟨hstreak, htrust⟩ := answered_streak (r.saves .queries) (hp₀.trans h.suspicious) hanswered
    dsimp only
    rw [hone.lists, hone.saved, if_neg (List.cons_ne_nil q [])]
    refine ⟨hone.suspiciousPolls.trans hstreak, fun last rest hdrop => ?_⟩
    cases hsave : r.saves .queries with
    | false =>
      rw [hsave, List.dropWhile_cons_of_pos rfl] at hdrop
      exact h.stored last rest hdrop
    | true =>
      rw [hsave, List.dropWhile_cons_of_neg (by simp), List.cons.injEq] at hdrop
      obtain ⟨rfl, rfl⟩ := hdrop
      refine ⟨q, ?_, hsave ▸ htrust⟩
      simp only [if_true, List.foldl_cons, List.foldl_nil, step, Function.update_apply, hanswered.cluster]

theorem watched_move {m : Move} (h : Watched cfg s) (hf : Filtered cfg m) : Watched cfg (s.step env cfg m) := by
  cases m with
  | tick r => exact watched_tick h hf
  | other l =>
    have hsame : (step env s.world l).queries cfg.clusterName = s.world.queries cfg.clusterName := by
      cases l with
      | call op os => rw [queries_called]
      | storeQueries q => exact Function.update_of_ne (Ne.symm hf) _ _
      | _ => rfl
    refine ⟨h.suspicious, fun last rest hdrop => ?_⟩
    obtain ⟨q, hq, htrust⟩ := h.stored last rest hdrop
    exact ⟨q, hsame.trans hq, htrust⟩

theorem watched_init (cfg : PollerConfig) (w : World) (jmx : Option JmxSnapshot) : Watched cfg (Plant.init cfg w jmx) :=
  ⟨rfl, fun _ _ hdrop => by cases hdrop⟩

end Watch

/-! ## Draining on a filtered list -/

/-- the request takes a sequence of the cluster to DRAINED -/
def Drains (env : Env) (w : World) (op : Op) (os : List Oracle) (cluster : String) : Prop :=
  ∃ (id : ℕ) (row : Row), (step env w (.call op os)).rows[id]? = some row ∧ row.cluster = cluster ∧
    row.state = .drained ∧ ¬ DrainedIn w id

instance (env : Env) (w : World) (op : Op) (os : List Oracle) (cluster : String) : Decidable (Drains env w op os cluster) :=
  decidable_of_iff (∃ id ∈ List.range (step env w (.call op os)).rows.length,
      ∃ row ∈ (step env w (.call op os)).rows[id]?, row.cluster = cluster ∧ row.state = .drained ∧ ¬ DrainedIn w id) <| by
    constructor
    · rintro ⟨id, -, row, hrow, h⟩
      exact ⟨id, row, hrow, h⟩
    · rintro ⟨id, row, hrow, h⟩
      obtain ⟨hlt, -⟩ := List.getElem?_eq_some_iff.1 hrow
      exact ⟨id, List.mem_range.2 hlt, row, hrow, h⟩

/-- **A filtered list drains only unconfirmed.** In every run from any stored state in which access control empties
every list, an unforced request that takes a sequence to DRAINED reads a snapshot that no long enough streak of usable
JMX readings had confirmed to be filtered. -/
theorem filtered_list_drains_unconfirmed (env : Env) (cfg : PollerConfig) (w₀ : World) (jmx₀ : Option JmxSnapshot)
    (moves : List Move) (hf : ∀ m ∈ moves, Filtered cfg m) (op : Op) (os : List Oracle) (hop : op.kind ≠ .forceDrain)
    (hd : Drains env (run (Plant.step env cfg) (Plant.init cfg w₀ jmx₀) moves).world op os cfg.clusterName) :
    ¬ Confirmed cfg (run (Plant.step env cfg) (Plant.init cfg w₀ jmx₀) moves).polls := by
  have hw : Watched cfg (run (Plant.step env cfg) (Plant.init cfg w₀ jmx₀) moves) :=
    run_inv (Watched cfg) (fun _ _ h hok => watched_move h hok) (meets_of_forall hf) (watched_init cfg w₀ jmx₀)
  generalize run (Plant.step env cfg) (Plant.init cfg w₀ jmx₀) moves = s at hd hw
  intro hconfirmed
  obtain ⟨id, row, hrow, hcluster, hstate, hnew⟩ := hd
  have hzero := (drained_counted hop hrow hstate).resolve_left hnew
  rw [hcluster] at hzero
  unfold Confirmed at hconfirmed
  have hone := one_le_confirmPolls cfg
  cases hdrop : s.polls.dropWhile (fun p => !p.saved) with
  | nil =>
    rw [hdrop] at hconfirmed
    simp only [streak, List.takeWhile_nil, List.length_nil] at hconfirmed
    omega
  | cons last rest =>
    obtain ⟨q, hq, htrust⟩ := hw.stored last rest hdrop
    rw [hdrop] at hconfirmed
    have huntrusted : q.trustworthy = false := by
      rw [← Bool.not_eq_true]
      intro htrusted
      have hshort := htrust htrusted
      omega
    rw [hq, observedRunning, huntrusted] at hzero
    cases hzero

-- a run on fixed inputs is left to the kernel, never unfolded
attribute [irreducible] Drains

namespace Sample

/-- a coordinator that is up, whose query lists are filtered and which runs three queries -/
def filteredRound (now : ℚ) : Round where
  now := now
  wall := now
  clocks _ := ⟨now, now, now⟩
  info := .ok (.dict [("starting", .bool false)])
  mbean _ := .ok (.dict [("RunningQueries", .int 3)])
  queries := .ok ⟨[], 2⟩
  resourceGroups := .ok ⟨[], .dict [], none, none⟩
  loadRaises := none
  saves _ := true

end Sample

/-- a start, and then one tick -/
def suspectedRun : List Move :=
  [.other (.pollGateway true), .other (.clock 1000), .other (.call (.start Sample.admin "prod-a" "upgrade") []),
    .tick (Sample.filteredRound 1001), .other (.clock 1002)]

theorem filtered_suspectedRun : ∀ m ∈ suspectedRun, Filtered Sample.poller m := by
  intro m hm
  simp only [suspectedRun, List.mem_cons, List.not_mem_nil, or_false] at hm
  rcases hm with rfl | rfl | rfl | rfl | rfl
  case inr.inr.inr.inl =>
    refine ⟨⟨2, rfl⟩, fun attributes h => ⟨3, by decide, ?_⟩⟩
    cases h
    rfl
  all_goals exact trivial

/-- **A filtered list drains.** The first suspicious poll is believed, though a fresh JMX reading says that three
queries run. -/
theorem filtered_list_drains :
    (∀ m ∈ suspectedRun, Filtered Sample.poller m) ∧
    Drains Sample.env (run (Plant.step Sample.env Sample.poller)
      (Plant.init Sample.poller (World.init 0 [Sample.backend]) none) suspectedRun).world (.refresh 0) [] "prod-a" :=
  ⟨filtered_suspectedRun, by decide +kernel⟩

/-- the one poll of that run was suspicious, and two are required -/
theorem filtered_list_drains_suspected :
    ¬ Confirmed Sample.poller (run (Plant.step Sample.env Sample.poller)
      (Plant.init Sample.poller (World.init 0 [Sample.backend]) none) suspectedRun).polls :=
  filtered_list_drains_unconfirmed Sample.env Sample.poller (World.init 0 [Sample.backend]) none suspectedRun
    filtered_suspectedRun (.refresh 0) [] (by decide) (by decide +kernel)

end TrinoManagement.Service
