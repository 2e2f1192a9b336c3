/-
A cluster the guard calls exclusive is one: the live list shows its backends inactive, and its queries snapshot is
there, fresh, to be trusted, and without a live query.

- `Missed`: the inputs on which it is satisfied and should not be.
- `guard_sound`: there are no others. `guard_misses_queue` is a snapshot of one queued query, as the collector stores it.
-/
import Mathlib.Tactic
import TrinoManagement.Bench.Guard

namespace TrinoManagement.BenchGuard

open TrinoManagement.Collector

/-! ## What is claimed -/

/-- the rows of a snapshot in a live state -/
def liveQueries (s : QueriesSnapshot) : List QueryRow :=
  (s.payload.elim [] (·.queries)).filter fun q => stateIn liveStates q.state

/-- an inactive backend: the live list has it, and nowhere as active -/
structure Inactive (live : List Backend) (name : String) : Prop where
  listed : ∃ b ∈ live, b.name = name
  inactive : ∀ b ∈ live, b.name = name → b.active = false

structure Quiet (cluster : String) (gateway : Option (Except String (List Backend))) (snapshots : Snapshots)
    (staleThreshold now : ℚ) : Prop where
  rotation : ∃ live stored, gateway = some (.ok live) ∧ snapshots.gateway = .ok stored ∧ mapped cluster stored ≠ [] ∧
    ∀ b ∈ mapped cluster stored, Inactive live b.name
  idle : ∃ s, snapshots.queries = .ok (some s) ∧ s.isStale now staleThreshold = false ∧ s.trustworthy = true ∧
    liveQueries s = []

/-! ## What the guard misses -/

/-- the live states that `summary.running` leaves out -/
def uncountedStates : List String := ["QUEUED", "WAITING_FOR_RESOURCES", "DISPATCHING", "PLANNING", "STARTING"]

/-- an active entry with an inactive one of the same name after it -/
def Overwritten (live : List Backend) (name : String) : Prop :=
  ∃ before b after, live = before ++ b :: after ∧ b.name = name ∧ b.active = true ∧
    ∃ b' ∈ after, b'.name = name ∧ b'.active = false

/-- a live list whose last entries are inactive, a fresh snapshot with nothing running, and more to see in one of them -/
structure Missed (cluster : String) (gateway : Option (Except String (List Backend))) (snapshots : Snapshots)
    (staleThreshold now : ℚ) : Prop where
  satisfied : Satisfied cluster gateway snapshots staleThreshold now
  more : (∃ live stored, gateway = some (.ok live) ∧ snapshots.gateway = .ok stored ∧
      ∃ b ∈ mapped cluster stored, Overwritten live b.name) ∨
    ∃ s, snapshots.queries = .ok (some s) ∧
      (s.trustworthy = false ∨ ∃ q ∈ s.payload.elim [] (·.queries), stateIn uncountedStates q.state = true)

/-! ## The live list -/

section Rotation

variable {live : List Backend} {name : String}

theorem lookup_byName : (byName live).lookup name = (live.reverse.map fun b => (b.name, b.active)).lookup name := by
  rw [byName, Dict.lookup_ofPairs, List.map_reverse]

theorem exists_of_lookup {backends : List Backend} {active : Bool}
    (h : (backends.map fun b => (b.name, b.active)).lookup name = some active) :
    ∃ b ∈ backends, b.name = name ∧ b.active = active := by
  obtain ⟨b, hb, heq⟩ := List.mem_map.1 (Assoc.mem_of_lookup h)
  cases heq
  exact ⟨b, hb, rfl, rfl⟩

/-- the last entry of an active backend is inactive only if it comes after -/
theorem inactive_iff (hlast : (byName live).lookup name = some false) : Inactive live name ↔ ¬Overwritten live name := by
  rw [lookup_byName] at hlast
  constructor
  · rintro hinactive ⟨before, b, after, rfl, hname, hactive, -⟩
    have hb := hinactive.inactive b (by simp) hname
    rw [hb] at hactive
    cases hactive
  · intro hover
    obtain ⟨b, hb, hname, -⟩ := exists_of_lookup hlast
    refine ⟨⟨b, List.mem_reverse.1 hb, hname⟩, ?_⟩
    intro b hb hname
    by_contra hactive
    rw [Bool.not_eq_false] at hactive
    obtain ⟨before, after, rfl⟩ := List.append_of_mem hb
    refine hover ⟨before, b, after, rfl, hname, hactive, ?_⟩
    rw [List.reverse_append, List.reverse_cons, List.append_assoc, List.map_append, List.lookup_append] at hlast
    cases hafter : (after.reverse.map fun b => (b.name, b.active)).lookup name with
    | some active =>
      rw [hafter, Option.some_or] at hlast
      cases hlast
      obtain ⟨b', hb', h⟩ := exists_of_lookup hafter
      exact ⟨b', List.mem_reverse.1 hb', h⟩
    | none =>
      -- then `b` itself is the last entry, and it is active
      rw [hafter, Option.none_or, List.singleton_append, List.map_cons, hname, hactive, List.lookup_cons_self] at hlast
      cases hlast

end Rotation

/-! ## The snapshot -/

theorem liveStates_split (v : Value) : stateIn liveStates v = (stateIn runningStates v || stateIn uncountedStates v) := by
  cases v with
  | str s =>
    simp only [stateIn, liveStates, runningStates, uncountedStates, ← Bool.decide_or, decide_eq_decide, List.mem_cons,
      List.not_mem_nil, or_false]
    tauto
  | _ => rfl

/-- with nothing running, what is live is in one of the states left out -/
theorem liveQueries_nil {s : QueriesSnapshot} {p : QueriesPayload} (hcounted : Counted s) (hp : s.payload = some p)
    (hrunning : p.summary.running = 0) :
    liveQueries s = [] ↔ ∀ q ∈ s.payload.elim [] (·.queries), stateIn uncountedStates q.state = false := by
  have hnone : ∀ q ∈ p.queries, stateIn runningStates q.state = false := by
    rw [hcounted p hp, summary, List.countP_eq_zero] at hrunning
    intro q hq
    simpa using hrunning q hq
  simp only [liveQueries, List.filter_eq_nil_iff, hp, Option.elim_some]
  refine forall₂_congr ?_
  intro q hq
  rw [liveStates_split, hnone q hq, Bool.false_or, Bool.not_eq_true]

/-! ## Soundness -/

section Sound

variable (cluster : String) (gateway : Option (Except String (List Backend))) (snapshots : Snapshots)
  (staleThreshold now : ℚ)

/-- a satisfied guard is right, or misses something -/
theorem quiet_iff (h : Satisfied cluster gateway snapshots staleThreshold now) :
    Quiet cluster gateway snapshots staleThreshold now ↔ ¬Missed cluster gateway snapshots staleThreshold now := by
  obtain ⟨live, stored, hlive, hstored, hmapped, hlast⟩ := h.rotation
  obtain ⟨s, p, hs, hstale, hp, hrunning⟩ := h.idle
  have hrows := liveQueries_nil (snapshots.counted s hs) hp hrunning
  constructor
  · rintro ⟨⟨live', stored', hlive', hstored', -, hinactive⟩, s', hs', -, htrusted, hnone⟩ ⟨-, hmore⟩
    cases hlive.symm.trans hlive'
    cases hstored.symm.trans hstored'
    cases hs.symm.trans hs'
    rcases hmore with ⟨live', stored', hlive', hstored', b, hb, hover⟩ | ⟨s', hs', huntrusted | ⟨q, hq, hstate⟩⟩
    · cases hlive.symm.trans hlive'
      cases hstored.symm.trans hstored'
      exact (inactive_iff (hlast b hb)).1 (hinactive b hb) hover
    · cases hs.symm.trans hs'
      rw [huntrusted] at htrusted
      cases htrusted
    · cases hs.symm.trans hs'
      rw [hrows.1 hnone q hq] at hstate
      cases hstate
  · intro hmissed
    refine ⟨⟨live, stored, hlive, hstored, hmapped, ?_⟩, s, hs, hstale, ?_, ?_⟩
    · intro b hb
      rw [inactive_iff (hlast b hb)]
      exact fun hover => hmissed ⟨h, .inl ⟨live, stored, hlive, hstored, b, hb, hover⟩⟩
    · by_contra huntrusted
      exact hmissed ⟨h, .inr ⟨s, hs, .inl (by simpa using huntrusted)⟩⟩
    · rw [hrows]
      intro q hq
      by_contra hstate
      exact hmissed ⟨h, .inr ⟨s, hs, .inr ⟨q, hq, by simpa using hstate⟩⟩⟩

/-- **The guard is sound** except for what its two sources hide from it. -/
theorem guard_sound :
    (∀ result, guardFor cluster gateway snapshots staleThreshold now = .ok result → result.ok = true →
      Quiet cluster gateway snapshots staleThreshold now) ↔
    ¬Missed cluster gateway snapshots staleThreshold now := by
  constructor
  · intro hsound hmissed
    obtain ⟨result, hresult, hok⟩ := check_ok.2 hmissed.satisfied
    exact (quiet_iff _ _ _ _ _ hmissed.satisfied).1 (hsound result hresult hok) hmissed
  · intro hmissed result hresult hok
    exact (quiet_iff _ _ _ _ _ (check_ok.1 ⟨result, hresult, hok⟩)).2 hmissed

end Sound

/-! ### A queued query -/

def pollerConfig : PollerConfig :=
  ⟨"prod-a", 5, 15, 30, 4096, 300, 1048576, 15, none, 2, none, fun _ => ""⟩

/-- a poll that lists one queued query -/
def polled : Except PyError (QueriesSnapshot × Poller) :=
  pollQueries pollerConfig ⟨100, 100, 100⟩ pollerConfig.init (some 0)
    (.ok ⟨[.dict [("queryId", .str "q1"), ("state", .str "QUEUED")]], 64⟩)

/-- deactivated in the Gateway -/
def backend : Backend := ⟨"prod-a", some "http://prod-a:8080", none, some "adhoc", false⟩

def stored : Snapshots where
  gateway := .ok (some ⟨gatewayScope, 90, some (joinBackends id [⟨"prod-a", "http://prod-a:8080", "prod"⟩] [backend]), none, none⟩)
  queries := .ok (polled.toOption.map (·.1))
  counted := by
    intro s hs
    cases hpolled : polled with
    | error e =>
      rw [hpolled] at hs
      cases hs
    | ok x =>
      obtain ⟨s', p'⟩ := x
      rw [hpolled] at hs
      cases hs
      exact pollQueries_counted hpolled

theorem guard_misses_queue :
    (∃ result, guardFor "prod-a" (some (.ok [backend])) stored 30 105 = .ok result ∧ result.ok = true ∧
        result.caveat = "") ∧
      (∃ s, stored.queries = .ok (some s) ∧ (liveQueries s).map (·.state) = [.str "QUEUED"]) ∧
      ¬Quiet "prod-a" (some (.ok [backend])) stored 30 105 := by
  have hs : ∃ s, stored.queries = .ok (some s) ∧ (liveQueries s).map (·.state) = [.str "QUEUED"] := by
    have hlisted : polled.toOption.map (fun x => (liveQueries x.1).map (·.state)) = some [.str "QUEUED"] := by
      decide +kernel
    obtain ⟨x, hx, hstates⟩ := Option.map_eq_some_iff.1 hlisted
    refine ⟨x.1, ?_, hstates⟩
    change Except.ok (polled.toOption.map (·.1)) = Except.ok (some x.1)
    rw [hx, Option.map_some]
  refine ⟨⟨⟨"prod-a", [], [⟨"prod-a", some false⟩], some 0, some 100, true⟩, by decide +kernel, rfl, rfl⟩, hs, ?_⟩
  rintro ⟨-, s, hqueries, -, -, hnone⟩
  obtain ⟨s', hs', hstates⟩ := hs
  cases hqueries.symm.trans hs'
  rw [hnone] at hstates
  cases hstates

end TrinoManagement.BenchGuard
