/-
A client and its circuit breaker over any number of calls, one after the other.

- `Line`: the clock, the breaker and the calls made so far; `step` makes one more, whatever the transport answers.
- `Inv`: the breaker's counter is the number of calls that failed in a row, and its opening time the last opening.
- `breaker_guards`: when it opens, when no request is sent, what reopens it, what never does, and how many requests a call
  may send.
-/
import Mathlib.Tactic
import TrinoManagement.Clients.Circuit
import TrinoManagement.Core.Run

namespace TrinoManagement.Clients

open TrinoManagement.Run (Each Meets each_nil each_snoc meets_of_forall run run_inv)

/-! ## Calls one after the other -/

/-- a call that was made -/
structure Record where
  args : Client.Args
  began : ℚ
  events : List Event
  ending : Ending

def Record.requests (r : Record) : List ℚ := r.events.filterMap fun
  | .sent t => some t
  | .opened _ => none

def Record.openings (r : Record) : List ℚ := r.events.filterMap fun
  | .sent _ => none
  | .opened t => some t

def openings (h : List Record) : List ℚ := h.flatMap Record.openings

/-- one more call: a success starts the count afresh, a transient failure adds to it -/
def tally (n : ℕ) (r : Record) : ℕ :=
  match r.ending with
  | .answered => 0
  | .failed => n + 1
  | .refused | .denied | .broke => n

/-- the calls that failed for a transient reason since the last success -/
def failures (h : List Record) : ℕ := h.foldl tally 0

structure Line where
  now : ℚ
  breaker : CircuitBreaker
  history : List Record

/-- which client calls, with what decides its headers -/
inductive Caller where
  | trino (authenticated : Bool)
  | gateway (contentType : Option String)
deriving DecidableEq, Repr

/-- a call, made after a pause, and what is outside while it runs -/
structure Call where
  idle : ℚ≥0
  caller : Caller
  args : Client.Args
  oracles : List Oracle

def Call.prog (client : Client) (c : Call) : CallM HttpResponse :=
  match c.caller with
  | .trino authenticated => client.trinoCall c.args authenticated
  | .gateway contentType => client.gatewayCall c.args contentType

def step (client : Client) (s : Line) (c : Call) : Line :=
  let began := s.now + c.idle
  let r := Prog.run serve c.oracles (c.prog client) ⟨began, s.breaker, []⟩
  ⟨r.2.now, r.2.breaker, s.history ++ [⟨c.args, began, r.2.events, ending r.1⟩]⟩

/-- a new breaker -/
def start (b : CircuitBreaker) (now : ℚ) : Line := ⟨now, b, []⟩

/-! ## What each call shows -/

/-- a call `r` made after the calls `before` -/
structure Guarded (threshold : ℕ) (reset : ℚ) (before : List Record) (r : Record) : Prop where
  /-- it opens the breaker exactly if it fails for a transient reason, and often enough in a row -/
  opens : r.openings ≠ [] ↔ r.ending = .failed ∧ threshold ≤ failures (before ++ [r])
  /-- no request soon after an earlier opening -/
  quiet : ∀ t ∈ r.requests, ∀ o ∈ openings before, o + reset ≤ t
  /-- nor after its own -/
  last : ∀ first o rest, r.events = first ++ .opened o :: rest → rest = []
  /-- refused only soon after an opening -/
  refused : r.ending = .refused → ∃ o ∈ openings before, r.began < o + reset
  attempts : r.requests.length ≤ (r.args.retries + 1).toNat

theorem failures_snoc (h : List Record) (r : Record) : failures (h ++ [r]) = tally (failures h) r := by
  simp [failures, List.foldl_append]

theorem openings_snoc (h : List Record) (r : Record) : openings (h ++ [r]) = openings h ++ r.openings := by
  simp [openings]

/-- without a success the count only grows -/
theorem failures_mono (h : List Record) {mid : List Record} (hmid : ∀ r ∈ mid, r.ending ≠ .answered) :
    failures h ≤ failures (h ++ mid) := by
  induction mid using List.reverseRecOn with
  | nil => simp
  | append_singleton mid r ih =>
    have hr := hmid r (by simp)
    have hle := ih fun r' hr' => hmid r' (by simp [hr'])
    rw [← List.append_assoc, failures_snoc, tally]
    cases hend : r.ending with
    | answered => exact absurd hend hr
    | failed => exact hle.trans (Nat.le_succ _)
    | refused => exact hle
    | denied => exact hle
    | broke => exact hle

/-! ## The invariant -/

structure Inv (threshold : ℕ) (reset : ℚ) (s : Line) : Prop where
  made_threshold : s.breaker.failureThreshold = threshold
  made_reset : s.breaker.resetSeconds = reset
  counted : s.breaker.failures = failures s.history
  /-- while the breaker counts as open, its opening time is that of the last opening -/
  opened : s.breaker.raw = .opened → s.breaker.openedAt ∈ openings s.history ∧
    ∀ o ∈ openings s.history, o ≤ s.breaker.openedAt
  before : ∀ o ∈ openings s.history, o ≤ s.now
  /-- once it does not, every opening is long past -/
  past : s.breaker.raw ≠ .opened → ∀ o ∈ openings s.history, o + reset ≤ s.now
  guarded : Each (Guarded threshold reset) s.history

variable {threshold : ℕ} {reset : ℚ} {s : Line}

/-- once the state reads as not open, every opening is long past -/
theorem Inv.state_past (h : Inv threshold reset s) {t : ℚ} (ht : s.now ≤ t) (hstate : (s.breaker.state t).raw ≠ .opened) :
    ∀ o ∈ openings s.history, o + reset ≤ t := by
  intro o ho
  by_cases hraw : s.breaker.raw = .opened
  · have hlate : s.breaker.openedAt + s.breaker.resetSeconds ≤ t := by
      by_contra hlt
      exact hstate ((s.breaker.state_opened).2 ⟨hraw, not_le.1 hlt⟩)
    have hle := (h.opened hraw).2 o ho
    rw [h.made_reset] at hlate
    linarith
  · exact (h.past hraw o ho).trans ht

/-! ### One more call -/

variable {args : Client.Args} {began now : ℚ} {sent : List ℚ} {b : CircuitBreaker} {e : Ending}

@[simp] theorem requests_sent : (⟨args, began, sent.map .sent ++ b.noted e now, e⟩ : Record).requests = sent := by
  rw [Record.requests, List.filterMap_append, List.filterMap_map]
  unfold CircuitBreaker.noted
  split_ifs <;> simp

@[simp] theorem openings_noted : (⟨args, began, sent.map .sent ++ b.noted e now, e⟩ : Record).openings =
    if e = .failed ∧ b.Due then [now] else [] := by
  rw [Record.openings, List.filterMap_append, List.filterMap_map]
  unfold CircuitBreaker.noted
  split_ifs <;> simp

/-- an opening comes after every request -/
theorem noted_last : ∀ first o rest, sent.map Event.sent ++ b.noted e now = first ++ .opened o :: rest → rest = [] := by
  intro first o rest h
  rcases List.append_eq_append_iff.1 h with ⟨more, -, hnoted⟩ | ⟨more, hsent, hnoted⟩
  · unfold CircuitBreaker.noted at hnoted
    split_ifs at hnoted
    · rw [eq_comm, List.append_eq_singleton_iff] at hnoted
      rcases hnoted with ⟨-, hone⟩ | ⟨-, hnone⟩
      · exact (List.cons.inj hone).2
      · cases hnone
    · simp at hnoted
  · cases more with
    | nil =>
      unfold CircuitBreaker.noted at hnoted
      split_ifs at hnoted
      · exact (List.cons.inj hnoted).2
      · simp at hnoted
    | cons x more =>
      obtain rfl := (List.cons.inj hnoted).1
      have hmem : Event.opened o ∈ sent.map Event.sent := by simp [hsent]
      simp at hmem

theorem Inv.refused (h : Inv threshold reset s) {t t' : ℚ} (hbegan : s.now ≤ began) (ht : began ≤ t) (hread : t ≤ t')
    (hnow : t' ≤ now) (hopened : (s.breaker.state t).raw = .opened) :
    Inv threshold reset ⟨now, s.breaker.state t', s.history ++ [⟨args, began, [], .refused⟩]⟩ := by
  obtain ⟨hraw, hsoon⟩ := (s.breaker.state_opened).1 hopened
  obtain ⟨hlast, hall⟩ := h.opened hraw
  have hnone : openings (s.history ++ [⟨args, began, [], .refused⟩]) = openings s.history := by
    simp [openings_snoc, Record.openings]
  refine ⟨by simpa using h.made_threshold, by simpa using h.made_reset, ?_, ?_, ?_, ?_, each_snoc.2 ⟨h.guarded, ?_⟩⟩
  · simpa [failures_snoc, tally] using h.counted
  · intro hstill
    simpa [hnone] using ⟨hlast, hall⟩
  · intro o ho
    rw [hnone] at ho
    exact (h.before o ho).trans (by linarith)
  · intro hpast o ho
    rw [hnone] at ho
    exact (h.state_past (by linarith) hpast o ho).trans hnow
  · refine ⟨by simp [Record.openings], by simp [Record.requests], by simp, fun _ => ⟨_, hlast, ?_⟩, by simp [Record.requests]⟩
    rw [← h.made_reset]
    exact lt_of_le_of_lt ht hsoon

theorem Inv.admitted (h : Inv threshold reset s) {t : ℚ} (he : e ≠ .refused) (hbegan : s.now ≤ began) (ht : began ≤ t)
    (hnow : t ≤ now) (hstate : (s.breaker.state t).raw ≠ .opened) (hsent : ∀ u ∈ sent, t ≤ u ∧ u ≤ now)
    (hlength : sent.length ≤ (args.retries + 1).toNat) :
    Inv threshold reset ⟨now, (s.breaker.state t).after e now,
      s.history ++ [⟨args, began, sent.map .sent ++ s.breaker.noted e now, e⟩]⟩ := by
  have hpast := h.state_past (hbegan.trans ht) hstate
  have hdue : s.breaker.Due ↔ threshold ≤ failures s.history + 1 := by
    rw [CircuitBreaker.Due, h.made_threshold, h.counted]
  have hold : ∀ o ∈ openings s.history, o + reset ≤ now := fun o ho => (hpast o ho).trans hnow
  have hopenings : openings (s.history ++ [⟨args, began, sent.map .sent ++ s.breaker.noted e now, e⟩]) =
      openings s.history ++ if e = .failed ∧ s.breaker.Due then [now] else [] := by
    rw [openings_snoc, openings_noted]
  have hguarded : Guarded threshold reset s.history ⟨args, began, sent.map .sent ++ s.breaker.noted e now, e⟩ := by
    refine ⟨?_, ?_, noted_last, fun hrefused => absurd hrefused he, by simpa using hlength⟩
    · rw [openings_noted, failures_snoc, tally]
      cases e <;> simp [hdue]
    · intro u hu o ho
      rw [requests_sent] at hu
      exact (hpast o ho).trans (hsent u hu).1
  have hcounted : ((s.breaker.state t).after e now).failures =
      failures (s.history ++ [⟨args, began, sent.map .sent ++ s.breaker.noted e now, e⟩]) := by
    rw [failures_snoc, tally]
    cases e with
    | answered => rfl
    | failed =>
      simp only [CircuitBreaker.after, CircuitBreaker.recordFailure, Bool.not_true, Bool.false_eq_true, if_false]
      split_ifs <;> simp [h.counted]
    | refused => exact absurd rfl he
    | denied => simpa [CircuitBreaker.after] using h.counted
    | broke => simpa [CircuitBreaker.after] using h.counted
  have hopens : ((s.breaker.state t).after e now).raw = .opened ↔ e = .failed ∧ s.breaker.Due := by
    rw [CircuitBreaker.after_opened hstate, CircuitBreaker.due_state]
  have hbefore : ∀ o ∈ openings s.history, o ≤ now := fun o ho => (h.before o ho).trans (by linarith)
  refine ⟨by simpa using h.made_threshold, by simpa using h.made_reset, hcounted, ?_, ?_, ?_,
    each_snoc.2 ⟨h.guarded, hguarded⟩⟩
  · intro hopened
    obtain ⟨rfl, hd⟩ := hopens.1 hopened
    rw [hopenings, if_pos ⟨rfl, hd⟩]
    have hat : ((s.breaker.state t).after .failed now).openedAt = now :=
      CircuitBreaker.openedAt_after ((s.breaker.due_state t).2 hd)
    rw [hat]
    refine ⟨List.mem_append_right _ (List.mem_singleton_self now), fun o ho => ?_⟩
    rcases List.mem_append.1 ho with ho | ho
    · exact hbefore o ho
    · exact le_of_eq (List.mem_singleton.1 ho)
  · rw [hopenings]
    intro o ho
    rcases List.mem_append.1 ho with ho | ho
    · exact hbefore o ho
    · split_ifs at ho
      · exact le_of_eq (List.mem_singleton.1 ho)
      · cases ho
  · intro hclosed
    rw [hopenings, if_neg fun hopen => hclosed (hopens.2 hopen), List.append_nil]
    exact hold

/-! ## Any number of calls -/

theorem inv_start (b : CircuitBreaker) (now : ℚ) (hb : b.failures = 0) (hraw : b.raw = .closed) :
    Inv b.failureThreshold b.resetSeconds (start b now) where
  made_threshold := rfl
  made_reset := rfl
  counted := hb
  opened := by
    intro hopened
    rw [start, hraw] at hopened
    cases hopened
  before := by simp [start, openings]
  past := by simp [start, openings]
  guarded := each_nil

theorem prog_ended (client : Client) (c : Call) {b : CircuitBreaker} {began : ℚ} :
    Ended b began (c.args.retries + 1).toNat (ending (Prog.run serve c.oracles (c.prog client) ⟨began, b, []⟩).1)
      (Prog.run serve c.oracles (c.prog client) ⟨began, b, []⟩).2 := by
  unfold Call.prog
  cases c.caller with
  | trino authenticated => exact call_ended client c.args _ c.oracles
  | gateway contentType => exact call_ended client c.args _ c.oracles

theorem inv_step (client : Client) (h : Inv threshold reset s) (c : Call) : Inv threshold reset (step client s c) := by
  have hidle : s.now ≤ s.now + c.idle := le_add_of_nonneg_right c.idle.2
  have hended := @prog_ended client c s.breaker (s.now + c.idle)
  unfold step
  dsimp only
  generalize Prog.run serve c.oracles (c.prog client) ⟨s.now + c.idle, s.breaker, []⟩ = r at hended ⊢
  obtain ⟨x, w⟩ := r
  generalize ending x = e at hended
  cases hended with
  | refused hbegan hread hnow hopened => exact h.refused hidle hbegan hread hnow hopened
  | admitted he hbegan hnow hstate hsent hlength => exact h.admitted he hidle hbegan hnow hstate hsent hlength

theorem inv_run (client : Client) (h : Inv threshold reset s) (calls : List Call) :
    Inv threshold reset (run (step client) s calls) :=
  run_inv (Inv threshold reset) (fun _ c hs _ => inv_step client hs c) (meets_of_forall (p := fun _ => True) fun _ _ => trivial) h

/-- what the breaker makes of a history of calls -/
structure Guards (threshold : ℤ) (reset : ℚ) (h : List Record) : Prop where
  /-- it opens only after so many transient failures since the last success -/
  opens : ∀ before r after, h = before ++ r :: after → r.openings ≠ [] → threshold ≤ failures (before ++ [r])
  /-- no request is sent within `reset` seconds of an opening, -/
  quiet : ∀ before r after, h = before ++ r :: after → ∀ t ∈ r.requests, ∀ o ∈ openings before, o + reset ≤ t
  /-- and none at all by the call that opens it, once it has -/
  last : ∀ r ∈ h, ∀ first o rest, r.events = first ++ .opened o :: rest → rest = []
  /-- a call that begins later than that is no longer refused, -/
  admits : ∀ before r after, h = before ++ r :: after → (∀ o ∈ openings before, o + reset ≤ r.began) → r.ending ≠ .refused
  /-- and if the first such call fails for a transient reason, it opens the breaker again -/
  reopens : ∀ before r refused trial after, h = before ++ r :: (refused ++ trial :: after) → r.openings ≠ [] →
    (∀ c ∈ refused, c.ending = .refused) → trial.ending = .failed → trial.openings ≠ []
  permanent : ∀ r ∈ h, r.ending = .denied → r.openings = []
  single : ∀ r ∈ h, r.args.retries = 0 → r.requests.length ≤ 1

theorem guards_of_each {n : ℕ} {h : List Record} (hall : Each (Guarded n reset) h) {m : ℤ} (hm : m = n) :
    Guards m reset h := by
  subst hm
  have hmem : ∀ r ∈ h, ∃ before, Guarded n reset before r := by
    intro r hr
    obtain ⟨before, after, rfl⟩ := List.append_of_mem hr
    exact ⟨before, hall before r after rfl⟩
  refine ⟨?_, ?_, ?_, ?_, ?_, ?_, ?_⟩
  · intro before r after hh hopen
    exact_mod_cast ((hall before r after hh).opens.1 hopen).2
  · intro before r after hh
    exact (hall before r after hh).quiet
  · intro r hr
    obtain ⟨before, hg⟩ := hmem r hr
    exact hg.last
  · intro before r after hh hlate hrefused
    obtain ⟨o, ho, hsoon⟩ := (hall before r after hh).refused hrefused
    exact absurd (hlate o ho) (not_le.2 hsoon)
  · intro before r refused trial after hh hopen hrefused hfailed
    have hcount := ((hall before r _ hh).opens.1 hopen).2
    have hsplit : h = (before ++ [r] ++ refused) ++ trial :: after := by simp [hh]
    refine (hall _ trial after hsplit).opens.2 ⟨hfailed, hcount.trans ?_⟩
    rw [List.append_assoc]
    refine failures_mono _ fun c hc => ?_
    rcases List.mem_append.1 hc with hc | hc
    · simp [hrefused c hc]
    · obtain rfl := List.mem_singleton.1 hc
      simp [hfailed]
  · intro r hr hdenied
    obtain ⟨before, hg⟩ := hmem r hr
    by_contra hopen
    have hfailed := (hg.opens.1 hopen).1
    rw [hdenied] at hfailed
    cases hfailed
  · intro r hr hretries
    obtain ⟨before, hg⟩ := hmem r hr
    have hattempts := hg.attempts
    rw [hretries] at hattempts
    exact hattempts

/-- **The circuit breaker.** Over any calls of a client, one after the other. -/
theorem breaker_guards {failureThreshold : ℤ} {resetSeconds : ℚ} {b : CircuitBreaker}
    (hb : CircuitBreaker.init failureThreshold resetSeconds = .ok b) (client : Client) (now : ℚ) (calls : List Call) :
    Guards failureThreshold resetSeconds (run (step client) (start b now) calls).history := by
  unfold CircuitBreaker.init at hb
  split_ifs at hb with hpos
  obtain rfl := Except.ok.inj hb
  have hall := (inv_run client (inv_start ⟨failureThreshold.toNat, by omega, resetSeconds, 0, 0, .closed⟩ now rfl rfl) calls).guarded
  have hthreshold : ((failureThreshold.toNat : ℕ) : ℤ) = failureThreshold := Int.toNat_of_nonneg (by omega)
  exact guards_of_each hall hthreshold.symm

/-- two calls time out, a third is refused, and one half a minute later times out again -/
def outage : List Call :=
  [⟨0, .trino true, ⟨"GET", "/v1/info", none, 2, none⟩, []⟩, ⟨5, .trino true, ⟨"GET", "/v1/info", none, 0, none⟩, []⟩,
    ⟨29, .trino true, ⟨"GET", "/v1/info", none, 0, none⟩, []⟩, ⟨1, .trino true, ⟨"GET", "/v1/info", none, 0, none⟩, []⟩]

def coordinator : Client := ⟨"http://c1:8080", "tms", "secret", true, 2, 5, id⟩

theorem breaker_guards_outage :
    (run (step coordinator) (start ⟨2, by decide, 30, 0, 0, .closed⟩ 100) outage).history.map
        (fun r => (r.ending, r.requests, r.openings)) =
      [(.failed, [100, 100, 100], []), (.failed, [105], [105]), (.refused, [], []), (.failed, [135], [135])] ∧
      Guards 2 30 (run (step coordinator) (start ⟨2, by decide, 30, 0, 0, .closed⟩ 100) outage).history :=
  ⟨by decide +kernel, @breaker_guards 2 _ _ rfl coordinator 100 outage⟩

end TrinoManagement.Clients
