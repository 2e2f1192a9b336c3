/-
Outbound calls behind a circuit breaker, `tms/clients/circuit.py` and the `_call` of `tms/clients/trino.py` and
`tms/clients/gateway.py`, which differ in their headers alone.

- `CircuitBreaker`: its threshold is positive by construction; `state`, `recordSuccess`, `recordFailure`.
- `classifyStatus`: which answers are worth a retry.
- `call`: one call as a program over the breaker, the transport and the clock.
- `serve`: what these do; a request sent and the breaker opening are noted with their times.
- `Ended`: the inversion lemma of a call (`call_ended`): how it ends, what it sent, and what it leaves of the breaker.
-/
import Mathlib.Data.NNRat.Defs
import Mathlib.Tactic
import TrinoManagement.Core.Number
import TrinoManagement.Core.Prog

namespace TrinoManagement.Clients

open TrinoManagement.Prog (demonic onOk_ok wp wp_bind wp_ite wp_perform wp_throw)

/-! ## The breaker -/

/-- `OPEN` is `opened` -/
inductive BreakerState where
  | closed | opened | halfOpen
deriving DecidableEq, Repr

structure CircuitBreaker where
  failureThreshold : ℕ
  threshold_pos : 1 ≤ failureThreshold
  resetSeconds : ℚ
  /-- `_consecutive_failures` -/
  failures : ℕ
  openedAt : ℚ
  /-- `_state`, which `state` brings up to date -/
  raw : BreakerState
deriving DecidableEq

namespace CircuitBreaker

variable (b : CircuitBreaker)

/-- `__init__`; otherwise its `ValueError` -/
def init (failureThreshold : ℤ) (resetSeconds : ℚ) : Except String CircuitBreaker :=
  if h : failureThreshold < 1 then .error "failure_threshold must be >= 1"
  else .ok ⟨failureThreshold.toNat, by omega, resetSeconds, 0, 0, .closed⟩

/-- reading `state`: an open breaker whose time is up becomes half open -/
def state (now : ℚ) : CircuitBreaker :=
  if b.raw = .opened ∧ b.resetSeconds ≤ now - b.openedAt then { b with raw := .halfOpen } else b

def recordSuccess : CircuitBreaker := { b with failures := 0, raw := .closed }

/-- one more transient failure is enough -/
def Due : Prop := b.failureThreshold ≤ b.failures + 1

instance : Decidable b.Due := inferInstanceAs (Decidable (_ ≤ _))

/-- a failure that is not transient never opens the breaker -/
def recordFailure (isTransient : Bool) (now : ℚ) : CircuitBreaker :=
  if !isTransient then b
  else if b.Due then
    { b with failures := b.failures + 1, raw := .opened, openedAt := now }
  else { b with failures := b.failures + 1 }

@[simp] theorem failureThreshold_state (now : ℚ) : (b.state now).failureThreshold = b.failureThreshold := by
  unfold state
  split <;> rfl

@[simp] theorem resetSeconds_state (now : ℚ) : (b.state now).resetSeconds = b.resetSeconds := by
  unfold state
  split <;> rfl

@[simp] theorem failures_state (now : ℚ) : (b.state now).failures = b.failures := by
  unfold state
  split <;> rfl

@[simp] theorem openedAt_state (now : ℚ) : (b.state now).openedAt = b.openedAt := by
  unfold state
  split <;> rfl

theorem raw_state (now : ℚ) : (b.state now).raw =
    if b.raw = .opened ∧ b.resetSeconds ≤ now - b.openedAt then .halfOpen else b.raw := by
  unfold state
  split <;> rfl

@[simp] theorem due_state (now : ℚ) : (b.state now).Due ↔ b.Due := by
  rw [Due, Due, failureThreshold_state, failures_state]

theorem state_opened {now : ℚ} : (b.state now).raw = .opened ↔ b.raw = .opened ∧ now < b.openedAt + b.resetSeconds := by
  rw [raw_state]
  by_cases h : b.raw = .opened ∧ b.resetSeconds ≤ now - b.openedAt
  · rw [if_pos h]
    refine ⟨nofun, fun h' => ?_⟩
    linarith [h.2, h'.2]
  · rw [if_neg h]
    refine ⟨fun h' => ⟨h', ?_⟩, fun h' => h'.1⟩
    by_contra hlt
    exact h ⟨h', by linarith⟩

theorem state_eq_self {now : ℚ} (h : (b.state now).raw = .opened) : b.state now = b := by
  rw [state, if_neg]
  rintro ⟨-, hle⟩
  linarith [((b.state_opened).1 h).2]

end CircuitBreaker

/-! ## Requests and their answers -/

/-- the classes of `TrinoClientError` that a status or the transport leads to -/
inductive ErrorClass where
  | unavailable | unauthorized | forbidden | notFound | mbeanNotRegistered
deriving DecidableEq, Repr

/-- the class attribute `transient` -/
def ErrorClass.isTransient : ErrorClass → Bool
  | .unavailable => true
  | .unauthorized | .forbidden | .notFound | .mbeanNotRegistered => false

structure CallError where
  kind : ErrorClass
  message : String
deriving DecidableEq, Repr

/-- `needle in text` -/
def containsText (needle : String) (text : String) : Bool :=
  text.toList.tails.any fun rest => needle.toList.isPrefixOf rest

/-- the error that explains a status best -/
def classifyStatus (status : ℤ) (path : String) : CallError :=
  if status = 401 then ⟨.unauthorized, "HTTP 401 for " ++ path⟩
  else if status = 403 then ⟨.forbidden, "HTTP 403 for " ++ path⟩
  else if status = 404 then ⟨.notFound, "HTTP 404 for " ++ path⟩
  else if status = 500 ∧ containsText "/v1/jmx/mbean/" path then ⟨.mbeanNotRegistered, "HTTP 500 for " ++ path⟩
  else ⟨.unavailable, "HTTP " ++ toString status ++ " for " ++ path⟩

/-- what `self._transport.request` is given -/
structure Request where
  method : String
  url : String
  headers : List (String × String)
  body : Option ByteArray
  connectTimeout : ℚ
  readTimeout : ℚ
  verifyTls : Bool

structure HttpResponse where
  status : ℤ
  body : ByteArray

/-- a response, a `TransportError` with its text, or another exception of the transport -/
inductive Answer where
  | response (r : HttpResponse)
  | transportError (text : String)
  | raised (className text : String)

/-- what a call raises -/
inductive Raised where
  /-- `CircuitOpen` -/
  | circuitOpen (message : String)
  | client (e : CallError)
  | other (className text : String)
deriving DecidableEq

/-! ## A call -/

inductive CallAct where
  /-- the breaker's `state` -/
  | state
  /-- the breaker's `_clock()`, and the breaker it is read for -/
  | clock
  | recordSuccess
  | recordFailure (isTransient : Bool)
  | request (r : Request)
  | sleep (seconds : ℚ)

@[reducible] def CallAct.Answer : CallAct → Type
  | .state => BreakerState
  | .clock => ℚ × CircuitBreaker
  | .recordSuccess | .recordFailure _ | .sleep _ => Unit
  | .request _ => Clients.Answer

abbrev CallM (α : Type) := Prog CallAct CallAct.Answer Raised α

def perform (e : CallAct) : CallM (CallAct.Answer e) := Prog.perform e

def allowsRequest : CallM Bool := do
  let state ← perform .state
  pure (decide (state ≠ .opened))

def secondsUntilRetry : CallM ℚ := do
  let state ← perform .state
  if state ≠ .opened then pure 0
  else do
    let (now, b) ← perform .clock
    pure (max 0 (b.resetSeconds - (now - b.openedAt)))

/-- what `TrinoClient` and `GatewayClient` have in common -/
structure Client where
  baseUrl : String
  user : String
  password : String
  verifyTls : Bool
  connectTimeout : ℚ
  readTimeout : ℚ
  /-- base64 of a text's bytes -/
  b64 : String → String

namespace Client

variable (client : Client)

def basicAuth : String × String := ("Authorization", "Basic " ++ client.b64 (client.user ++ ":" ++ client.password))

/-- the arguments of one `_call` less the headers; `path` is what errors name -/
structure Args where
  method : String
  path : String
  body : Option ByteArray
  retries : ℤ
  timeout : Option ℚ

def request (args : Args) (headers : List (String × String)) : Request where
  method := args.method
  url := client.baseUrl ++ args.path
  headers := headers
  body := args.body
  connectTimeout := client.connectTimeout
  readTimeout := args.timeout.getD client.readTimeout
  verifyTls := client.verifyTls

/-- the attempts that are left, of `attempts`; the last error of those made -/
def tryAttempts (path : String) (r : Request) (attempts : ℕ) : ℕ → Option CallError → CallM HttpResponse
  | 0, lastError => do
    perform (.recordFailure true)
    throw (.client (lastError.getD ⟨.unavailable, path⟩))
  | left + 1, _ => do
    let attempt := attempts - (left + 1)
    let again (e : CallError) : CallM HttpResponse := do
      if attempt + 1 < attempts then perform (.sleep (1 / 5 * 2 ^ attempt))
      tryAttempts path r attempts left (some e)
    match ← perform (.request r) with
    | .raised className text => throw (.other className text)
    | .transportError text => again ⟨.unavailable, path ++ ": " ++ text⟩
    | .response response =>
      if 200 ≤ response.status ∧ response.status < 300 then do
        perform .recordSuccess
        pure response
      else if !(classifyStatus response.status path).kind.isTransient then do
        perform (.recordFailure false)
        throw (.client (classifyStatus response.status path))
      else again (classifyStatus response.status path)

/-- the part of `_call` both clients share; no attempt is made for a negative number of retries -/
def call (args : Args) (headers : List (String × String)) : CallM HttpResponse := do
  if !(← allowsRequest) then do
    let remaining ← secondsUntilRetry
    throw (.circuitOpen ("circuit open for " ++ client.baseUrl ++ " (" ++ fixed 0 remaining ++ "s remaining)"))
  tryAttempts args.path (client.request args headers) (args.retries + 1).toNat (args.retries + 1).toNat none

/-- `TrinoClient._call` -/
def trinoCall (args : Args) (authenticated : Bool) : CallM HttpResponse :=
  client.call args ((if authenticated then [client.basicAuth] else []) ++
    if args.body.isSome then [("Content-Type", "application/json")] else [])

/-- `GatewayClient._call`: an empty Basic header would look like a failed login -/
def gatewayCall (args : Args) (contentType : Option String) : CallM HttpResponse :=
  client.call args ((if client.user ≠ "" ∨ client.password ≠ "" then [client.basicAuth] else []) ++
    match contentType with
    | some type => if type ≠ "" then [("Content-Type", type)] else []
    | none => [])

end Client

/-! ## What the effects do -/

inductive Event where
  | sent (at_ : ℚ)
  | opened (at_ : ℚ)
deriving DecidableEq, Repr

/-- the clock, the breaker, and what happened in the call so far -/
structure World where
  now : ℚ
  breaker : CircuitBreaker
  events : List Event
deriving DecidableEq

/-- how long an effect takes, and what the transport answers -/
structure Oracle where
  elapsed : ℚ≥0
  answer : Answer

instance : Inhabited Oracle := ⟨⟨0, .transportError ""⟩⟩

def World.pass (w : World) (elapsed : ℚ≥0) : World := { w with now := w.now + elapsed }

/-- time passes, then the effect takes place -/
def serve (o : Oracle) (e : CallAct) (w : World) : CallAct.Answer e × World :=
  let w := w.pass o.elapsed
  match e with
  | .state => ((w.breaker.state w.now).raw, { w with breaker := w.breaker.state w.now })
  | .clock => ((w.now, w.breaker), w)
  | .recordSuccess => ((), { w with breaker := w.breaker.recordSuccess })
  | .recordFailure isTransient =>
    ((), { w with breaker := w.breaker.recordFailure isTransient w.now
                  events := w.events ++ if isTransient ∧ w.breaker.Due then [.opened w.now] else [] })
  | .request _ => (o.answer, { w with events := w.events ++ [.sent w.now] })
  | .sleep _ => ((), w)

/-! ## How a call ends -/

/-- answered, refused by an open breaker, out of attempts, refused for good, or broken off by another exception -/
inductive Ending where
  | answered | refused | failed | denied | broke
deriving DecidableEq, Repr

def ending : Except Raised HttpResponse → Ending
  | .ok _ => .answered
  | .error (.circuitOpen _) => .refused
  | .error (.client e) => if e.kind.isTransient then .failed else .denied
  | .error (.other ..) => .broke

/-- what an ending at `now` makes of the breaker -/
def CircuitBreaker.after (b : CircuitBreaker) : Ending → ℚ → CircuitBreaker
  | .answered, _ => b.recordSuccess
  | .failed, now => b.recordFailure true now
  | _, _ => b

@[simp] theorem CircuitBreaker.failureThreshold_after (b : CircuitBreaker) (e : Ending) (now : ℚ) :
    (b.after e now).failureThreshold = b.failureThreshold := by
  cases e <;> simp only [after, recordSuccess, recordFailure]
  split_ifs <;> rfl

@[simp] theorem CircuitBreaker.resetSeconds_after (b : CircuitBreaker) (e : Ending) (now : ℚ) :
    (b.after e now).resetSeconds = b.resetSeconds := by
  cases e <;> simp only [after, recordSuccess, recordFailure]
  split_ifs <;> rfl

/-- a breaker that is not open is opened by a transient failure alone, and only when one more is enough -/
theorem CircuitBreaker.after_opened {b : CircuitBreaker} {e : Ending} {now : ℚ} (hraw : b.raw ≠ .opened) :
    (b.after e now).raw = .opened ↔ e = .failed ∧ b.Due := by
  cases e with
  | failed =>
    simp only [after, recordFailure, Bool.not_true, Bool.false_eq_true, if_false]
    split_ifs with hdue <;> simp [hdue, hraw]
  | answered => simp [after, recordSuccess]
  | refused => simpa [after] using hraw
  | denied => simpa [after] using hraw
  | broke => simpa [after] using hraw

theorem CircuitBreaker.openedAt_after {b : CircuitBreaker} {now : ℚ} (hdue : b.Due) :
    (b.after .failed now).openedAt = now := by
  simp [after, recordFailure, hdue]

/-- the opening it notes, if any -/
def CircuitBreaker.noted (b : CircuitBreaker) (e : Ending) (now : ℚ) : List Event :=
  if e = .failed ∧ b.Due then [.opened now] else []

/-- how a call of at most `attempts` attempts, begun with the breaker `b`, may end: refused at `t`, while the breaker is
open, or admitted at `t` and every request sent from then on -/
inductive Ended (b : CircuitBreaker) (began : ℚ) (attempts : ℕ) : Ending → World → Prop
  | refused {t t' now : ℚ} (hbegan : began ≤ t) (hread : t ≤ t') (hnow : t' ≤ now) (hopened : (b.state t).raw = .opened) :
    Ended b began attempts .refused ⟨now, b.state t', []⟩
  | admitted {e : Ending} {t now : ℚ} {sent : List ℚ} (he : e ≠ .refused) (hbegan : began ≤ t) (hnow : t ≤ now)
    (hstate : (b.state t).raw ≠ .opened) (hsent : ∀ s ∈ sent, t ≤ s ∧ s ≤ now) (hlength : sent.length ≤ attempts) :
    Ended b began attempts e ⟨now, (b.state t).after e now, sent.map .sent ++ b.noted e now⟩

section Call

variable {b : CircuitBreaker} {began : ℚ} {path : String} {r : Request} {attempts : ℕ}

theorem le_pass (w : World) (elapsed : ℚ≥0) : w.now ≤ (w.pass elapsed).now := by
  have hpos : (0 : ℚ) ≤ elapsed := elapsed.2
  exact le_add_of_nonneg_right hpos

/-- what holds between two attempts: requests were sent, and the breaker is as it was read -/
structure Trying (b : CircuitBreaker) (t : ℚ) (sent : List ℚ) (w : World) : Prop where
  breaker : w.breaker = b.state t
  events : w.events = sent.map .sent
  now : t ≤ w.now
  sent_now : ∀ s ∈ sent, t ≤ s ∧ s ≤ w.now

theorem Trying.pass {t : ℚ} {sent : List ℚ} {w : World} (h : Trying b t sent w) (elapsed : ℚ≥0) :
    Trying b t sent (w.pass elapsed) where
  breaker := h.breaker
  events := h.events
  now := h.now.trans (le_pass w elapsed)
  sent_now s hs := ⟨(h.sent_now s hs).1, (h.sent_now s hs).2.trans (le_pass w elapsed)⟩

/-- another request -/
theorem Trying.send {t : ℚ} {sent : List ℚ} {w : World} (h : Trying b t sent w) :
    Trying b t (sent ++ [w.now]) { w with events := w.events ++ [.sent w.now] } where
  breaker := h.breaker
  events := by simp [h.events]
  now := h.now
  sent_now := by
    intro s hs
    rcases List.mem_append.1 hs with hs | hs
    · exact h.sent_now s hs
    · obtain rfl := List.mem_singleton.1 hs
      exact ⟨h.now, le_refl _⟩

theorem Trying.ended {t : ℚ} {sent : List ℚ} {w : World} (h : Trying b t sent w) (hbegan : began ≤ t)
    (hstate : (b.state t).raw ≠ .opened) (hlength : sent.length ≤ attempts) {e : Ending} (he : e ≠ .refused) :
    Ended b began attempts e { w with breaker := w.breaker.after e w.now, events := w.events ++ b.noted e w.now } := by
  obtain ⟨now, breaker, events⟩ := w
  obtain rfl : breaker = b.state t := h.breaker
  obtain rfl : events = sent.map .sent := h.events
  exact .admitted he hbegan h.now hstate h.sent_now hlength

theorem wp_tryAttempts {t : ℚ} (hbegan : began ≤ t) (hstate : (b.state t).raw ≠ .opened) (left : ℕ)
    {lastError : Option CallError} (hlast : ∀ e ∈ lastError, e.kind.isTransient = true) {sent : List ℚ} {w : World}
    (hw : Trying b t sent w) (hleft : sent.length + left ≤ attempts) :
    wp (demonic (fun _ => True) serve) (Client.tryAttempts path r attempts left lastError)
      (fun x w' => Ended b began attempts (ending x) w') w := by
  induction left generalizing lastError sent w with
  | zero =>
    rw [Client.tryAttempts, wp_bind, perform, wp_perform]
    intro o _
    rw [onOk_ok, wp_throw]
    have hfailed : ending (.error (.client (lastError.getD ⟨.unavailable, path⟩))) = .failed := by
      cases lastError with
      | none => rfl
      | some e => simp [ending, hlast e rfl]
    rw [hfailed]
    have hend := (hw.pass o.elapsed).ended hbegan hstate (by omega) (e := .failed) (by decide)
    have hdue : (w.pass o.elapsed).breaker.Due ↔ b.Due := by rw [(hw.pass o.elapsed).breaker, CircuitBreaker.due_state]
    simpa [CircuitBreaker.noted, CircuitBreaker.after, serve, hdue] using hend
  | succ left ih =>
    rw [Client.tryAttempts, wp_bind, perform, wp_perform]
    intro o _
    have hsent := (hw.pass o.elapsed).send
    have hlength : (sent ++ [(w.pass o.elapsed).now]).length + left ≤ attempts := by simp; omega
    -- a transient error: perhaps a pause, then the next attempt
    have hagain : ∀ e : CallError, e.kind.isTransient = true →
        wp (demonic (fun _ => True) serve) (do
          if attempts - (left + 1) + 1 < attempts then perform (.sleep (1 / 5 * 2 ^ (attempts - (left + 1))))
          Client.tryAttempts path r attempts left (some e))
        (fun x w' => Ended b began attempts (ending x) w')
        { w.pass o.elapsed with events := (w.pass o.elapsed).events ++ [.sent (w.pass o.elapsed).now] } := by
      intro e he
      have hlast : ∀ e' ∈ some e, e'.kind.isTransient = true := by
        rintro e' ⟨⟩
        exact he
      split_ifs with hpause
      · rw [wp_bind]
        intro o' _
        exact ih hlast (hsent.pass o'.elapsed) hlength
      · exact ih hlast hsent hlength
    rw [onOk_ok]
    dsimp only [serve]
    cases o.answer with
    | raised className text =>
      have hend := hsent.ended hbegan hstate (le_of_add_le_left hlength) (e := .broke) (by decide)
      simpa [CircuitBreaker.noted, CircuitBreaker.after, ending] using hend
    | transportError text => exact hagain _ rfl
    | response response =>
      dsimp only
      by_cases hok : 200 ≤ response.status ∧ response.status < 300
      · rw [if_pos hok, wp_bind, perform, wp_perform]
        intro o' _
        have hend := (hsent.pass o'.elapsed).ended hbegan hstate (le_of_add_le_left hlength) (e := .answered) (by decide)
        simpa [CircuitBreaker.noted, CircuitBreaker.after, ending, serve] using hend
      · rw [if_neg hok]
        by_cases hdenied : (!(classifyStatus response.status path).kind.isTransient) = true
        · rw [if_pos hdenied, wp_bind, perform, wp_perform]
          intro o' _
          have hend := (hsent.pass o'.elapsed).ended hbegan hstate (le_of_add_le_left hlength) (e := .denied) (by decide)
          have hkind : (classifyStatus response.status path).kind.isTransient = false := by simpa using hdenied
          simpa [CircuitBreaker.noted, CircuitBreaker.after, CircuitBreaker.recordFailure, ending, serve, hkind] using hend
        · rw [if_neg hdenied]
          exact hagain _ (by simpa using hdenied)

theorem wp_allowsRequest {Q : Except Raised Bool → World → Prop} {w : World}
    (h : ∀ t, w.now ≤ t → Q (.ok (decide ((w.breaker.state t).raw ≠ .opened))) ⟨t, w.breaker.state t, w.events⟩) :
    wp (demonic (fun _ => True) serve) allowsRequest Q w := by
  rw [allowsRequest, wp_bind, perform, wp_perform]
  intro o _
  exact h _ (le_pass w o.elapsed)

theorem wp_secondsUntilRetry {Q : Except Raised ℚ → World → Prop} {w : World}
    (h : ∀ t t' remaining, w.now ≤ t → t ≤ t' → Q (.ok remaining) ⟨t', w.breaker.state t, w.events⟩) :
    wp (demonic (fun _ => True) serve) secondsUntilRetry Q w := by
  rw [secondsUntilRetry, wp_bind, perform, wp_perform]
  intro o _
  rw [onOk_ok, wp_ite]
  split_ifs
  · exact h _ _ 0 (le_pass w o.elapsed) (le_refl _)
  · rw [wp_bind, perform, wp_perform]
    intro o' _
    exact h _ _ _ (le_pass w o.elapsed) (le_pass _ o'.elapsed)

/-- **How a call ends**, whatever the transport answers and however long it takes. -/
theorem call_ended (client : Client) (args : Client.Args) (headers : List (String × String)) (os : List Oracle) :
    Ended b began (args.retries + 1).toNat (ending (Prog.run serve os (client.call args headers) ⟨began, b, []⟩).1)
      (Prog.run serve os (client.call args headers) ⟨began, b, []⟩).2 := by
  have hwp : wp (demonic (fun _ => True) serve) (client.call args headers)
      (fun x w' => Ended b began (args.retries + 1).toNat (ending x) w') ⟨began, b, []⟩ := by
    rw [Client.call, wp_bind]
    refine wp_allowsRequest fun t ht => ?_
    rw [onOk_ok]
    by_cases hopened : (b.state t).raw = .opened
    · simp only [hopened, ne_eq, not_true_eq_false, decide_false, Bool.not_false, if_true]
      rw [wp_bind]
      refine wp_secondsUntilRetry fun t' now remaining ht' hnow => ?_
      rw [onOk_ok, wp_bind, wp_throw, b.state_eq_self hopened]
      exact .refused ht ht' hnow hopened
    · simp only [hopened, ne_eq, not_false_eq_true, decide_true, Bool.not_true, Bool.false_eq_true, if_false]
      exact @wp_tryAttempts _ _ _ _ _ _ ht hopened _ _ (by simp) [] _ ⟨rfl, rfl, le_refl _, by simp⟩ (by simp)
  exact Prog.wp_run trivial (fun _ _ => trivial) hwp

end Call

end TrinoManagement.Clients
