/-
Killing a query: `kill_query` of `tms/api/services.py` and of `tms/clients/trino.py`.

- `buildKillMessage`, `killPath`: what Trino is told, and about which query.
- `TrinoClient.killQuery`: one call without retries. `adds_killQuery`: at most one request, and one if it returns.
- `killQuery`: the capability, the audit guard, and the call.
- `buildKillMessage_recorded`: the message has the recorded reason as it is recorded.
-/
import Mathlib.Tactic
import TrinoManagement.Api.Brackets
import TrinoManagement.Api.Writes
import TrinoManagement.Clients.Circuit
import TrinoManagement.Core.Dict
import TrinoManagement.Core.Percent
import TrinoManagement.Core.Words

namespace TrinoManagement.Kill

open TrinoManagement.Audit TrinoManagement.Guard
open TrinoManagement.Clients (CallAct CallM Raised)
open TrinoManagement.Percent (Safe quote)
open TrinoManagement.Service (Exn)
open TrinoManagement.Trace (Adds adds_bind adds_mono adds_pure adds_throw)

/-! ## The client -/

/-- `build_kill_message` -/
def buildKillMessage (actor reason requestId : String) : String :=
  let cleaned := String.ofList ([' '].intercalate (words reason))
  let cleaned := if 512 < cleaned.length then String.ofList (cleaned.toList.take 509) ++ "..." else cleaned
  "Killed by TMS. actor=" ++ actor ++ ", reason=" ++ cleaned ++ ", request_id=" ++ requestId

def killPath (queryId : String) : String := "/v1/query/" ++ quote Safe.none queryId ++ "/killed"

structure TrinoClient extends Clients.Client where
  writeTimeout : ℚ

/-- never retried -/
def TrinoClient.killQuery (client : TrinoClient) (queryId message : String) : CallM Unit := do
  let _ ← client.trinoCall ⟨"PUT", killPath queryId, some message.toUTF8, 0, some client.writeTimeout⟩ true
  pure ()

/-! ## The service -/

structure KillConfig where
  clusters : List String
  /-- `trino_clients` -/
  clients : Dict TrinoClient

structure Killed where
  killed : Bool
  requestId : String
deriving DecidableEq, Repr

/-- `type(exc).__name__` -/
def className : Clients.ErrorClass → String
  | .unavailable => "TrinoUnavailable"
  | .unauthorized => "TrinoUnauthorized"
  | .forbidden => "TrinoForbidden"
  | .notFound => "TrinoNotFound"
  | .mbeanNotRegistered => "MBeanNotRegistered"

def raised : Raised → Exn
  | .circuitOpen message => .client "CircuitOpen" message
  | .client e => .client (className e.kind) e.message
  | .other c text => .client c text

/-- what `kill_query` makes of an exception of its client; `CircuitOpen` is a `TrinoUnavailable` -/
def killRefusal (queryId : String) : Exn → Exn
  | .client c message =>
    if c = "TrinoNotFound" then .notFound ("Query not found: " ++ queryId)
    else if c ∈ ["CircuitOpen", "TrinoUnavailable", "TrinoUnauthorized", "TrinoForbidden", "MBeanNotRegistered"] then
      .upstreamUnavailable message
    else .client c message
  | e => e

def killTarget (cluster queryId : String) : Target := ⟨"QUERY_KILL", "query", queryId, some cluster⟩

/-- a kill is one write, about one query -/
def killTerms (principal : Principal) (cluster queryId : String) (reason : Option String) : Terms CallAct where
  writes
    | .request _ => true
    | _ => false
  principal := principal
  reason := reason
  about := (· = killTarget cluster queryId)

/-- `audited.record.reason` -/
def recordedReason (reason : Option String) : String := (normaliseReason (reason.getD "")).getD ""

/-- the part under the guard; `requestId` is the request's, or a new one -/
def killBody (client : TrinoClient) (principal : Principal) (queryId : String) (reason : Option String) (requestId : String) :
    M CallAct CallAct.Answer Unit :=
  embed raised (client.killQuery queryId (buildKillMessage principal.username (recordedReason reason) requestId))

/-- a kill with the client of its cluster, if there is one -/
def killThrough (principal : Principal) (cluster queryId : String) (reason : Option String) (requestId : String) :
    Option TrinoClient → M CallAct CallAct.Answer Killed
  | none => throw (.upstreamUnavailable ("No client configured for cluster " ++ cluster))
  | some client =>
    tryCatch (do
      audited principal (killTarget cluster queryId) reason (killBody client principal queryId reason requestId)
      pure ⟨true, requestId⟩) fun e => throw (killRefusal queryId e)

/-- `TmsService.kill_query` -/
def killQuery (cfg : KillConfig) (principal : Principal) (cluster queryId : String) (reason : Option String)
    (requestId : String) : M CallAct CallAct.Answer Killed :=
  Writes.attempt cfg.clusters (.killQuery cluster queryId) principal reason
    (killThrough principal cluster queryId reason requestId (cfg.clients.lookup cluster))

/-! ## One request -/

/-- the request of a kill -/
def killRequest (client : TrinoClient) (queryId message : String) : Clients.Request :=
  client.request ⟨"PUT", killPath queryId, some message.toUTF8, 0, some client.writeTimeout⟩
    [client.basicAuth, ("Content-Type", "application/json")]

/-- the requests among what a call does -/
def requests (es : List CallAct) : List Clients.Request := es.filterMap fun
  | .request r => some r
  | _ => none

/-- the same request a few times over, and at least once if there is an answer -/
def Sends {α : Type} (r : Clients.Request) (attempts : ℕ) (x : Except Raised α) (es : List CallAct) : Prop :=
  ∃ n ≤ attempts, requests es = List.replicate n r ∧ ∀ a, x = .ok a → 0 < n

section Sends

variable {α : Type} {r : Clients.Request} {attempts : ℕ} {x : Except Raised α} {es : List CallAct}

/-- whatever is no request is not counted -/
theorem Sends.skip {e : CallAct} (he : requests [e] = []) (h : Sends r attempts x es) : Sends r attempts x (e :: es) := by
  obtain ⟨n, hn, hreq, hok⟩ := h
  refine ⟨n, hn, ?_, hok⟩
  rw [← hreq]
  exact (List.filterMap_append (l := [e])).trans (by rw [← requests, ← requests, he, List.nil_append])

theorem Sends.send (h : requests es = [] ∨ Sends r attempts x es) : Sends r (attempts + 1) x (.request r :: es) := by
  have hcons : requests (.request r :: es) = r :: requests es := rfl
  rcases h with hnone | ⟨n, hn, hreq, -⟩
  · exact ⟨1, by omega, by rw [hcons, hnone]; rfl, fun _ _ => Nat.one_pos⟩
  · exact ⟨n + 1, by omega, by rw [hcons, hreq]; rfl, fun _ _ => Nat.succ_pos n⟩

theorem adds_tryAttempts {path : String} {total : ℕ} {lastError : Option Clients.CallError} (left : ℕ) :
    Adds (fun e _ => e) (Clients.Client.tryAttempts path r total left lastError) (Sends r left) := by
  induction left generalizing lastError with
  | zero => exact fun _ => ⟨0, le_refl 0, rfl, nofun⟩
  | succ left ih =>
    intro answer
    -- a transient error: perhaps a pause, then the next attempt
    have hagain : ∀ e : Clients.CallError, Adds (fun e _ => e) (do
        if total - (left + 1) + 1 < total then Clients.perform (.sleep (1 / 5 * 2 ^ (total - (left + 1))))
        Clients.Client.tryAttempts path r total left (some e))
        fun x t => Sends r (left + 1) x (.request r :: t) := by
      intro e
      split_ifs
      · exact fun _ => adds_mono ih fun x t h => Sends.send (.inr (h.skip rfl))
      · exact adds_mono ih fun x t h => Sends.send (.inr h)
    cases answer with
    | raised className text => exact Sends.send (.inl rfl)
    | transportError text => exact hagain _
    | response response =>
      simp only [Prog.bind]
      by_cases hok : 200 ≤ response.status ∧ response.status < 300
      · rw [if_pos hok]
        exact fun _ => Sends.send (.inl rfl)
      · rw [if_neg hok]
        by_cases hdenied : (!(Clients.classifyStatus response.status path).kind.isTransient) = true
        · rw [if_pos hdenied]
          exact fun _ => Sends.send (.inl rfl)
        · rw [if_neg hdenied]
          exact hagain _

end Sends

theorem adds_allowsRequest : Adds (fun e _ => e) Clients.allowsRequest fun _ t => requests t = [] := fun _ => rfl

theorem adds_secondsUntilRetry : Adds (fun e _ => e) Clients.secondsUntilRetry fun _ t => requests t = [] := by
  intro state
  change Adds _ (if state ≠ .opened then _ else _) _
  split_ifs
  · exact (rfl : requests [.state] = [])
  · exact (fun _ => rfl : ∀ _ : CallAct.Answer .clock, requests [.state, .clock] = [])

/-- **A call** sends one request, as often as it may try. -/
theorem adds_call (client : Clients.Client) (args : Clients.Client.Args) (headers : List (String × String)) :
    Adds (fun e _ => e) (client.call args headers) (Sends (client.request args headers) (args.retries + 1).toNat) := by
  refine adds_bind _ adds_allowsRequest (fun _ _ h => ⟨0, Nat.zero_le _, h, nofun⟩) ?_
  intro allowed t ht
  have hskip : ∀ (x : Except Raised Clients.HttpResponse) t', Sends (client.request args headers) (args.retries + 1).toNat x t' →
      Sends (client.request args headers) (args.retries + 1).toNat x (t ++ t') := by
    rintro x t' ⟨n, hn, hreq, hok⟩
    refine ⟨n, hn, ?_, hok⟩
    rw [requests, List.filterMap_append, ← requests, ← requests, ht, hreq, List.nil_append]
  cases allowed with
  | false =>
    refine adds_bind _ adds_secondsUntilRetry (fun _ t' h => hskip _ t' ⟨0, Nat.zero_le _, h, nofun⟩) ?_
    exact fun remaining t' h => adds_throw (hskip _ _ ⟨0, Nat.zero_le _, by rw [List.append_nil]; exact h, nofun⟩)
  | true => exact adds_mono (adds_tryAttempts _) hskip

theorem adds_killQuery (client : TrinoClient) (queryId message : String) :
    Adds (fun e _ => e) (client.killQuery queryId message) (Sends (killRequest client queryId message) 1) := by
  refine adds_bind _ (adds_call client.toClient _ _) ?_ ?_
  · rintro e t ⟨n, hn, hreq, -⟩
    exact ⟨n, hn, hreq, nofun⟩
  · rintro response t ⟨n, hn, hreq, hok⟩
    refine adds_pure ⟨n, hn, ?_, fun _ _ => hok response rfl⟩
    rw [List.append_nil]
    exact hreq

/-! ## The recorded reason -/

/-- **The message has the reason that is on record**, to the letter. -/
theorem buildKillMessage_recorded {actor reason clean requestId : String} (h : normaliseReason reason = some clean) :
    buildKillMessage actor clean requestId =
      "Killed by TMS. actor=" ++ actor ++ ", reason=" ++ clean ++ ", request_id=" ++ requestId := by
  obtain ⟨hwords, hlength⟩ := recorded_reason h
  unfold buildKillMessage
  dsimp only
  rw [hwords, if_neg (not_lt.2 hlength)]

end TrinoManagement.Kill
