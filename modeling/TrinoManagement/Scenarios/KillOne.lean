/-
Killing one query: what `kill_query` sends, and what it leaves on record, however the audit store and the coordinator answer.

A retried kill could kill another query that took the id, and a name with a slash in it could name another resource.
- `KillEnds`: nothing was sent, or one request after every check, with one record beside it. `adds_kill`: each run ends so.
- `killPath_segments`: the path names the query in one segment, from which the query's own name is read back.
- `kill_one`: one request at most, to one query, and its text is the record's.
-/
import Mathlib.Tactic
import TrinoManagement.Api.Kill

namespace TrinoManagement.Kill

open TrinoManagement.Audit TrinoManagement.Guard
open TrinoManagement.Clients (CallAct)
open TrinoManagement.Percent (Safe isSafe quote quoteChars splitOn_segment unquote unquote_quote)
open TrinoManagement.Service (Exn)
open TrinoManagement.Trace (Adds adds_bind adds_mono adds_pure adds_throw adds_tryCatch traced traced_adds traced_erase)

variable {cfg : KillConfig} {principal : Principal} {cluster queryId : String} {reason : Option String} {requestId : String}

/-! ## The path -/

/-- **One segment names the query**, and it is read back as the query's own name. -/
theorem killPath_segments (queryId : String) : ∃ segment : List Char,
    (killPath queryId).toList.splitOn '/' = [[], "v1".toList, "query".toList, segment, "killed".toList] ∧
    unquote segment = Utf8.encode queryId.toList := by
  refine ⟨quoteChars Safe.none queryId.toList, ?_, unquote_quote _⟩
  have hpath : (killPath queryId).toList =
      "/v1/query".toList ++ '/' :: (quoteChars Safe.none queryId.toList ++ '/' :: "killed".toList) := by
    rw [killPath, String.toList_append, String.toList_append, quote, @String.toList_ofList (quoteChars Safe.none queryId.toList),
      List.append_assoc]
    rfl
  rw [hpath, splitOn_segment (by decide)]
  rfl

/-- no two queries have one path -/
theorem killPath_injective {queryId queryId' : String} (h : killPath queryId' = killPath queryId) : queryId' = queryId := by
  obtain ⟨segment, hsegments, hread⟩ := killPath_segments queryId
  obtain ⟨segment', hsegments', hread'⟩ := killPath_segments queryId'
  rw [h, hsegments] at hsegments'
  obtain rfl : segment = segment' := by simpa using hsegments'
  rw [hread] at hread'
  exact (String.toList_inj.1 (Utf8.encode_injective hread')).symm

/-! ## What a kill leaves -/

/-- a request of a kill, after every check, with the record beside it -/
structure Sent (cfg : KillConfig) (principal : Principal) (cluster queryId : String) (reason : Option String)
    (requestId : String) (q : Clients.Request) (entry : Drafts.AuditEntry) : Prop where
  can : principal.can "kill_query" = true
  known : cluster ∈ cfg.clusters
  named : Names (killTerms principal cluster queryId reason) entry
  method : q.method = "PUT"
  url : ∃ client, cfg.clients.lookup cluster = some client ∧ q.url = client.baseUrl ++ killPath queryId
  body : q.body = some ("Killed by TMS. actor=" ++ entry.actor ++ ", reason=" ++ entry.reason ++ ", request_id=" ++
    requestId).toUTF8

/-- nothing was sent and the call failed, or one request was sent and one record says how it ended -/
def KillEnds (cfg : KillConfig) (principal : Principal) (cluster queryId : String) (reason : Option String)
    (requestId : String) (x : Except Exn Killed) (t : List (Seen CallAct)) : Prop :=
  (requests (doneIn t) = [] ∧ ∀ k, x ≠ .ok k) ∨
  ∃ q entry, requests (doneIn t) = [q] ∧ recordsIn t = [entry] ∧
    Sent cfg principal cluster queryId reason requestId q entry ∧ (entry.outcome = .success ↔ ∃ k, x = .ok k)

theorem killEnds_refused {e : Exn} {t : List (Seen CallAct)} (h : requests (doneIn t) = []) :
    KillEnds cfg principal cluster queryId reason requestId (.error e) t := .inl ⟨h, nofun⟩

/-- an exception is raised as another one -/
theorem KillEnds.rethrow {e e' : Exn} {t : List (Seen CallAct)}
    (h : KillEnds cfg principal cluster queryId reason requestId (.error e) t) :
    KillEnds cfg principal cluster queryId reason requestId (.error e') t := by
  rcases h with ⟨hnone, -⟩ | ⟨q, entry, hq, hentry, hsent, houtcome⟩
  · exact .inl ⟨hnone, nofun⟩
  · exact .inr ⟨q, entry, hq, hentry, hsent, by simpa using houtcome⟩

theorem requests_done {es : List CallAct} {entry : Drafts.AuditEntry} :
    requests (doneIn (.asked true :: (es.map .did ++ [.recorded entry]))) = requests es := by
  change requests (doneIn (es.map .did ++ [.recorded entry])) = _
  rw [doneIn_append, doneIn_did]
  exact congrArg requests (List.append_nil es)

theorem records_done {es : List CallAct} {entry : Drafts.AuditEntry} :
    recordsIn (.asked true :: (es.map .did ++ [.recorded entry])) = [entry] := by
  change recordsIn (es.map .did ++ [.recorded entry]) = _
  rw [recordsIn_append, recordsIn_did]
  rfl

section Guard

variable {client : TrinoClient}

/-- the part under the guard -/
theorem guarded_kill (hcan : principal.can "kill_query" = true) (hknown : cluster ∈ cfg.clusters)
    (hclient : cfg.clients.lookup cluster = some client) : Adds seen (do
      audited principal (killTarget cluster queryId) reason (killBody client principal queryId reason requestId)
      pure (⟨true, requestId⟩ : Killed)) (KillEnds cfg principal cluster queryId reason requestId) := by
  have hbody : Adds seen (audited principal (killTarget cluster queryId) reason
      (killBody client principal queryId reason requestId)) _ :=
    adds_audited (does_embed (adds_killQuery client queryId
      (buildKillMessage principal.username (recordedReason reason) requestId)))
  have hsent : ∀ clean outcome message, normaliseReason (reason.getD "") = some clean →
      Sent cfg principal cluster queryId reason requestId
        (killRequest client queryId (buildKillMessage principal.username (recordedReason reason) requestId))
        (entryOf principal (killTarget cluster queryId) clean outcome message) := by
    intro clean outcome message hclean
    refine ⟨hcan, hknown, ⟨rfl, rfl, hclean, rfl⟩, rfl, ⟨client, hclient, rfl⟩, ?_⟩
    have hrecorded : recordedReason reason = clean := by rw [recordedReason, hclean, Option.getD_some]
    rw [hrecorded, buildKillMessage_recorded hclean]
    rfl
  refine adds_bind _ hbody ?_ ?_
  · rintro e t h
    cases h with
    | unreasoned => exact killEnds_refused rfl
    | down => exact killEnds_refused rfl
    | @failed clean _ es hclean h =>
      obtain ⟨_, _, n, hn, hreq, -⟩ := h
      obtain rfl | rfl : n = 0 ∨ n = 1 := by omega
      · exact killEnds_refused (requests_done.trans hreq)
      · refine .inr ⟨_, _, requests_done.trans hreq, records_done, hsent _ _ _ hclean, ?_⟩
        exact iff_of_false nofun nofun
  · rintro u t h
    cases h with
    | @done clean _ es hclean h =>
      obtain ⟨y, hy, n, hn, hreq, hok⟩ := h
      cases y with
      | error e => cases hy
      | ok u' =>
        obtain rfl : n = 1 := by have := hok u' rfl; omega
        refine adds_pure (.inr ⟨_, _, ?_, ?_, hsent _ .success none hclean, iff_of_true rfl ⟨_, rfl⟩⟩)
        · rw [List.append_nil]
          exact requests_done.trans hreq
        · rw [List.append_nil]
          exact records_done

end Guard

theorem adds_kill : Adds seen (killQuery cfg principal cluster queryId reason requestId)
    (KillEnds cfg principal cluster queryId reason requestId) := by
  refine adds_check ?_ fun e _ => killEnds_refused rfl
  intro hearlier
  have hknown : cluster ∈ cfg.clusters := by
    by_contra hnot
    rw [Writes.WriteOperation.earlier, if_neg hnot] at hearlier
    cases hearlier
  unfold Writes.requireCapability
  by_cases hcan : principal.can (Writes.WriteOperation.killQuery cluster queryId).capability = true
  · rw [if_pos hcan]
    change Adds seen (killThrough principal cluster queryId reason requestId (cfg.clients.lookup cluster)) _
    cases hclient : cfg.clients.lookup cluster with
    | none => exact adds_throw (killEnds_refused rfl)
    | some client =>
      refine adds_tryCatch _ (guarded_kill hcan hknown hclient) (fun _ _ h => h) fun e t h => adds_throw ?_
      rw [List.append_nil]
      exact h.rethrow
  · rw [if_neg hcan]
    exact fun _ => killEnds_refused rfl

/-- **One query.** A kill sends one request or none, and only for a caller who may, to a cluster that is configured. The request
names the query in one segment of its path, which no other query's name is quoted as; there is one record beside it, the
request's text is the record's actor and reason, and the record is of a success exactly if the call returned. -/
theorem kill_one {O S : Type} [Inhabited O] (H : O → (e : CallAct) → S → e.Answer × S) (os : List (Oracle O))
    (site : Site S) (cfg : KillConfig) (principal : Principal) (cluster queryId : String) (reason : Option String)
    (requestId : String) :
    let r := traced seen (handle H) os (killQuery cfg principal cluster queryId reason requestId) site
    KillEnds cfg principal cluster queryId reason requestId r.1 r.2.2 ∧
    (r.1, r.2.1) = Prog.run (handle H) os (killQuery cfg principal cluster queryId reason requestId) site ∧
    (∃ segment : List Char,
      (killPath queryId).toList.splitOn '/' = [[], "v1".toList, "query".toList, segment, "killed".toList] ∧
      unquote segment = Utf8.encode queryId.toList) ∧
    ∀ queryId', killPath queryId' = killPath queryId → queryId' = queryId := by
  exact ⟨traced_adds adds_kill, Prod.ext (traced_erase ..).1 (traced_erase ..).2, killPath_segments queryId,
    fun _ => killPath_injective⟩

end TrinoManagement.Kill
