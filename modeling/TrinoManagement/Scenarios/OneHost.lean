/-
One host: where the requests of a statement go.

A page names the next one by an absolute URI, which the coordinator makes up. `_path_of` keeps its path and its query, "so
the request goes to the coordinator TMS is configured for, never to whatever host a response happened to name". The path is
put behind the coordinator's URL as it is, and one that does not begin with a slash may be taken for more of the host.
- `request_host_iff`: whose request it is, for every path.
- `rooted_of_authority`: a URI that has a host, whichever, leads to a path that is asked of the coordinator.
- `one_host`: so every request of every exchange goes there, except after a page that names its next one without a host.
- `host_named_by_page`: such a page, and a request that goes to the host in it.
-/
import Mathlib.Tactic
import TrinoManagement.Clients.Sql
import TrinoManagement.Core.Url
import TrinoManagement.Scenarios.WholeAnswer

namespace TrinoManagement.Sql

open TrinoManagement.Clients (Client)
open TrinoManagement.Url (HasAuthority Origin Rooted netloc_append pathQuery refusal rejoin rejoin_safe rooted_beyond rooted_rejoin)

section OneHost

variable {lib : Library} {client : Client} {origin : Origin}

theorem pathOf_str {uri path : String} (h : pathOf lib (.str uri) = .ok path) :
    ∃ p query, pathQuery lib.checkNetloc uri.toList = .ok (p, query) ∧ path.toList = rejoin p query := by
  unfold pathOf at h
  dsimp only at h
  cases hsplit : pathQuery lib.checkNetloc uri.toList with
  | error message =>
    rw [hsplit] at h
    cases h
  | ok parts =>
    obtain ⟨p, query⟩ := parts
    rw [hsplit] at h
    obtain rfl := Except.ok.inj h
    refine ⟨p, query, rfl, ?_⟩
    rw [rejoin, String.toList_append, String.toList_ofList]
    split_ifs
    · rfl
    · rw [String.toList_append, String.toList_ofList, String.toList_ofList]
      rfl

/-- the next page of a page is named by a text -/
theorem pathOf_text {uri : Value} {path : String} (h : pathOf lib uri = .ok path) : ∃ s, uri = .str s := by
  cases uri with
  | str s => exact ⟨s, rfl⟩
  | none => cases h
  | bool b => cases h
  | int n => cases h
  | float q => cases h
  | list items => cases h
  | dict fields => cases h

theorem path_safe {uri path : String} (h : pathOf lib (.str uri) = .ok path) : ∀ c ∈ path.toList, Url.isUnsafe c = false := by
  obtain ⟨p, query, hsplit, hpath⟩ := pathOf_str h
  rw [hpath]
  exact rejoin_safe hsplit

/-- whatever host it names -/
theorem rooted_of_authority {uri path : String} (h : pathOf lib (.str uri) = .ok path) (hauthority : HasAuthority uri.toList) :
    Rooted path.toList := by
  obtain ⟨p, query, hsplit, hpath⟩ := pathOf_str h
  rw [hpath]
  exact rooted_rejoin hsplit (rooted_beyond hauthority)

/-- the coordinator TMS is configured for -/
structure Configured (lib : Library) (client : Client) (origin : Origin) : Prop where
  url : client.baseUrl = String.ofList origin.url
  accepted : refusal lib.checkNetloc origin.authority = none

/-- the host of what a call asks the transport for -/
def hostAsked (lib : Library) (client : Client) (args : Client.Args) : Except String (List Char) :=
  Url.netloc lib.checkNetloc (client.baseUrl ++ args.path).toList

/-- **Whose request it is.** -/
theorem request_host_iff (h : Configured lib client origin) {args : Client.Args}
    (hsafe : ∀ c ∈ args.path.toList, Url.isUnsafe c = false) :
    hostAsked lib client args = .ok origin.authority ↔ Rooted args.path.toList := by
  rw [hostAsked, h.url, String.toList_append, String.toList_ofList]
  exact netloc_append h.accepted hsafe

theorem post_home (h : Configured lib client origin) (statement : String) :
    hostAsked lib client (postArgs statement) = .ok origin.authority := by
  rw [request_host_iff h]
  · change Rooted statementPath.toList
    decide
  · change ∀ c ∈ statementPath.toList, Url.isUnsafe c = false
    exact List.all_iff_forall_prop.1 (by decide)

end OneHost

/-- **One host.** In every exchange, each request goes to the coordinator; if not, then the page before it names the next one
without a host, and by a path that does not begin with a slash. -/
theorem one_host (lib : Library) (client : Client) (origin : Origin) (hconfigured : Configured lib client origin) (timeout : ℚ)
    (statement : String) (os : List Weather) (net : Clients.World) (before after : List Exchange) (x : Exchange)
    (hlog : (Prog.run (serve client) os (execute lib timeout statement (rounds timeout)) ⟨net, []⟩).2.log = before ++ x :: after) :
    hostAsked lib client x.args = .ok origin.authority ∨
    ∃ last page uri path, before.getLast? = some last ∧ Brings lib last page ∧ page.get "nextUri" = .str uri ∧
      x.args = getArgs path ∧ ¬ HasAuthority uri.toList ∧ ¬ Rooted path.toList ∧
      hostAsked lib client x.args ≠ .ok origin.authority := by
  have hrun : ∃ began, net.now ≤ began ∧ Ended lib statement timeout began
      (Prog.run (serve client) os (execute lib timeout statement (rounds timeout)) ⟨net, []⟩).1
      (Prog.run (serve client) os (execute lib timeout statement (rounds timeout)) ⟨net, []⟩).2 :=
    Prog.wp_run trivial (fun _ _ => trivial) (wp_execute lib client timeout statement net)
  obtain ⟨began, -, hended⟩ := hrun
  obtain ⟨hasked, -⟩ := hended.inOrder before x after hlog
  unfold Asked at hasked
  cases hlast : before.getLast? with
  | none =>
    rw [hlast] at hasked
    dsimp only at hasked
    rw [hasked]
    exact .inl (post_home hconfigured statement)
  | some last =>
    rw [hlast] at hasked
    obtain ⟨page, path, hbrings, -, -, hpath, hargs⟩ := hasked
    obtain ⟨uri, huri⟩ := pathOf_text hpath
    rw [huri] at hpath
    have hiff : hostAsked lib client x.args = .ok origin.authority ↔ Rooted path.toList := by
      rw [hargs]
      exact request_host_iff hconfigured (path_safe hpath)
    by_cases hrooted : Rooted path.toList
    · exact .inl (hiff.2 hrooted)
    · refine .inr ⟨last, page, uri, path, rfl, hbrings, huri, hargs, ?_, hrooted, fun hhome => hrooted (hiff.1 hhome)⟩
      exact fun hauthority => hrooted (rooted_of_authority hpath hauthority)

/-! ## Two coordinators -/

/-- Python on plain texts: JSON is read of the two texts below -/
def plainSql : Library where
  decode b := String.ofList (b.toList.map fun byte => Char.ofNat byte.toNat)
  loads
    | "away" => .ok (.dict [("id", .str "q1"), ("nextUri", .str "@other.example/v1/statement/q1/1")])
    | "more" => .ok (.dict [("id", .str "q1"), ("nextUri", .str "https://other.example/v1/statement/q1/1")])
    | "\x7b\x7d" => .ok (.dict [])
    | _ => .error "Expecting value"
  checkNetloc _ := none
  notText _ := "AttributeError"
  str
    | .str s => s
    | _ => ""
  seconds _ := "30"

def coordinator : Origin where
  scheme := "https".toList
  authority := "trino.example:8443".toList
  letter := ⟨'h', rfl, rfl⟩
  schemeChars := by decide
  authorityChars := List.all_iff_forall_prop.1 (by decide)

def sqlClient : Client where
  baseUrl := "https://trino.example:8443"
  user := "tms-svc"
  password := ""
  verifyTls := true
  connectTimeout := 5
  readTimeout := 10
  b64 := id

/-- a first page, and an empty one -/
def answersWith (first : String) : List Weather :=
  [⟨0, []⟩, ⟨0, []⟩, ⟨0, [⟨0, .transportError ""⟩, ⟨0, .response ⟨200, first.toUTF8⟩⟩]⟩, ⟨0, []⟩, ⟨0, []⟩,
    ⟨0, [⟨0, .transportError ""⟩, ⟨0, .response ⟨200, "".toUTF8⟩⟩]⟩]

def quiet : Clients.World := ⟨0, ⟨3, by decide, 30, 0, 0, .closed⟩, []⟩

def asked (first : String) : List Exchange :=
  (Prog.run (serve sqlClient) (answersWith first) (execute plainSql 30 "SELECT 1" (rounds 30)) ⟨quiet, []⟩).2.log

theorem configured : Configured plainSql sqlClient coordinator where
  url := by decide +kernel
  accepted := by decide +kernel

/-- a page of another host's URI, and the request for it -/
theorem one_host_more : ∃ x y, asked "more" = [x] ++ y :: [] ∧ y.args.path = "/v1/statement/q1/1" ∧
    hostAsked plainSql sqlClient y.args = .ok coordinator.authority := by
  have hpaths : (asked "more").map (fun x => x.args.path) = ["/v1/statement", "/v1/statement/q1/1"] := by decide +kernel
  obtain ⟨x, rest, hlog, hx, hrest⟩ := List.map_eq_cons_iff.1 hpaths
  obtain ⟨y, rest, rfl, hy, hnil⟩ := List.map_eq_cons_iff.1 hrest
  obtain rfl := List.map_eq_nil_iff.1 hnil
  refine ⟨x, y, hlog, hy, ?_⟩
  rcases one_host plainSql sqlClient coordinator configured 30 "SELECT 1" (answersWith "more") quiet [x] [] y hlog with
    hhome | ⟨last, page, uri, path, -, -, -, hargs, -, hrooted, -⟩
  · exact hhome
  · rw [hargs] at hy
    exact absurd (show Rooted path.toList by rw [show path = "/v1/statement/q1/1" from hy]; decide) hrooted

/-- **A page that names a host where a path should be.** The request for the next page goes there, with the credentials. -/
theorem host_named_by_page : (asked "away").map (fun x => (hostAsked plainSql sqlClient x.args).toOption.map Url.hostPart) =
    [some "trino.example".toList, some "other.example".toList] := by
  decide +kernel

end TrinoManagement.Sql
