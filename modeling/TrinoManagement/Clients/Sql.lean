/-
One statement and its rows: `SqlClient` of `tms/clients/sql.py`.

Trino answers a statement with a page, and a page that has a `nextUri` is not the last one. Pages are JSON objects, read as
Python reads them: a part that is missing or falsy counts as empty, and one of the wrong type raises.
- `execute`: the exchange, as a program over the clock and the calls of the client; `n` bounds the pages it looks at.
- `serve`: what these do. A call is a whole `_call` of the client, with its breaker and its transport; each is noted with
  the number of requests that the transport got of it.
- `serve_cases`: all that an effect may do to the exchange so far.
-/
import Mathlib.Tactic
import TrinoManagement.Clients.Circuit
import TrinoManagement.Core.Prog
import TrinoManagement.Core.Url
import TrinoManagement.Core.Value

namespace TrinoManagement.Sql

open TrinoManagement.Clients (Client Event HttpResponse Raised)
open TrinoManagement.Prog (demonic wp wp_mono)

/-- Python's own: what is read in bytes, in JSON and in a URL, and how values are written -/
structure Library where
  /-- `decode("utf-8", errors="replace")` -/
  decode : ByteArray → String
  /-- `json.loads`, or the text of its ValueError -/
  loads : String → Except String Value
  /-- `_checknetloc` and the check of a bracketed address -/
  checkNetloc : List Char → Option String
  /-- the class of what `urlsplit` raises on what is not a text -/
  notText : Value → String
  str : Value → String
  /-- `"{:g}".format` -/
  seconds : ℚ → String

/-- `QueryFailed`, the error of an exchange that takes too long, `TrinoProtocolError`, what `_call` raises, and any other
exception by its class; `unfinished` is the model's own -/
inductive Failure where
  | queryFailed (message : String) (queryId : Value) (elapsedMs : ℤ)
  | timedOut (message : String)
  | protocol (message : String)
  | raised (r : Raised)
  | python (className : String)
  | unfinished
deriving DecidableEq

/-! ## Pages -/

/-- `iter(v)`, as a list -/
def iterate : Value → Except Failure (List Value)
  | .list items => .ok items
  | .dict fields => .ok (fields.map fun f => .str f.1)
  | .str s => .ok (s.toList.map fun c => .str c.toString)
  | _ => .error (.python "TypeError")

/-- `v or []`, gone through -/
def listed (v : Value) : Except Failure (List Value) := if v.truthy then iterate v else .ok []

/-- `c.get("name")`, which only a dict has -/
def columnName (column : Value) : Except Failure Value :=
  if column.isDict then .ok (column.get "name") else .error (.python "AttributeError")

/-- `[c.get("name") for c in payload.get("columns") or []]` -/
def columnNames (page : Value) : Except Failure (List Value) := do
  let columns ← listed (page.get "columns")
  columns.mapM columnName

/-- what the pages so far come to -/
structure Collected where
  columns : List Value
  rows : List Value
  stats : Value
deriving DecidableEq

/-- the middle of the loop: the first columns that are not empty stay, rows add up, and the last stats stay -/
def absorb (c : Collected) (page : Value) : Except Failure Collected := do
  let columns ← (if c.columns ≠ [] then .ok c.columns else columnNames page)
  let rows ← listed (page.get "data")
  pure ⟨columns, c.rows ++ rows, if (page.get "stats").truthy then page.get "stats" else c.stats⟩

/-- `==` of Python for what a dict may have as keys -/
def sameKey (a b : Value) : Bool :=
  match a.numeric, b.numeric with
  | some x, some y => x == y
  | none, none => a == b
  | _, _ => false

/-- `d[key] = value`: the first of two equal keys stays -/
def setItem : List (Value × Value) → Value → Value → List (Value × Value)
  | [], key, value => [(key, value)]
  | (k, v) :: rest, key, value => if sameKey k key then (k, value) :: rest else (k, v) :: setItem rest key value

/-- a list or a dict is no key -/
def hashable : Value → Bool
  | .list _ | .dict _ => false
  | _ => true

/-- `dict(zip(columns, row))` -/
def rowDict (columns : List Value) (row : Value) : Except Failure (List (Value × Value)) := do
  let cells ← iterate row
  (columns.zip cells).foldlM (fun d p => if hashable p.1 then pure (setItem d p.1 p.2) else throw (.python "TypeError")) []

/-- `text.strip(": ")` -/
def stripColons (text : String) : String :=
  let edge (c : Char) : Bool := c == ':' || c == ' '
  String.ofList ((text.toList.dropWhile edge).rdropWhile edge)

section Pages

variable (lib : Library)

/-- `_payload`: an empty body counts as an empty object -/
def readPayload (response : HttpResponse) (path : String) : Except Failure Value :=
  let text := lib.decode response.body
  match lib.loads (if text = "" then "\x7b\x7d" else text) with
  | .error message => .error (.protocol (path ++ ": not JSON (" ++ message ++ ")"))
  | .ok page => if page.isDict then .ok page else .error (.protocol (path ++ ": expected an object"))

/-- `_path_of` -/
def pathOf (uri : Value) : Except Failure String :=
  match uri with
  | .str s =>
    match Url.pathQuery lib.checkNetloc s.toList with
    | .error _ => .error (.python "ValueError")
    | .ok (path, query) => .ok (String.ofList path ++ if query = [] then "" else "?" ++ String.ofList query)
  | v => .error (.python (lib.notText v))

/-- `a or b or "error"` -/
def errorName (error : Value) : Value :=
  if (error.get "errorName").truthy then error.get "errorName"
  else if (error.get "errorCode").truthy then error.get "errorCode"
  else .str "error"

/-- `_error_text` -/
def errorText (error : Value) : Except Failure String :=
  if error.isDict then
    let message := if (error.get "message").truthy then error.get "message" else .str ""
    .ok (stripColons (lib.str (errorName error) ++ ": " ++ lib.str message))
  else .error (.python "AttributeError")

end Pages

/-! ## The exchange -/

inductive Act where
  /-- `time.monotonic()` -/
  | monotonic
  | sleep (seconds : ℚ)
  /-- `_call` of the client -/
  | call (args : Client.Args)

@[reducible] def Act.Answer : Act → Type
  | .monotonic => ℚ
  | .sleep _ => Unit
  | .call _ => Except Raised HttpResponse

abbrev SqlM := Prog Act Act.Answer Failure

def perform (e : Act) : SqlM (Act.Answer e) := Prog.perform e

/-- what is raised goes on -/
def ofExcept {α : Type} : Except Failure α → SqlM α
  | .ok a => pure a
  | .error e => throw e

def statementPath : String := "/v1/statement"

/-- `POLL_INTERVAL_SECONDS` -/
def pollInterval : ℚ := 1 / 20

/-- what `_post` asks the client for -/
def postArgs (statement : String) : Client.Args := ⟨"POST", statementPath, some statement.toUTF8, 0, none⟩

/-- what `_get` asks it for -/
def getArgs (path : String) : Client.Args := ⟨"GET", path, none, 0, none⟩

/-- what `execute` returns -/
structure Result where
  rows : List (List (Value × Value))
  queryId : Value
  stats : Value
  elapsedMs : ℤ
deriving DecidableEq

/-- `_ms_since` -/
def msSince (started now : ℚ) : ℤ := truncate ((now - started) * 1000)

section Exchange

variable (lib : Library) (timeout : ℚ)

/-- a call, and the page it brings -/
def ask (args : Client.Args) : SqlM Value := do
  match ← perform (.call args) with
  | .error r => throw (.raised r)
  | .ok response => ofExcept (readPayload lib response args.path)

/-- the page that `_get` brings -/
def get (nextUri : Value) : SqlM Value := do
  let path ← ofExcept (pathOf lib nextUri)
  ask lib (getArgs path)

def lateMessage : String :=
  "the query did not finish within " ++ lib.seconds timeout ++
    "s and TMS stopped waiting; it may still be running on the coordinator"

/-- `while True`, with a bound on its rounds -/
def follow (started deadline : ℚ) (queryId : Value) : ℕ → Collected → Value → SqlM Result
  | 0, _, _ => throw .unfinished
  | n + 1, c, page =>
    if (page.get "error").truthy then do
      let text ← ofExcept (errorText lib (page.get "error"))
      let now ← perform .monotonic
      throw (.queryFailed text queryId (msSince started now))
    else do
      let c ← ofExcept (absorb c page)
      if (page.get "nextUri").truthy then do
        let now ← perform .monotonic
        if deadline < now then throw (.timedOut (lateMessage lib timeout))
        else do
          perform (.sleep pollInterval)
          let next ← get lib (page.get "nextUri")
          follow started deadline queryId n c next
      else do
        let rows ← ofExcept (c.rows.mapM (rowDict c.columns))
        let now ← perform .monotonic
        pure ⟨rows, queryId, c.stats, msSince started now⟩

/-- `execute`, which looks at `n` pages at most -/
def execute (statement : String) (n : ℕ) : SqlM Result := do
  let now ← perform .monotonic
  let started ← perform .monotonic
  let page ← ask lib (postArgs statement)
  follow lib timeout started (now + timeout) (page.get "id") n ⟨[], [], .dict []⟩ page

/-- as many pages as there is time for, and the two that are looked at however late it is -/
def rounds : ℕ := ⌊timeout / pollInterval⌋₊ + 2

/-- `query` -/
def query (statement : String) : SqlM (List (List (Value × Value))) := do
  let result ← execute lib timeout statement (rounds timeout)
  pure result.rows

end Exchange

/-! ## What the effects do -/

/-- one call: what was asked for, how it ended, and how many requests were sent for it -/
structure Exchange where
  args : Client.Args
  answer : Except Raised HttpResponse
  requests : ℕ

structure World where
  net : Clients.World
  log : List Exchange

/-- how long an effect takes, and what meets the attempts of a call -/
structure Weather where
  elapsed : ℚ≥0
  attempts : List Clients.Oracle

instance : Inhabited Weather := ⟨⟨0, []⟩⟩

def isRequest : Event → Bool
  | .sent _ => true
  | .opened _ => false

/-- the requests among the events from some point on -/
def sentSince (n : ℕ) (events : List Event) : ℕ := (events.drop n).countP isRequest

def serve (client : Client) (o : Weather) (e : Act) (w : World) : Act.Answer e × World :=
  match e with
  | .monotonic => ((w.net.pass o.elapsed).now, { w with net := w.net.pass o.elapsed })
  | .sleep seconds => ((), { w with net := { w.net.pass o.elapsed with now := w.net.now + seconds + o.elapsed } })
  | .call args =>
    let r := Prog.run Clients.serve o.attempts (client.trinoCall args true) w.net
    (r.1, ⟨r.2, w.log ++ [⟨args, r.1, sentSince w.net.events.length r.2.events⟩]⟩)

end TrinoManagement.Sql
