/-
Which node is missing, asked of the coordinator: `identify` of `tms/fleet/discovery.py`.

It runs one statement and holds the inventory against the rows. An error of the exchange becomes a message and empty lists;
what is no `TrinoClientError`, such as a reply that is no page at all, goes on.
- `identify`: the statement, then the comparison.
-/
import Mathlib.Tactic
import TrinoManagement.Clients.Sql
import TrinoManagement.Fleet.Discovery

namespace TrinoManagement.Discovery

open TrinoManagement.Clients (containsText)
open TrinoManagement.Sql (Failure SqlM query)

def nodesQuery : String := "SELECT node_id, http_uri, node_version, coordinator, state FROM system.runtime.nodes"

/-- what `identify` returns; without an answer both lists are empty -/
inductive LookUp where
  | available (d : Discovered)
  | unavailable (error : String) (advice : Option String)
deriving DecidableEq

/-- `str(exc)` of a `TrinoClientError` -/
def clientMessage : Failure → Option String
  | .queryFailed message _ _ | .timedOut message | .protocol message => some message
  | .raised (.circuitOpen message) => some message
  | .raised (.client e) => some e.message
  | .raised (.other _ _) | .python _ | .unfinished => none

/-- `_advice_for` -/
def adviceFor (text : String) : Option String :=
  if containsText "PERMISSION_DENIED" text ∨ containsText "Cannot execute query" text then
    some ("The TMS account cannot execute queries. D-012 grants this deliberately - add `execute` to the `tms-svc` entry in OPA's " ++
      "`queries` rules, above the catch-all.")
  else none

/-- a row as `compare` reads it: by texts -/
def asValue (row : List (Value × Value)) : Value :=
  .dict (row.filterMap fun f =>
    match f.1 with
    | .str key => some (key, f.2)
    | _ => none)

/-- `except TrinoClientError` -/
def caught {α : Type} (e : Failure) : SqlM (Except String α) :=
  match clientMessage e with
  | some text => pure (.error text)
  | none => throw e

section Identify

variable (sql : Sql.Library) (lib : Nodes.Library) (addressFirst : String → String → Bool) (timeout : ℚ)

/-- the rows, or the message of the error -/
def fetchNodes : SqlM (Except String (List (List (Value × Value)))) :=
  tryCatch
    (do
      let rows ← query sql timeout nodesQuery
      pure (.ok rows))
    caught

def identify (inventory : List Value) : SqlM LookUp := do
  match ← fetchNodes sql timeout with
  | .error text => pure (.unavailable text (adviceFor text))
  | .ok rows =>
    match compare lib addressFirst inventory (rows.map asValue) with
    | .ok d => pure (.available d)
    | .error _ => throw (.python "ValueError")

end Identify

end TrinoManagement.Discovery
