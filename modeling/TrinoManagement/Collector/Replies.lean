/-
What the collector reads of a coordinator's replies, for any JSON in them: the reads of `tms/clients/trino.py`.

A request fails with a `TrinoClientError`, which every poll catches, or its reply is decoded. The decoder may raise on a text that
is nested too deeply, and so may what is done with a reply of another shape than expected; that is `Uncaught`.
- `getMbean_ok`: when an MBean's reply raises nothing else.
- `lookup_attributesOf`: of several attributes of one name the last one counts.
-/
import Mathlib.Tactic
import TrinoManagement.Collector.Poller
import TrinoManagement.Core.Decoded

namespace TrinoManagement.Ticks

open TrinoManagement.Collector (ClientError)

/-! ## Replies -/

/-- why there is nothing to read -/
inductive Failure where
  | client (e : ClientError)
  | raises (e : Uncaught)
deriving DecidableEq, Repr

/-- what `_call` and `_json` give -/
abbrev Reply := Except Failure Json

/-- `TrinoProtocolError` -/
def protocolError (message : String) : Failure :=
  .client ⟨"TrinoProtocolError", message, "The response shape was not what we expect. Check whether Trino was upgraded."⟩

/-- `get_server_info` -/
def getServerInfo (reply : Reply) : Reply :=
  match reply with
  | .error e => .error e
  | .ok info => if info.isDict then .ok info else .error (protocolError "/v1/info: expected an object")

def hexDigit (n : ℕ) : Char := "0123456789ABCDEF".toList.getD n '0'

/-- what `urllib.parse.quote` makes of a byte -/
def quoteByte (b : UInt8) : List Char :=
  let c := Char.ofNat b.toNat
  if c.isAlphanum || c == '_' || c == '.' || c == '-' || c == '~' then [c]
  else ['%', hexDigit (b.toNat / 16), hexDigit (b.toNat % 16)]

/-- `urllib.parse.quote(name, safe="")` of a name that UTF-8 can have -/
def quote (name : String) : String := String.ofList ((name.toList.flatMap String.utf8EncodeChar).flatMap quoteByte)

abbrev Attributes := List (PyText × Json)

section Replies

variable (str : Json → String)

/-- `str(v)`; other values than texts are printed without lone surrogates -/
def pyStr : Json → PyText
  | .str s => s
  | v => PyText.ofString (str v)

/-- `attributes[name] = value` -/
def setAttribute : Attributes → PyText → Json → Attributes
  | [], name, value => [(name, value)]
  | (k, v) :: rest, name, value => if k = name then (k, value) :: rest else (k, v) :: setAttribute rest name value

/-- the name of an attribute, if it is a dict with one -/
def nameOf (item : Json) : Option PyText :=
  match item.get "name" with
  | .null => none
  | name => some (pyStr str name)

/-- the attributes of an MBean by name -/
def attributesOf (items : List Json) : Attributes :=
  items.foldl (fun attributes item =>
    match nameOf str item with
    | none => attributes
    | some name => setAttribute attributes name (item.get "value")) []

/-- `get_mbean` -/
def getMbean (name : String) (reply : Reply) : Except Failure Attributes :=
  match reply with
  | .error e => .error e
  | .ok payload =>
    if payload.isDict = false then .error (protocolError ("/v1/jmx/mbean/" ++ quote name ++ ": expected an object"))
    else
      match (payload.get "attributes").items with
      | .error e => .error (.raises e)
      | .ok items => .ok (attributesOf str items)

/-- `list_mbean_names` -/
def listMbeanNames (reply : Reply) : Except Failure (List PyText) :=
  match reply with
  | .error e => .error e
  | .ok (.list entries) => .ok (entries.filterMap fun entry =>
      if entry.isDict && (entry.get "objectName").truthy then some (pyStr str (entry.get "objectName")) else none)
  | .ok _ => .error (protocolError "/v1/jmx/mbean: expected a list")

/-- `list_queries`: the entries that are dicts, and the size of the reply -/
def listQueries (reply : Except Failure (Json × ℕ)) : Except Failure (List Json × ℕ) :=
  match reply with
  | .error e => .error e
  | .ok (.list entries, bytes) => .ok (entries.filter Json.isDict, bytes)
  | .ok _ => .error (protocolError "/v1/query: expected a list")

/-- nothing but what is caught: a client's error, or a reply that is no dict or has attributes that can be gone through -/
def Readable : Reply → Prop
  | .error (.client _) => True
  | .error (.raises _) => False
  | .ok payload => payload.isDict = true → (payload.get "attributes").Iterable

variable {str}

theorem lookup_setAttribute (attributes : Attributes) (name key : PyText) (value : Json) :
    (setAttribute attributes name value).lookup key = if key = name then some value else attributes.lookup key := by
  induction attributes with
  | nil =>
    rw [setAttribute, List.lookup_cons, List.lookup_nil]
    by_cases hkey : key = name
    · simp [hkey]
    · simp [hkey, beq_eq_false_iff_ne.2 hkey]
  | cons a attributes ih =>
    obtain ⟨k, v⟩ := a
    rw [setAttribute]
    by_cases hk : k = name
    · subst hk
      by_cases hkey : key = k
      · simp [hkey]
      · simp [hkey, List.lookup_cons, beq_eq_false_iff_ne.2 hkey]
    · rw [if_neg hk, List.lookup_cons, List.lookup_cons, ih]
      by_cases hkey : key = k
      · subst hkey
        simp [hk]
      · simp [beq_eq_false_iff_ne.2 hkey]

/-- of several attributes of one name the last one counts -/
theorem lookup_attributesOf (items : List Json) (key : PyText) : (attributesOf str items).lookup key =
    (items.reverse.find? fun item => decide (nameOf str item = some key)).map (·.get "value") := by
  induction items using List.reverseRecOn with
  | nil => rfl
  | append_singleton items item ih =>
    rw [List.reverse_append, List.reverse_singleton, List.singleton_append, List.find?_cons]
    rw [attributesOf, List.foldl_append, List.foldl_cons, List.foldl_nil]
    cases hname : nameOf str item with
    | none =>
      simp only [reduceCtorEq, decide_false]
      exact ih
    | some name =>
      dsimp only
      rw [lookup_setAttribute]
      by_cases hkey : key = name
      · simp [hkey]
      · simp only [if_neg hkey, Option.some.injEq, Ne.symm hkey, decide_false]
        exact ih

theorem getMbean_ok {name : String} {reply : Reply} :
    (∀ e, getMbean str name reply ≠ .error (.raises e)) ↔ Readable reply := by
  cases reply with
  | error failure =>
    cases failure with
    | client e => simp [getMbean, Readable]
    | raises e => simp [getMbean, Readable]
  | ok payload =>
    unfold getMbean Readable
    dsimp only
    by_cases hdict : payload.isDict = true
    · rw [if_neg (by simp [hdict]), ← Json.items_ok]
      cases (payload.get "attributes").items with
      | error e => simp [hdict]
      | ok items => simp [hdict]
    · rw [if_pos (by simpa using hdict)]
      simp [hdict, protocolError]

theorem listMbeanNames_raises {registry : Reply} {e : Uncaught} :
    listMbeanNames str registry = .error (.raises e) ↔ registry = .error (.raises e) := by
  unfold listMbeanNames
  cases registry with
  | error failure => simp
  | ok payload => cases payload <;> simp [protocolError]

theorem listQueries_raises {reply : Except Failure (Json × ℕ)} {e : Uncaught} :
    listQueries reply = .error (.raises e) ↔ reply = .error (.raises e) := by
  unfold listQueries
  cases reply with
  | error failure => simp
  | ok x =>
    obtain ⟨payload, bytes⟩ := x
    cases payload <;> simp [protocolError]

theorem listQueries_eq_ok {reply : Except Failure (Json × ℕ)} {raws : List Json} {bytes : ℕ} :
    listQueries reply = .ok (raws, bytes) ↔ ∃ entries, reply = .ok (.list entries, bytes) ∧ entries.filter Json.isDict = raws := by
  unfold listQueries
  cases reply with
  | error failure => simp
  | ok x =>
    obtain ⟨payload, bytes'⟩ := x
    cases payload with
    | list entries => simp [and_comm, eq_comm]
    | _ => simp

theorem getMbean_eq_ok {name : String} {reply : Reply} {attributes : Attributes} :
    getMbean str name reply = .ok attributes ↔ ∃ payload items, reply = .ok payload ∧ payload.isDict = true ∧
      (payload.get "attributes").items = .ok items ∧ attributesOf str items = attributes := by
  cases reply with
  | error e => simp [getMbean]
  | ok payload =>
    unfold getMbean
    dsimp only
    by_cases hdict : payload.isDict = true
    · rw [if_neg (by simp [hdict])]
      cases hitems : (payload.get "attributes").items with
      | error e => simp [hitems]
      | ok items => simp [hdict, hitems]
    · rw [if_pos (by simpa using hdict)]
      simp [hdict]

end Replies

end TrinoManagement.Ticks
