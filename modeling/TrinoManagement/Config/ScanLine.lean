/-
A scan's line as text: the marker and the JSON that `json.dumps` prints after it, and what `parse_scan` makes of it when its
`json.loads` is the one that reads this JSON.

- `node_reads`: a value that can be read, with texts for its names, has its host, its role and its files in the report.
- `parseScan_marked`: the report of one marked line is that of the value its text is read as.
-/
import Mathlib.Tactic
import TrinoManagement.Config.ScanOutput
import TrinoManagement.Core.JsonText

namespace TrinoManagement.ScanLine

open TrinoManagement.ConfigScan (Unread marker payload)
open TrinoManagement.JsonText (Tree parse print)
open TrinoManagement.ScanOutput
open TrinoManagement.Text

/-! ## The values of a text -/

section Values

-- a number, from its literal
variable (number : List Char → ℤ ⊕ ℚ)

mutual

/-- the values of `json.loads`: of two fields of one key the later counts -/
def valueOf : Tree → Value
  | .null => .none
  | .bool b => .bool b
  | .num literal => (number literal.1).elim .int .float
  | .str s => .str s
  | .list items => .list (valuesOf items)
  | .dict fields => .dict (Dict.ofPairs (fieldsOf fields))

def valuesOf : List Tree → List Value
  | [] => []
  | t :: ts => valueOf t :: valuesOf ts

def fieldsOf : List (String × Tree) → List (String × Value)
  | [] => []
  | (key, t) :: fs => (key, valueOf t) :: fieldsOf fs

end

end Values

/-- a list of nothing but texts -/
def textsIn : List Value → Option (List String)
  | [] => some []
  | .str s :: rest => (textsIn rest).map (s :: ·)
  | _ => none

/-- what is taken from Python -/
structure Python where
  /-- `str.isalnum` of a character beyond ASCII -/
  alnum : Char → Bool
  /-- `int` or `float` of a literal -/
  number : List Char → ℤ ⊕ ℚ
  /-- a half of a surrogate pair by itself -/
  half : Fin 2048 → Char
  /-- the message of a JSONDecodeError -/
  message : List Char → String
  /-- `checksum` of a text -/
  checksum : String → String
  /-- `base64.b64decode(blob).decode("utf-8", "replace")`; `none` is a ValueError or a TypeError -/
  b64decode : Value → Option String
  /-- `sorted` of anything but a list of texts -/
  sortedOther : Value → Except String (List Value)

/-- `json.loads`, and `sorted` of texts -/
def Python.library (py : Python) : Library where
  loads text :=
    match parse py.half text.toList with
    | some t => .ok (valueOf py.number t)
    | none => .error (.unreadable (py.message text.toList))
  checksum := py.checksum
  b64decode := py.b64decode
  sorted v :=
    match v with
    | .list items =>
      match textsIn items with
      | some names => .ok ((ConfigScan.sorted names).map .str)
      | none => py.sortedOther (.list items)
    | v => py.sortedOther v

/-- the line a host's last task prints -/
def scanLine (t : Tree) : String := String.ofList (marker.toList ++ print t)

/-! ## One node -/

/-- `valid_names` is nothing, or texts -/
def Named (raw : Value) : Prop :=
  (raw.get "valid_names").truthy = true → ∃ names : List String, raw.get "valid_names" = .list (names.map .str)

/-- the fields of an object -/
def objectFields : Value → List (String × Value)
  | .dict fields => fields
  | _ => []

/-- what a report says of a node first -/
structure Identified (raw : Value) (report : NodeReport) : Prop where
  host : report.host = orElse (raw.get "host") "?"
  role : report.role = orElse (raw.get "role") "unknown"
  reachable : report.reachable = if raw.has "reachable" then (raw.get "reachable").truthy else true
  files : report.files.keys = (objectFields (raw.get "files")).map Prod.fst

section Nodes

variable {py : Python} {lib : Library} {raw : Value}

theorem textsIn_map (names : List String) : textsIn (names.map .str) = some names := by
  induction names with
  | nil => rfl
  | cons name names ih => rw [List.map_cons, textsIn, ih, Option.map_some]

theorem validNames_returns (h : Named raw) : ∃ names, validNames py.library raw = .ok names := by
  unfold validNames
  split_ifs with htruthy
  · obtain ⟨names, hnames⟩ := h htruthy
    refine ⟨(ConfigScan.sorted names).map .str, ?_⟩
    rw [hnames]
    simp [Python.library, textsIn_map, Except.mapError]
  · exact ⟨[], rfl⟩

theorem itemsOf_object {P : String → Value → Prop} {v : Value} (h : ObjectOf P v) : itemsOf v = .ok (objectFields v) := by
  unfold itemsOf
  split_ifs with htruthy
  · obtain ⟨fields, rfl, -⟩ := h htruthy
    rfl
  · cases v with
    | dict fields =>
      cases fields with
      | nil => rfl
      | cons _ _ => exact absurd rfl htruthy
    | _ => rfl

/-- going through the fields of an object keeps their keys -/
theorem mapM_keys {ε α β : Type} {f : String × α → Except ε β} {fields : List (String × α)} {records : List (String × β)}
    (h : fields.mapM (fun p => (f p).map (p.1, ·)) = .ok records) : records.map Prod.fst = fields.map Prod.fst := by
  induction fields generalizing records with
  | nil =>
    obtain rfl := Except.ok.inj h
    rfl
  | cons p fields ih =>
    rw [List.mapM_cons] at h
    obtain ⟨record, hrecord, h⟩ := bind_eq_ok.1 h
    obtain ⟨rest, hrest, h⟩ := bind_eq_ok.1 h
    obtain rfl := Except.ok.inj h
    obtain ⟨b, -, rfl⟩ := map_eq_ok.1 hrecord
    rw [List.map_cons, List.map_cons, ih hrest]

/-- the files that are read are those of the object -/
theorem readFields_keys {fields : Dict FileRecord × List (String × Value)} (hshaped : Shaped raw)
    (h : readFields lib raw = .ok fields) : fields.1.keys = (objectFields (raw.get "files")).map Prod.fst := by
  obtain ⟨entries, hentries, h⟩ := bind_eq_ok.1 h
  obtain ⟨items, hitems, h⟩ := bind_eq_ok.1 h
  obtain ⟨files, hfiles, h⟩ := bind_eq_ok.1 h
  obtain ⟨own, -, h⟩ := bind_eq_ok.1 h
  obtain rfl := Except.ok.inj h
  have hget : entries = raw.get "files" := by
    cases raw with
    | dict fields => exact (Except.ok.inj hentries).symm
    | _ => cases hentries
  rw [hget, itemsOf_object hshaped.2.1] at hitems
  obtain rfl := Except.ok.inj hitems
  exact mapM_keys hfiles

/-- **A value that can be read** has its host, role, reachability and files in the report. -/
theorem node_reads (hshaped : Shaped raw) (hnamed : Named raw) :
    ∃ report, node py.library raw = .ok report ∧ Identified raw report := by
  obtain ⟨fields, hfields⟩ := (@readFields_returns py.library raw).2 hshaped
  obtain ⟨names, hnames⟩ := @validNames_returns py raw hnamed
  unfold node
  rw [hfields, hnames]
  exact ⟨_, rfl, rfl, rfl, rfl, readFields_keys hshaped hfields⟩

/-! ## One line -/

theorem payload_marked (text : List Char) :
    payload (String.ofList (marker.toList ++ text)) = some (String.ofList (stripChars text)) := by
  have hhead : (marker.toList ++ text).tails.find? (fun rest => marker.toList.isPrefixOf rest) = some (marker.toList ++ text) := by
    have hprefix : marker.toList.isPrefixOf (marker.toList ++ text) = true :=
      List.isPrefixOf_iff_prefix.2 (List.prefix_append _ _)
    cases hcons : marker.toList ++ text with
    | nil => exact absurd hcons (by simp [marker])
    | cons c rest =>
      rw [hcons] at hprefix
      rw [List.tails_cons, List.find?_cons_of_pos hprefix]
  have hlength : marker.length = marker.toList.length := rfl
  rw [payload, String.toList_ofList, hhead, Option.map_some, hlength, List.drop_left, strip, String.toList_ofList]

/-- **One marked line** has the report of the value that its text is read as. -/
theorem parseScan_marked {line text : String} {t : Tree} {report : NodeReport} (hpayload : payload line = some text)
    (hparse : parse py.half text.toList = some t) (hnode : node py.library (valueOf py.number t) = .ok report) :
    parseScan py.library [line] = .ok [report] := by
  have hloads : py.library.loads text = .ok (valueOf py.number t) := by
    simp only [Python.library, hparse]
  rw [parseScan, hpayload]
  simp only [hloads, bind, Except.bind, hnode, parseScan, Except.map]

/-- a text that cannot be read has the report of an unreadable node -/
theorem parseScan_unread {line text : String} (hpayload : payload line = some text)
    (hparse : parse py.half text.toList = none) :
    parseScan py.library [line] = .ok [unreadNode (py.message text.toList)] := by
  have hloads : py.library.loads text = .error (.unreadable (py.message text.toList)) := by
    simp only [Python.library, hparse]
  rw [parseScan, hpayload]
  simp only [hloads, bind, Except.bind, parseScan, Except.map]

end Nodes

end TrinoManagement.ScanLine
