/-
The same scan over whatever JSON a playbook prints: `_decode`, `_node` and `parse_scan` of `tms/ops/configscan.py`, and
`scan` and `_scan_now` of `tms/ops/configservice.py`, with every field of any type.

`Config.Scan` has these for objects whose fields have the types the playbook gives them. Here a field of another type is
read as Python reads it, and raises what Python raises.

- `Shaped`: the objects `_node` can read. `node_raises`: on any other it raises an exception that `parse_scan` lets through.
- `parseScan_returns`: it returns exactly if every marked line can be read, with one report for each.
- `node_typed`: on a typed object it is the `node` of `Config.Scan`; `shaped_typed`: so it can be read; `parseScan_typed`: and an
  output of typed objects has the reports that `Config.Scan` has.
-/
import Mathlib.Tactic
import TrinoManagement.Config.ScanService
import TrinoManagement.Core.Audit
import TrinoManagement.Core.Value
import TrinoManagement.Ops.Service

namespace TrinoManagement.ScanOutput

open TrinoManagement.Audit (Principal manageHealth)
open TrinoManagement.ConfigScan (Unread contentFiles marker noLineMessage parseProperties payload redact)
open TrinoManagement.Playbook (RunResult failure)
open TrinoManagement.Service (Exn)

/-- what is taken from Python -/
structure Library where
  /-- `json.loads` -/
  loads : String → Except Unread Value
  /-- `checksum` of a text -/
  checksum : String → String
  /-- `base64.b64decode(blob).decode("utf-8", "replace")`; `none` is a ValueError or a TypeError -/
  b64decode : Value → Option String
  /-- `sorted` of a value that is not empty, or its TypeError -/
  sorted : Value → Except String (List Value)

/-! ## One node -/

/-- what a scan keeps of one file -/
structure FileRecord where
  present : Bool
  sha256 : Value
  contentCollected : Bool
  properties : Option (Dict String)
deriving DecidableEq

structure NodeReport where
  host : Value
  role : Value
  reachable : Bool
  error : Value
  files : Dict FileRecord
  properties : Dict Value
  validNames : List Value
deriving DecidableEq

/-- an attribute the value's type does not have -/
def noAttribute {α : Type} (v : Value) (name : String) : Except PyError α :=
  .error ⟨"AttributeError", "'" ++ v.typeName ++ "' object has no attribute '" ++ name ++ "'"⟩

/-- `(v or {}).items()` -/
def itemsOf (v : Value) : Except PyError (List (String × Value)) :=
  if v.truthy then
    match v with
    | .dict fields => .ok fields
    | v => noAttribute v "items"
  else .ok []

/-- `v or default` -/
def orElse (v : Value) (default : String) : Value := if v.truthy then v else .str default

section Node

variable (lib : Library)

/-- `_decode` -/
def decode (entry : Value) : Value :=
  if entry.get "content" ≠ .none then entry.get "content"
  else if (entry.get "content_b64").truthy then
    match lib.b64decode (entry.get "content_b64") with
    | some text => .str text
    | none => .none
  else .none

/-- `checksum` -/
def checksumOf (content : Value) : Except PyError Value :=
  match content with
  | .none => .ok .none
  | .str text => .ok (.str (lib.checksum text))
  | v => noAttribute v "encode"

/-- `redact(parse_properties(content))` -/
def propertiesOf (content : Value) : Except PyError (Dict String) :=
  if content.truthy then
    match content with
    | .str text => .ok (redact (parseProperties text))
    | v => noAttribute v "splitlines"
  else .ok []

/-- the checksum the playbook gave, or else one of the content -/
def sha256Of (given content : Value) : Except PyError Value :=
  if given.truthy then .ok given else checksumOf lib content

def contentCollected (path : String) (content : Value) : Bool := decide (path ∈ contentFiles) && decide (content ≠ .none)

/-- the properties of a file whose content is collected -/
def collectedProperties (path : String) (content : Value) : Except PyError (Option (Dict String)) :=
  if contentCollected path content then (propertiesOf content).map some else .ok none

/-- one record of `files`; an entry that is no dict has nothing -/
def fileRecord (path : String) (entry : Value) : Except PyError FileRecord := do
  let content := if entry.isDict then decode lib entry else .none
  let given := if entry.isDict then entry.get "sha256" else .none
  let sha256 ← sha256Of lib given content
  let properties ← collectedProperties path content
  pure ⟨entry.isDict && (entry.get "present").truthy, sha256, contentCollected path content, properties⟩

/-- `redact` of values of any type -/
def redactValues (properties : List (String × Value)) : List (String × Value) :=
  properties.map fun p => (p.1, if ConfigScan.secretKey p.1 then .str ConfigScan.redacted else p.2)

/-- what `_node` reads of the files, and the properties beside them -/
def readFields (raw : Value) : Except PyError (Dict FileRecord × List (String × Value)) := do
  let entries ← itemsOf (← raw.callGet "files")
  let files ← entries.mapM fun p => (fileRecord lib p.1 p.2).map (p.1, ·)
  let own ← itemsOf (raw.get "properties")
  pure (files, own)

/-- the properties of the file, and over them those beside it -/
def effective (files : Dict FileRecord) (own : List (String × Value)) : Dict Value :=
  let collected := ((files.lookup "etc/config.properties").bind (·.properties)).getD []
  (redactValues own).foldl (fun d p => d.set p.1 p.2) (collected.map fun p => (p.1, Value.str p.2))

/-- `sorted(raw.get("valid_names") or [])`; the TypeError of names that have no order is caught -/
def validNames (raw : Value) : Except Unread (List Value) :=
  if (raw.get "valid_names").truthy then (lib.sorted (raw.get "valid_names")).mapError Unread.unreadable else .ok []

/-- `_node` -/
def node (raw : Value) : Except Unread NodeReport := do
  let fields ← (readFields lib raw).mapError fun e => Unread.raises e.className e.message
  let names ← validNames lib raw
  pure
    { host := orElse (raw.get "host") "?"
      role := orElse (raw.get "role") "unknown"
      reachable := if raw.has "reachable" then (raw.get "reachable").truthy else true
      error := raw.get "error"
      files := fields.1
      properties := effective fields.1 fields.2
      validNames := names }

/-- the report of a line that will not parse -/
def unreadNode (message : String) : NodeReport :=
  { host := .str "?", role := .str "unknown", reachable := false
    error := .str ("TMS could not read this node's scan output: " ++ message)
    files := [], properties := [], validNames := [] }

/-- `parse_scan`: only a ValueError and a TypeError are caught -/
def parseScan : List String → Except (String × String) (List NodeReport)
  | [] => .ok []
  | line :: lines =>
    match payload line with
    | none => parseScan lines
    | some text =>
      match lib.loads text >>= node lib with
      | .error (.raises c m) => .error (c, m)
      | .error (.unreadable m) => (parseScan lines).map (unreadNode m :: ·)
      | .ok report => (parseScan lines).map (report :: ·)

end Node

/-! ## The service -/

structure Stored where
  nodes : List NodeReport
  error : Option String
  exitCode : Option ℤ
deriving DecidableEq

/-- `_running`, and the snapshots stored -/
structure Scans where
  snapshots : String → Option Stored
  running : String → Bool

structure ScanConfig where
  clusters : List String
  inventories : Dict String

/-- `scan`, up to its thread -/
def scan (cfg : ScanConfig) (principal : Principal) (cluster : String) (s : Scans) : Except Exn Scans :=
  if !principal.can manageHealth then
    .error (.forbidden ("Running a configuration scan is restricted to administrators - " ++
      "it connects to every node in the cluster."))
  else if cluster ∉ cfg.clusters then .error (.notFound ("Unknown cluster: " ++ cluster))
  else if (cfg.inventories.lookup cluster).getD "" = "" then
    .error (.invalidRequest ("No inventory is configured for " ++ cluster ++ ", so TMS does not know which " ++
      "hosts belong to it."))
  else if s.running cluster then .error (.invalidRequest ("A scan of " ++ cluster ++ " is already running."))
  else .ok { s with running := Function.update s.running cluster true }

/-- `_scan_now`; what `parse_scan` raises ends the thread there -/
def scanNow (lib : Library) (saves : Bool) (cluster : String) (result : Except String RunResult) (lines : List String)
    (s : Scans) : Scans :=
  match parseScan lib lines with
  | .error _ => s
  | .ok nodes =>
    let error := failure result
    let stored : Stored :=
      { nodes := nodes
        error := if nodes = [] ∧ error.getD "" = "" then some noLineMessage else error
        exitCode := result.toOption.bind (·.rc) }
    { snapshots := if saves then Function.update s.snapshots cluster (some stored) else s.snapshots
      running := Function.update s.running cluster false }

/-! ## What can be read -/

/-- an entry of `files`: its content, if given, is a text, unless a checksum is given and nobody looks at the content -/
def EntryShaped (path : String) (entry : Value) : Prop :=
  entry.isDict = true → entry.get "content" = .none ∨ (∃ text, entry.get "content" = .str text) ∨
    (entry.get "sha256").truthy = true ∧ (path ∈ contentFiles → (entry.get "content").truthy = false)

/-- nothing, or an object whose fields all meet `P` -/
def ObjectOf (P : String → Value → Prop) (v : Value) : Prop :=
  v.truthy = true → ∃ fields, v = .dict fields ∧ ∀ p ∈ fields, P p.1 p.2

/-- the values `_node` can read -/
def Shaped (raw : Value) : Prop :=
  raw.isDict = true ∧ ObjectOf EntryShaped (raw.get "files") ∧ ObjectOf (fun _ _ => True) (raw.get "properties")

/-- what follows the marker is no JSON, or a value that can be read -/
def Readable (lib : Library) (text : String) : Prop :=
  match lib.loads text with
  | .error (.unreadable _) => True
  | .error (.raises ..) => False
  | .ok v => Shaped v

variable {lib : Library}

theorem itemsOf_returns (v : Value) : (∃ fields, itemsOf v = .ok fields) ↔ ObjectOf (fun _ _ => True) v := by
  unfold itemsOf ObjectOf
  cases h : v.truthy with
  | false => simp
  | true => cases v <;> simp [noAttribute]

theorem checksumOf_returns (content : Value) : (∃ sum, checksumOf lib content = .ok sum) ↔
    content = .none ∨ ∃ text, content = .str text := by
  cases content <;> simp [checksumOf, noAttribute]

theorem propertiesOf_returns (content : Value) : (∃ properties, propertiesOf content = .ok properties) ↔
    content.truthy = false ∨ ∃ text, content = .str text := by
  unfold propertiesOf
  cases h : content.truthy with
  | false => simp
  | true => cases content <;> simp [noAttribute]

/-- what is decoded is a text, unless another content is given -/
theorem decode_eq (entry : Value) : decode lib entry = entry.get "content" ∨
    entry.get "content" = .none ∧ (decode lib entry = .none ∨ ∃ text, decode lib entry = .str text) := by
  unfold decode
  by_cases hcontent : entry.get "content" = .none
  · rw [if_neg (not_not.2 hcontent)]
    refine .inr ⟨hcontent, ?_⟩
    split_ifs
    · split
      · exact .inr ⟨_, rfl⟩
      · exact .inl rfl
    · exact .inl rfl
  · rw [if_pos hcontent]
    exact .inl rfl

theorem sha256Of_returns (given content : Value) : (∃ sum, sha256Of lib given content = .ok sum) ↔
    given.truthy = true ∨ content = .none ∨ ∃ text, content = .str text := by
  rw [← @checksumOf_returns lib, sha256Of]
  split_ifs with h
  · simp [h]
  · simp [h]

theorem collectedProperties_returns (path : String) (content : Value) :
    (∃ properties, collectedProperties path content = .ok properties) ↔
      (path ∈ contentFiles → content = .none ∨ content.truthy = false ∨ ∃ text, content = .str text) := by
  unfold collectedProperties contentCollected
  split_ifs with h
  · obtain ⟨hpath, hne⟩ : path ∈ contentFiles ∧ content ≠ .none := by simpa using h
    rw [← propertiesOf_returns]
    simp only [hpath, hne, true_imp_iff, false_or, map_eq_ok]
    constructor
    · rintro ⟨_, properties, h, -⟩
      exact ⟨properties, h⟩
    · rintro ⟨properties, h⟩
      exact ⟨_, properties, h, rfl⟩
  · refine iff_of_true ⟨none, rfl⟩ fun hpath => .inl ?_
    by_contra hne
    exact h (by simpa using ⟨hpath, hne⟩)

theorem fileRecord_returns (path : String) (entry : Value) :
    (∃ record, fileRecord lib path entry = .ok record) ↔ EntryShaped path entry := by
  have hsplit : (∃ record, fileRecord lib path entry = .ok record) ↔
      (∃ sum, sha256Of lib (if entry.isDict then entry.get "sha256" else .none)
        (if entry.isDict then decode lib entry else .none) = .ok sum) ∧
      ∃ properties, collectedProperties path (if entry.isDict then decode lib entry else .none) = .ok properties := by
    constructor
    · rintro ⟨record, h⟩
      obtain ⟨sum, hsum, h⟩ := bind_eq_ok.1 h
      obtain ⟨properties, hproperties, -⟩ := bind_eq_ok.1 h
      exact ⟨⟨sum, hsum⟩, ⟨properties, hproperties⟩⟩
    · rintro ⟨⟨sum, hsum⟩, ⟨properties, hproperties⟩⟩
      exact ⟨_, bind_eq_ok.2 ⟨sum, hsum, bind_eq_ok.2 ⟨properties, hproperties, rfl⟩⟩⟩
  rw [hsplit, sha256Of_returns, collectedProperties_returns, EntryShaped]
  cases hdict : entry.isDict with
  | false => simp
  | true =>
    simp only [if_true, true_imp_iff]
    rcases @decode_eq lib entry with heq | ⟨hnone, htext⟩
    · rw [heq]
      by_cases hcontent : entry.get "content" = .none ∨ ∃ text, entry.get "content" = .str text
      · exact iff_of_true ⟨.inr hcontent, fun _ => hcontent.imp_right .inr⟩ (by tauto)
      · constructor
        · rintro ⟨hgiven, hlooked⟩
          exact .inr (.inr ⟨hgiven.resolve_right hcontent, fun hpath => by have := hlooked hpath; tauto⟩)
        · rintro (hnone | htext | ⟨hgiven, hlooked⟩)
          · exact absurd (.inl hnone) hcontent
          · exact absurd (.inr htext) hcontent
          · exact ⟨.inl hgiven, fun hpath => .inr (.inl (hlooked hpath))⟩
    · simp only [hnone, true_or, iff_true]
      exact ⟨.inr htext, fun _ => htext.imp_right .inr⟩

theorem itemsOf_eq_ok {v : Value} {fields : List (String × Value)} (h : itemsOf v = .ok fields)
    (P : String → Value → Prop) : ObjectOf P v ↔ ∀ p ∈ fields, P p.1 p.2 := by
  unfold itemsOf at h
  unfold ObjectOf
  cases ht : v.truthy with
  | false =>
    rw [ht] at h
    obtain rfl := Except.ok.inj h
    simp
  | true =>
    rw [ht, if_pos rfl] at h
    cases v with
    | dict fields' =>
      obtain rfl := Except.ok.inj h
      simp
    | _ => cases h

theorem readFields_returns (raw : Value) : (∃ fields, readFields lib raw = .ok fields) ↔ Shaped raw := by
  have hentry : ∀ p : String × Value, (∃ r, (fileRecord lib p.1 p.2).map (p.1, ·) = .ok r) ↔ EntryShaped p.1 p.2 := by
    intro p
    rw [← @fileRecord_returns lib]
    cases fileRecord lib p.1 p.2 <;> simp [Except.map]
  have hget : ∀ v, raw.callGet "files" = .ok v ↔ raw.isDict = true ∧ v = raw.get "files" := by
    intro v
    cases raw <;> simp [Value.callGet, Value.isDict, eq_comm]
  constructor
  · rintro ⟨fields, h⟩
    obtain ⟨v, hv, h⟩ := bind_eq_ok.1 h
    obtain ⟨hdict, rfl⟩ := (hget v).1 hv
    obtain ⟨entries, hentries, h⟩ := bind_eq_ok.1 h
    obtain ⟨files, hfiles, h⟩ := bind_eq_ok.1 h
    obtain ⟨own, hown, -⟩ := bind_eq_ok.1 h
    refine ⟨hdict, (itemsOf_eq_ok hentries _).2 fun p hp => ?_, (itemsOf_returns _).1 ⟨own, hown⟩⟩
    exact (hentry p).1 ((mapM_returns _ _).1 ⟨files, hfiles⟩ p hp)
  · rintro ⟨hdict, hfiles, hown⟩
    have hobject : ObjectOf (fun _ _ => True) (raw.get "files") := fun ht => by
      obtain ⟨fields, hfields, -⟩ := hfiles ht
      exact ⟨fields, hfields, fun _ _ => trivial⟩
    obtain ⟨entries, hentries⟩ := (itemsOf_returns _).2 hobject
    obtain ⟨files, hmap⟩ := (mapM_returns _ entries).2 fun p hp => (hentry p).2 ((itemsOf_eq_ok hentries _).1 hfiles p hp)
    obtain ⟨own, hown⟩ := (itemsOf_returns _).2 hown
    exact ⟨_, bind_eq_ok.2 ⟨_, (hget _).2 ⟨hdict, rfl⟩, bind_eq_ok.2 ⟨entries, hentries, bind_eq_ok.2 ⟨files, hmap,
      bind_eq_ok.2 ⟨own, hown, rfl⟩⟩⟩⟩⟩

theorem validNames_caught (raw : Value) (c m : String) : validNames lib raw ≠ .error (.raises c m) := by
  unfold validNames
  split_ifs
  · cases lib.sorted (raw.get "valid_names") with
    | error m' => nofun
    | ok names => nofun
  · nofun

/-- **What `_node` raises** on anything that is not shaped as it reads it, nobody catches; names that cannot be sorted are
caught. -/
theorem node_raises (raw : Value) : (∃ c m, node lib raw = .error (.raises c m)) ↔ ¬Shaped raw := by
  rw [← @readFields_returns lib]
  unfold node
  cases hfields : readFields lib raw with
  | error e => simp [Except.mapError, bind, Except.bind]
  | ok fields =>
    refine iff_of_false ?_ (by simp)
    rintro ⟨c, m, h⟩
    have hnames := @validNames_caught lib raw c m
    simp only [Except.mapError, bind, Except.bind] at h
    cases hvalid : validNames lib raw with
    | error u =>
      rw [hvalid] at h hnames
      have hu : u = .raises c m := Except.error.inj h
      exact hnames (by rw [hu])
    | ok names =>
      rw [hvalid] at h
      cases h

/-! ## A whole output -/

theorem loads_node_raises (text : String) : (∃ c m, lib.loads text >>= node lib = .error (.raises c m)) ↔ ¬Readable lib text := by
  unfold Readable
  cases hloads : lib.loads text with
  | error u => cases u <;> simp [bind, Except.bind]
  | ok v => exact node_raises v

/-- **`parse_scan` returns** exactly if every marked line can be read, with one report for each. -/
theorem parseScan_returns (lines : List String) :
    (∃ nodes, parseScan lib lines = .ok nodes) ↔ ∀ line ∈ lines, ∀ text ∈ payload line, Readable lib text := by
  induction lines with
  | nil => simp [parseScan]
  | cons line rest ih =>
    rw [List.forall_mem_cons, ← ih, parseScan]
    cases payload line with
    | none => simp
    | some text =>
      have hraises := @loads_node_raises lib text
      simp only [Option.mem_def, Option.some.injEq, forall_eq']
      cases hnode : lib.loads text >>= node lib with
      | error u =>
        cases u with
        | raises c m =>
          refine iff_of_false (by simp) fun h => ?_
          exact hraises.1 ⟨c, m, hnode⟩ h.1
        | unreadable m =>
          have hread : Readable lib text := by
            by_contra hnot
            obtain ⟨c, m', h⟩ := hraises.2 hnot
            rw [hnode] at h
            cases h
          simp only [hread, true_and, map_eq_ok]
          constructor
          · rintro ⟨_, nodes, h, -⟩
            exact ⟨nodes, h⟩
          · rintro ⟨nodes, h⟩
            exact ⟨_, nodes, h, rfl⟩
      | ok report =>
        have hread : Readable lib text := by
          by_contra hnot
          obtain ⟨c, m', h⟩ := hraises.2 hnot
          rw [hnode] at h
          cases h
        simp only [hread, true_and, map_eq_ok]
        constructor
        · rintro ⟨_, nodes, h, -⟩
          exact ⟨nodes, h⟩
        · rintro ⟨nodes, h⟩
          exact ⟨_, nodes, h, rfl⟩

theorem parseScan_length {lines : List String} {nodes : List NodeReport} (h : parseScan lib lines = .ok nodes) :
    nodes.length = (lines.filterMap payload).length := by
  induction lines generalizing nodes with
  | nil =>
    obtain rfl := Except.ok.inj h
    rfl
  | cons line rest ih =>
    rw [parseScan] at h
    cases hpayload : payload line with
    | none =>
      rw [hpayload] at h
      rw [List.filterMap_cons_none hpayload]
      exact ih h
    | some text =>
      rw [hpayload] at h
      rw [List.filterMap_cons_some hpayload, List.length_cons]
      dsimp only at h
      split at h
      · cases h
      · obtain ⟨others, hothers, rfl⟩ := map_eq_ok.1 h
        rw [List.length_cons, ih hothers]
      · obtain ⟨others, hothers, rfl⟩ := map_eq_ok.1 h
        rw [List.length_cons, ih hothers]

/-! ## Typed objects -/

section Typed

open TrinoManagement.ConfigScan (Node Python RawFile RawNode)

/-- a text, or null -/
def ofText (text : Option String) : Value := text.elim .none .str

def fileValue (entry : RawFile) : Value :=
  .dict [("present", .bool entry.present), ("content", ofText entry.content), ("content_b64", ofText entry.contentB64),
    ("sha256", ofText entry.sha256)]

/-- the JSON of a typed object -/
def rawValue (raw : RawNode) : Value :=
  .dict ([("host", ofText raw.host), ("role", ofText raw.role), ("error", ofText raw.error),
    ("files", .dict (raw.files.map fun p => (p.1, fileValue p.2))),
    ("properties", .dict (raw.properties.map fun p => (p.1, .str p.2))),
    ("valid_names", .list (raw.validNames.map .str))] ++ (raw.reachable.map fun b => ("reachable", Value.bool b)).toList)

def recordReport (r : ConfigScan.FileRecord) : FileRecord := ⟨r.present, ofText r.sha256, r.contentCollected, r.properties⟩

def report (n : Node) : NodeReport where
  host := .str n.host
  role := .str n.role
  reachable := n.reachable
  error := ofText n.error
  files := n.files.map fun p => (p.1, recordReport p.2)
  properties := n.properties.map fun p => (p.1, .str p.2)
  validNames := n.validNames.map .str

/-- the two libraries agree on texts -/
structure Agrees (lib : Library) (py : Python) : Prop where
  checksum : ∀ text, lib.checksum text = py.checksum text
  b64decode : ∀ blob, lib.b64decode (.str blob) = py.b64decode blob
  sorted : ∀ names : List String, lib.sorted (.list (names.map .str)) = .ok ((ConfigScan.sorted names).map .str)

variable {py : Python}

theorem truthy_ofText (text : Option String) : (ofText text).truthy = decide (text.getD "" ≠ "") := by
  cases text with
  | none => rfl
  | some s =>
    by_cases h : s = ""
    · simp [ofText, Value.truthy, h]
    · simp [ofText, Value.truthy, h]

theorem orElse_ofText (text : Option String) (default : String) :
    orElse (ofText text) default = .str (ConfigScan.orElse text default) := by
  rw [orElse, ConfigScan.orElse, truthy_ofText]
  by_cases h : text.getD "" = ""
  · simp [h]
  · cases text with
    | none => simp at h
    | some s => simp_all [ofText]

theorem decode_typed (h : Agrees lib py) (entry : RawFile) : decode lib (fileValue entry) = ofText (ConfigScan.decode py entry) := by
  have hcontent : (fileValue entry).get "content" = ofText entry.content := rfl
  have hblob : (fileValue entry).get "content_b64" = ofText entry.contentB64 := rfl
  unfold decode ConfigScan.decode
  rw [hcontent, hblob, truthy_ofText]
  cases entry.content with
  | some content => simp [ofText]
  | none =>
    cases entry.contentB64 with
    | none => simp [ofText]
    | some blob =>
      by_cases hempty : blob = ""
      · simp [ofText, hempty]
      · simp only [ofText, Option.elim_none, Option.elim_some, h.b64decode, Option.getD_some, hempty]
        cases py.b64decode blob <;> simp [hempty]

theorem fileRecord_typed (h : Agrees lib py) (path : String) (entry : RawFile) :
    fileRecord lib path (fileValue entry) = .ok (recordReport (ConfigScan.fileRecord py path entry)) := by
  have hdict : (fileValue entry).isDict = true := rfl
  have hgiven : (fileValue entry).get "sha256" = ofText entry.sha256 := rfl
  have hpresent : ((fileValue entry).get "present").truthy = entry.present := rfl
  unfold fileRecord ConfigScan.fileRecord recordReport
  simp only [hdict, hgiven, hpresent, if_true, decode_typed h]
  generalize ConfigScan.decode py entry = content
  have hsum : sha256Of lib (ofText entry.sha256) (ofText content) =
      .ok (ofText (if entry.sha256.getD "" ≠ "" then entry.sha256 else content.map py.checksum)) := by
    rw [sha256Of, truthy_ofText]
    by_cases hempty : entry.sha256.getD "" = ""
    · cases content <;> simp [hempty, checksumOf, ofText, h.checksum]
    · simp [hempty]
  have hcollected : contentCollected path (ofText content) = (decide (path ∈ contentFiles) && content.isSome) := by
    cases content <;> simp [contentCollected, ofText]
  have hproperties : collectedProperties path (ofText content) =
      .ok (if decide (path ∈ contentFiles) && content.isSome then content.map fun text => redact (parseProperties text) else none) := by
    rw [collectedProperties, hcollected]
    cases content with
    | none => simp
    | some text =>
      have htext : propertiesOf (ofText (some text)) = .ok (redact (parseProperties text)) := by
        by_cases hempty : text = ""
        · have hnothing : redact (parseProperties "") = [] := by decide
          simp [propertiesOf, ofText, Value.truthy, hempty, hnothing]
        · simp [propertiesOf, ofText, Value.truthy, hempty]
      rw [htext]
      split_ifs <;> rfl
  rw [hsum, hproperties, hcollected]
  rfl

theorem redactValues_map (properties : Dict String) :
    redactValues (properties.map fun p => (p.1, .str p.2)) = (redact properties).map fun p => (p.1, .str p.2) := by
  simp only [redactValues, redact, List.map_map]
  refine List.map_congr_left fun p _ => ?_
  by_cases hsecret : ConfigScan.secretKey p.1 = true
  · simp [hsecret]
  · simp [hsecret]

theorem effective_typed (files : Dict ConfigScan.FileRecord) (own : Dict String) :
    effective (files.map fun p => (p.1, recordReport p.2)) (own.map fun p => (p.1, .str p.2)) =
      ((redact own).foldl (fun d p => d.set p.1 p.2)
        (((files.lookup "etc/config.properties").bind (·.properties)).getD [])).map fun p => (p.1, .str p.2) := by
  rw [effective, redactValues_map, ← Dict.foldl_set_map, Dict.lookup_map recordReport]
  cases files.lookup "etc/config.properties" <;> rfl

/-- **On typed objects** the two readings of a node agree. -/
theorem node_typed (h : Agrees lib py) (raw : RawNode) : node lib (rawValue raw) = .ok (report (ConfigScan.node py raw)) := by
  have hhost : (rawValue raw).get "host" = ofText raw.host := rfl
  have hrole : (rawValue raw).get "role" = ofText raw.role := rfl
  have herror : (rawValue raw).get "error" = ofText raw.error := rfl
  have hfiles : (rawValue raw).callGet "files" = .ok (.dict (raw.files.map fun p => (p.1, fileValue p.2))) := rfl
  have hown : (rawValue raw).get "properties" = .dict (raw.properties.map fun p => (p.1, .str p.2)) := rfl
  have hnames : (rawValue raw).get "valid_names" = .list (raw.validNames.map .str) := rfl
  have hreachable : (if (rawValue raw).has "reachable" then ((rawValue raw).get "reachable").truthy else true) =
      raw.reachable.getD true := by
    cases hr : raw.reachable with
    | none => simp [rawValue, hr, Value.has]
    | some b =>
      have hget : (rawValue raw).get "reachable" = .bool b := by
        rw [rawValue, hr]
        rfl
      have hhas : (rawValue raw).has "reachable" = true := by
        rw [rawValue, hr]
        rfl
      rw [hhas, hget]
      rfl
  have hitems : ∀ fields : List (String × Value), itemsOf (.dict fields) = .ok fields := by
    intro fields
    cases fields <;> rfl
  have hrecords : ∀ files : Dict RawFile, (files.map fun p => (p.1, fileValue p.2)).mapM
      (fun p => (fileRecord lib p.1 p.2).map (p.1, ·)) =
        .ok (files.map fun p => (p.1, recordReport (ConfigScan.fileRecord py p.1 p.2))) := by
    intro files
    induction files with
    | nil => rfl
    | cons p files ih =>
      rw [List.map_cons, List.mapM_cons, ih]
      dsimp only
      rw [fileRecord_typed h]
      rfl
  have hfields : readFields lib (rawValue raw) =
      .ok (raw.files.map fun p => (p.1, recordReport (ConfigScan.fileRecord py p.1 p.2)),
        raw.properties.map fun p => (p.1, .str p.2)) := by
    unfold readFields
    rw [hfiles, hown]
    simp only [bind, Except.bind, hitems, hrecords]
    rfl
  have hvalid : validNames lib (rawValue raw) = .ok ((ConfigScan.sorted raw.validNames).map .str) := by
    rw [validNames, hnames]
    cases hempty : raw.validNames with
    | nil => simp [Value.truthy, ConfigScan.sorted]
    | cons name names =>
      rw [h.sorted]
      simp [Value.truthy, Except.mapError]
  have hmap : (raw.files.map fun p => (p.1, recordReport (ConfigScan.fileRecord py p.1 p.2))) =
      (raw.files.map fun p => (p.1, ConfigScan.fileRecord py p.1 p.2)).map fun p => (p.1, recordReport p.2) := by
    simp [List.map_map, Function.comp_def]
  unfold node
  rw [hfields, hvalid, hhost, hrole, herror, hreachable, orElse_ofText, orElse_ofText]
  simp only [Except.mapError, bind, Except.bind, pure, Except.pure]
  rw [hmap, effective_typed]
  rfl

/-- a typed object can be read -/
theorem shaped_typed (h : Agrees lib py) (raw : RawNode) : Shaped (rawValue raw) := by
  by_contra hnot
  obtain ⟨c, m, hraises⟩ := (@node_raises lib (rawValue raw)).2 hnot
  rw [node_typed h] at hraises
  cases hraises

/-- **Over typed outputs** the two readings agree, in what they report and in what they raise. -/
theorem parseScan_typed (h : Agrees lib py) {lines : List String}
    (hloads : ∀ line ∈ lines, ∀ text ∈ payload line, lib.loads text = (py.loads text).map rawValue) :
    parseScan lib lines = (ConfigScan.parseScan py lines).map fun nodes => nodes.map report := by
  induction lines with
  | nil => rfl
  | cons line rest ih =>
    obtain ⟨hline, hrest⟩ := List.forall_mem_cons.1 hloads
    rw [parseScan, ConfigScan.parseScan]
    cases hpayload : payload line with
    | none => exact ih hrest
    | some text =>
      dsimp only
      rw [hline text hpayload, ih hrest]
      cases py.loads text with
      | error u =>
        cases u with
        | raises c m => rfl
        | unreadable m => cases ConfigScan.parseScan py rest <;> rfl
      | ok raw =>
        simp only [Except.map, bind, Except.bind, node_typed h]
        cases ConfigScan.parseScan py rest <;> rfl

end Typed

end TrinoManagement.ScanOutput
