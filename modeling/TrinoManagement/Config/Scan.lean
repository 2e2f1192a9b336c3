/-
What is on each node, and where the nodes disagree: `tms/ops/configscan.py`.

A playbook prints one tagged JSON line a host. `parseScan` reads those lines, `compare` asks whether nodes of the same
role agree, and `sharedNames` is what a deployment checks a typo against.

- `Python`: what is taken from Python and not defined here, the JSON decoder, the hash and base64.
- `mem_sharedNames`: a shared name is one every node with a list of names lists.
-/
import Mathlib.Data.List.Sort
import Mathlib.Data.String.Basic
import Mathlib.Tactic
import TrinoManagement.Config.Secrets
import TrinoManagement.Core.Dict
import TrinoManagement.Core.Lines

namespace TrinoManagement.ConfigScan

open TrinoManagement.Secrets TrinoManagement.Text

/-- the playbook prefixes its one JSON line a host with this -/
def marker : String := "TMS-CONFIG-SCAN "

/-- the files whose content is collected; everything else is checksum only -/
def contentFiles : List String := ["etc/config.properties", "etc/jvm.config", "etc/log.properties"]

/-- never deployed as one file: `node.id` must differ per node -/
def perNodeFiles : List String := ["etc/node.properties"]

/-- `SECRET_KEY` -/
def secretKey (key : String) : Bool :=
  search (secretPattern ["password", "secret", "credential", "token"]) key.toList

def redacted : String := "[REDACTED]"

/-- drop anything whose key reads like a credential -/
def redact (properties : Dict String) : Dict String :=
  properties.map fun (k, v) => (k, if secretKey k then redacted else v)

/-- one line of a properties file -/
def property (line : List Char) : Option (String × String) :=
  let line := stripChars line
  if line.isEmpty || line.head? == some '#' || line.head? == some '!' then none
  else if '=' ∉ line then none
  else
    let key := line.takeWhile (· != '=')
    let value := (line.dropWhile (· != '=')).tail
    some (String.ofList (stripChars key), String.ofList (stripChars value))

/-- a Java properties file, as far as Trino uses them -/
def parseProperties (text : String) : Dict String := Dict.ofPairs (contents property text.toList)

/-! ## What a host printed -/

/-- one entry of `files` -/
structure RawFile where
  present : Bool
  content : Option String
  contentB64 : Option String
  sha256 : Option String
deriving DecidableEq, Repr

/-- the object of one tagged line; `none` is a key that is not there, or null -/
structure RawNode where
  host : Option String
  role : Option String
  /-- its truth value, if the key is there -/
  reachable : Option Bool
  error : Option String
  files : Dict RawFile
  properties : Dict String
  validNames : List String
deriving DecidableEq, Repr

/-- what `json.loads` and the reads of `_node` raise on other text: a ValueError or a TypeError, which is caught, or
anything else -/
inductive Unread where
  | unreadable (message : String)
  | raises (className message : String)
deriving DecidableEq, Repr

/-- what is taken from Python -/
structure Python where
  /-- `json.loads`, of an object whose fields have the types above -/
  loads : String → Except Unread RawNode
  /-- `checksum` of a text -/
  checksum : String → String
  /-- `base64.b64decode(blob).decode("utf-8", "replace")`; `none` is a ValueError -/
  b64decode : String → Option String

/-- what a scan keeps of one file -/
structure FileRecord where
  present : Bool
  sha256 : Option String
  contentCollected : Bool
  properties : Option (Dict String)
deriving DecidableEq, Repr

/-- one node of a scan -/
structure Node where
  host : String
  role : String
  reachable : Bool
  error : Option String
  files : Dict FileRecord
  properties : Dict String
  validNames : List String
deriving DecidableEq, Repr

/-- `x or default` for a text -/
def orElse (text : Option String) (default : String) : String := if text.getD "" ≠ "" then text.getD "" else default

/-- `sorted` -/
def sorted (l : List String) : List String := l.insertionSort (· ≤ ·)

/-- `sorted(set)` -/
def sortedSet (l : List String) : List String := sorted l.dedup

section Parse

variable (py : Python)

/-- `_decode` -/
def decode (entry : RawFile) : Option String :=
  match entry.content with
  | some content => some content
  | none => if entry.contentB64.getD "" = "" then none else py.b64decode (entry.contentB64.getD "")

/-- one record of `files` -/
def fileRecord (path : String) (entry : RawFile) : FileRecord :=
  let content := decode py entry
  let collected := decide (path ∈ contentFiles) && content.isSome
  { present := entry.present
    sha256 := if entry.sha256.getD "" ≠ "" then entry.sha256 else content.map py.checksum
    contentCollected := collected
    properties := if collected then content.map fun text => redact (parseProperties text) else none }

/-- `_node` -/
def node (raw : RawNode) : Node :=
  let files := raw.files.map fun (path, entry) => (path, fileRecord py path entry)
  let effective := ((files.lookup "etc/config.properties").bind (·.properties)).getD []
  { host := orElse raw.host "?"
    role := orElse raw.role "unknown"
    reachable := raw.reachable.getD true
    error := raw.error
    files := files
    properties := (redact raw.properties).foldl (fun d p => d.set p.1 p.2) effective
    validNames := sorted raw.validNames }

/-- the node of a line that will not parse -/
def unreadNode (message : String) : Node :=
  { host := "?", role := "unknown", reachable := false
    error := some ("TMS could not read this node's scan output: " ++ message)
    files := [], properties := [], validNames := [] }

/-- what follows the marker in a line that has it -/
def payload (line : String) : Option String :=
  (line.toList.tails.find? fun rest => marker.toList.isPrefixOf rest).map fun rest =>
    strip (String.ofList (rest.drop marker.length))

/-- `parse_scan`: a line that will not parse is reported as an error rather than dropped -/
def parseScan : List String → Except (String × String) (List Node)
  | [] => .ok []
  | line :: lines =>
    match payload line with
    | none => parseScan lines
    | some text =>
      match py.loads text with
      | .error (.raises c m) => .error (c, m)
      | .error (.unreadable m) => (parseScan lines).map (unreadNode m :: ·)
      | .ok raw => (parseScan lines).map (node py raw :: ·)

end Parse

/-! ## Where nodes disagree -/

structure Finding where
  kind : String
  role : String
  subject : String
  detail : String
  hosts : Dict String
  expected : Option Bool
deriving DecidableEq, Repr

/-- `n["reachable"] and not n.get("error")` -/
def Node.read (n : Node) : Bool := n.reachable && n.error.getD "" == ""

/-- the different values of a dict -/
def distinct {α : Type} [DecidableEq α] (d : Dict α) : List α := (d.map Prod.snd).dedup

/-- what a node has of a file, if it is there -/
def fileOf (path : String) (n : Node) : Option String :=
  match n.files.lookup path with
  | some entry => if entry.present then entry.sha256 else none
  | none => none

def fileFinding (role : String) (peers : List Node) (path : String) : Option Finding :=
  let byHost := Dict.ofPairs (peers.map fun n => (n.host, fileOf path n))
  if (distinct byHost).length < 2 then none
  else
    let missing := (byHost.filter fun p => p.2 == none).map Prod.fst
    some
      { kind := if missing ≠ [] then "missing_file" else "file_differs"
        role := role
        subject := path
        detail := if missing ≠ [] then String.intercalate ", " (sorted missing) ++ " does not have this file."
          else "The file differs between nodes of the same role."
        hosts := byHost.map fun (h, v) => (h, orElse v "absent")
        expected := some (decide (path ∈ perNodeFiles)) }

/-- `_file_findings` -/
def fileFindings (role : String) (peers : List Node) : List Finding :=
  (sortedSet (peers.flatMap fun n => n.files.map Prod.fst)).filterMap (fileFinding role peers)

def propertyFinding (role : String) (peers : List Node) (name : String) : Option Finding :=
  let byHost := Dict.ofPairs (peers.map fun n => (n.host, n.properties.lookup name))
  if (distinct byHost).length < 2 then none
  else
    some
      { kind := "value_differs"
        role := role
        subject := name
        detail := "Nodes of the same role are running different values."
        hosts := byHost.map fun (h, v) => (h, v.getD "not set")
        expected := some false }

/-- `_property_findings` -/
def propertyFindings (role : String) (peers : List Node) : List Finding :=
  (sortedSet (peers.flatMap fun n => n.properties.map Prod.fst)).filterMap (propertyFinding role peers)

/-- `_shared_names`: the intersection of the lists that are there -/
def sharedNames (nodes : List Node) : List String :=
  match (nodes.map (·.validNames)).filter fun names => !names.isEmpty with
  | [] => []
  | first :: others => sortedSet (others.foldl (fun shared other => shared.filter (· ∈ other)) first)

structure Comparison where
  nodes : List Node
  findings : List Finding
  agree : Bool
  validNames : List String
  roles : List String
deriving DecidableEq, Repr

def unreachableFinding (unreachable : List Node) : Finding :=
  { kind := "unreachable"
    role := "-"
    subject := String.intercalate ", " (unreachable.map (·.host))
    detail := "TMS could not read the configuration of " ++ toString unreachable.length ++ " node(s). What the others " ++
      "agree on says nothing about these."
    hosts := Dict.ofPairs (unreachable.map fun n => (n.host, orElse n.error "unreachable"))
    expected := none }

/-- `compare`: within a role, never across -/
def compare (nodes : List Node) (ignoreMissingNodes : Bool) : Comparison :=
  let reachable := nodes.filter Node.read
  let unreachable := nodes.filter fun n => !n.read
  let byRole := (sortedSet (reachable.map (·.role))).flatMap fun role =>
    let peers := reachable.filter (·.role == role)
    if peers.length < 2 then [] else fileFindings role peers ++ propertyFindings role peers
  let findings := byRole ++
    if unreachable ≠ [] ∧ ignoreMissingNodes = false then [unreachableFinding unreachable] else []
  { nodes := nodes
    findings := findings
    agree := findings.isEmpty
    validNames := sharedNames reachable
    roles := sortedSet (nodes.map (·.role)) }

/-! ## Shared names -/

theorem mem_sortedSet {l : List String} {name : String} : name ∈ sortedSet l ↔ name ∈ l := by
  simp [sortedSet, sorted]

theorem mem_foldl_filter {name : String} (others : List (List String)) (shared : List String) :
    name ∈ others.foldl (fun shared other => shared.filter (· ∈ other)) shared ↔
      name ∈ shared ∧ ∀ other ∈ others, name ∈ other := by
  induction others generalizing shared with
  | nil => simp
  | cons other others ih =>
    rw [List.foldl_cons, ih]
    simp [and_assoc]

/-- **A shared name** is listed by every node that lists any, and there is such a node. -/
theorem mem_sharedNames {nodes : List Node} {name : String} : name ∈ sharedNames nodes ↔
    (∃ n ∈ nodes, n.validNames ≠ []) ∧ ∀ n ∈ nodes, n.validNames ≠ [] → name ∈ n.validNames := by
  have hmem : ∀ names : List String, names ∈ (nodes.map (·.validNames)).filter (fun names => !names.isEmpty) ↔
      names ≠ [] ∧ ∃ n ∈ nodes, n.validNames = names := by
    intro names
    simp only [List.mem_filter, List.mem_map, Bool.not_eq_true', List.isEmpty_eq_false_iff]
    exact and_comm
  unfold sharedNames
  split
  · rename_i hnone
    rw [hnone] at hmem
    constructor
    · exact fun h => by cases h
    · rintro ⟨⟨n, hn, hne⟩, -⟩
      exact absurd ((hmem n.validNames).2 ⟨hne, n, hn, rfl⟩) List.not_mem_nil
  · rename_i first others hsome
    rw [hsome] at hmem
    rw [mem_sortedSet, mem_foldl_filter]
    have hall : (name ∈ first ∧ ∀ other ∈ others, name ∈ other) ↔ ∀ names ∈ first :: others, name ∈ names := by simp
    rw [hall]
    constructor
    · intro h
      obtain ⟨hne, n, hn, hnames⟩ := (hmem first).1 List.mem_cons_self
      exact ⟨⟨n, hn, hnames ▸ hne⟩, fun m hm hmne => h _ ((hmem _).2 ⟨hmne, m, hm, rfl⟩)⟩
    · rintro ⟨-, h⟩ names hnames
      obtain ⟨hne, n, hn, rfl⟩ := (hmem names).1 hnames
      exact h n hn hne

end TrinoManagement.ConfigScan
