/-
Where nodes disagree, over property values of any type: `compare` of `tms/ops/configscan.py`.

The playbook's line may have any JSON for a property, and `compare` tells values apart by `json.dumps(v, sort_keys=True)`. Here a
value is null, or of a type with equality; `Config.Scan` has the texts of a properties file.
- `findings_texts`: over texts, this is `ConfigScan.compare`.
-/
import Mathlib.Tactic
import TrinoManagement.Config.Scan

namespace TrinoManagement.Drift

open TrinoManagement.ConfigScan (FileRecord distinct sorted sortedSet orElse perNodeFiles)

/-- one node of a scan -/
structure Node (β : Type) where
  host : String
  role : String
  reachable : Bool
  error : Option String
  files : Dict FileRecord
  /-- `none` is a null -/
  properties : Dict (Option β)
  validNames : List String

/-- what a finding says of a host -/
inductive Shown (β : Type) where
  | text (text : String)
  | value (value : β)
deriving DecidableEq, Repr

structure Finding (β : Type) where
  kind : String
  role : String
  subject : String
  detail : String
  hosts : Dict (Shown β)
  expected : Option Bool
deriving DecidableEq, Repr

structure Comparison (β : Type) where
  nodes : List (Node β)
  findings : List (Finding β)
  agree : Bool
  validNames : List String
  roles : List String

section Compare

variable {β : Type} [DecidableEq β]

/-- `n["reachable"] and not n.get("error")` -/
def Node.read (n : Node β) : Bool := n.reachable && n.error.getD "" == ""

/-- what `_file_findings` takes of a node -/
def fileOf (path : String) (n : Node β) : Option String :=
  match n.files.lookup path with
  | some entry => if entry.present then entry.sha256 else none
  | none => none

def fileFinding (role : String) (peers : List (Node β)) (path : String) : Option (Finding β) :=
  let byHost := Dict.ofPairs (peers.map fun n => (n.host, fileOf path n))
  if (distinct byHost).length < 2 then none
  else
    let missing := (byHost.filter fun p => p.2 == none).map Prod.fst
    some
      { kind := if missing ≠ [] then "missing_file" else "file_differs"
        role := role
        subject := path
        detail := if missing ≠ [] then String.intercalate ", " (sorted missing) ++ " does not have this file."
          else "The file differs between nodes of the same role."
        hosts := byHost.map fun (h, v) => (h, .text (orElse v "absent"))
        expected := some (decide (path ∈ perNodeFiles)) }

/-- `_file_findings` -/
def fileFindings (role : String) (peers : List (Node β)) : List (Finding β) :=
  (sortedSet (peers.flatMap fun n => n.files.map Prod.fst)).filterMap (fileFinding role peers)

/-- `node["properties"].get(name)` -/
def valueOf (name : String) (n : Node β) : Option β := (n.properties.lookup name).join

def propertyFinding (role : String) (peers : List (Node β)) (name : String) : Option (Finding β) :=
  let byHost := Dict.ofPairs (peers.map fun n => (n.host, valueOf name n))
  if (distinct byHost).length < 2 then none
  else
    some
      { kind := "value_differs"
        role := role
        subject := name
        detail := "Nodes of the same role are running different values."
        hosts := byHost.map fun (h, v) => (h, (v.map Shown.value).getD (.text "not set"))
        expected := some false }

/-- `_property_findings` -/
def propertyFindings (role : String) (peers : List (Node β)) : List (Finding β) :=
  (sortedSet (peers.flatMap fun n => n.properties.map Prod.fst)).filterMap (propertyFinding role peers)

/-- `_shared_names` -/
def sharedNames (nodes : List (Node β)) : List String :=
  match (nodes.map (·.validNames)).filter fun names => !names.isEmpty with
  | [] => []
  | first :: others => sortedSet (others.foldl (fun shared other => shared.filter (· ∈ other)) first)

def unreachableFinding (unreachable : List (Node β)) : Finding β :=
  { kind := "unreachable"
    role := "-"
    subject := String.intercalate ", " (unreachable.map (·.host))
    detail := "TMS could not read the configuration of " ++ toString unreachable.length ++ " node(s). What the others " ++
      "agree on says nothing about these."
    hosts := Dict.ofPairs (unreachable.map fun n => (n.host, .text (orElse n.error "unreachable")))
    expected := none }

/-- the nodes of one role that could be read -/
def peersOf (nodes : List (Node β)) (role : String) : List (Node β) := (nodes.filter Node.read).filter (·.role == role)

/-- `compare`: within a role, never across -/
def compare (nodes : List (Node β)) (ignoreMissingNodes : Bool) : Comparison β :=
  let reachable := nodes.filter Node.read
  let unreachable := nodes.filter fun n => !n.read
  let byRole := (sortedSet (reachable.map (·.role))).flatMap fun role =>
    let peers := peersOf nodes role
    if peers.length < 2 then [] else fileFindings role peers ++ propertyFindings role peers
  let findings := byRole ++
    if unreachable ≠ [] ∧ ignoreMissingNodes = false then [unreachableFinding unreachable] else []
  { nodes := nodes
    findings := findings
    agree := findings.isEmpty
    validNames := sharedNames reachable
    roles := sortedSet (nodes.map (·.role)) }

end Compare

/-! ## Texts -/

/-- a node whose properties are texts, as a properties file has them -/
def ofTexts (n : ConfigScan.Node) : Node String :=
  ⟨n.host, n.role, n.reachable, n.error, n.files, n.properties.map fun p => (p.1, some p.2), n.validNames⟩

def Shown.flat : Shown String → String
  | .text t => t
  | .value v => v

def Finding.flat (f : Finding String) : ConfigScan.Finding :=
  ⟨f.kind, f.role, f.subject, f.detail, f.hosts.map fun p => (p.1, p.2.flat), f.expected⟩

section Texts

variable {nodes peers : List ConfigScan.Node} {role name : String}

theorem valueOf_ofTexts (n : ConfigScan.Node) : valueOf name (ofTexts n) = n.properties.lookup name := by
  rw [valueOf, ofTexts]
  dsimp only
  rw [Dict.lookup_map]
  cases n.properties.lookup name <;> rfl

theorem filter_ofTexts (p : ConfigScan.Node → Bool) (q : Node String → Bool) (h : ∀ n, q (ofTexts n) = p n) :
    (nodes.map ofTexts).filter q = (nodes.filter p).map ofTexts := by
  rw [List.filter_map]
  exact congrArg (List.map ofTexts) (List.filter_congr fun n _ => h n)

theorem fileFinding_texts (path : String) : (fileFinding role (peers.map ofTexts) path).map Finding.flat =
    ConfigScan.fileFinding role peers path := by
  have hpairs : (peers.map ofTexts).map (fun n => (n.host, fileOf path n)) = peers.map fun n => (n.host, ConfigScan.fileOf path n) := by
    rw [List.map_map]
    rfl
  rw [fileFinding, ConfigScan.fileFinding, hpairs]
  dsimp only
  split_ifs
  · rfl
  · simp [Finding.flat, Shown.flat]
  · simp [Finding.flat, Shown.flat]

theorem propertyFinding_texts : (propertyFinding role (peers.map ofTexts) name).map Finding.flat =
    ConfigScan.propertyFinding role peers name := by
  have hpairs : (peers.map ofTexts).map (fun n => (n.host, valueOf name n)) = peers.map fun n => (n.host, n.properties.lookup name) := by
    rw [List.map_map]
    exact List.map_congr_left fun n _ => Prod.ext rfl (valueOf_ofTexts n)
  rw [propertyFinding, ConfigScan.propertyFinding, hpairs]
  dsimp only
  split_ifs
  · rfl
  · have hshown : ∀ v : Option String, Shown.flat ((v.map Shown.value).getD (.text "not set")) = v.getD "not set" := by
      intro v
      cases v <;> rfl
    simp [Finding.flat, hshown]

theorem map_filterMap_flat {keys : List String} {f : String → Option (Finding String)} {g : String → Option ConfigScan.Finding}
    (h : ∀ key, (f key).map Finding.flat = g key) : (keys.filterMap f).map Finding.flat = keys.filterMap g := by
  rw [List.map_filterMap]
  exact List.filterMap_congr fun key _ => h key

theorem fileFindings_texts : (fileFindings role (peers.map ofTexts)).map Finding.flat = ConfigScan.fileFindings role peers := by
  rw [fileFindings, ConfigScan.fileFindings, List.flatMap_map]
  exact map_filterMap_flat fileFinding_texts

theorem propertyFindings_texts :
    (propertyFindings role (peers.map ofTexts)).map Finding.flat = ConfigScan.propertyFindings role peers := by
  have hkeys : ((peers.map ofTexts).flatMap fun n => n.properties.map Prod.fst) = peers.flatMap fun n => n.properties.map Prod.fst := by
    rw [List.flatMap_map]
    refine List.flatMap_congr fun n _ => ?_
    simp [ofTexts]
  rw [propertyFindings, ConfigScan.propertyFindings, hkeys]
  exact map_filterMap_flat fun _ => propertyFinding_texts

theorem read_ofTexts (n : ConfigScan.Node) : (ofTexts n).read = n.read := rfl

theorem peersOf_texts : peersOf (nodes.map ofTexts) role = ((nodes.filter ConfigScan.Node.read).filter (·.role == role)).map ofTexts := by
  rw [peersOf, filter_ofTexts ConfigScan.Node.read Node.read read_ofTexts]
  exact filter_ofTexts _ _ fun _ => rfl

theorem unreachableFinding_texts :
    (unreachableFinding (nodes.map ofTexts)).flat = ConfigScan.unreachableFinding nodes := by
  have hhosts : Dict.ofPairs ((nodes.map ofTexts).map fun n => (n.host, (Shown.text (orElse n.error "unreachable") : Shown String))) =
      (Dict.ofPairs (nodes.map fun n => (n.host, orElse n.error "unreachable"))).map fun p => (p.1, Shown.text p.2) := by
    rw [← Dict.ofPairs_map, List.map_map, List.map_map]
    rfl
  have hback : ∀ d : Dict String, (d.map fun p => (p.1, (Shown.text p.2 : Shown String))).map (fun p => (p.1, p.2.flat)) = d := by
    intro d
    rw [List.map_map]
    exact List.map_id d
  have hnames : (nodes.map ofTexts).map (·.host) = nodes.map (·.host) := by
    rw [List.map_map]
    rfl
  rw [Finding.flat, unreachableFinding, ConfigScan.unreachableFinding]
  dsimp only
  rw [hhosts, hback, hnames, List.length_map]

/-- **Over texts.** -/
theorem findings_texts (ignoreMissingNodes : Bool) : (compare (nodes.map ofTexts) ignoreMissingNodes).findings.map Finding.flat =
    (ConfigScan.compare nodes ignoreMissingNodes).findings := by
  have hreachable := @filter_ofTexts nodes ConfigScan.Node.read Node.read read_ofTexts
  have hunreachable := @filter_ofTexts nodes (fun n => !n.read) (fun n => !n.read) fun _ => rfl
  rw [compare, ConfigScan.compare]
  dsimp only
  rw [hreachable, hunreachable, List.map_append, List.map_flatMap, List.map_map]
  congr 1
  · refine List.flatMap_congr fun role _ => ?_
    rw [peersOf_texts, List.length_map]
    split_ifs
    · rfl
    · rw [List.map_append, fileFindings_texts, propertyFindings_texts]
  · simp only [ne_eq, List.map_eq_nil_iff]
    split_ifs
    · rw [List.map_singleton, unreachableFinding_texts]
    · rfl

end Texts

end TrinoManagement.Drift
