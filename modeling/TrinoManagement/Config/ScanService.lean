/-
Reading each cluster's configuration back: `ConfigScanService` of `tms/ops/configservice.py`.

A scan runs one playbook and stores what its output says; `get` compares the stored nodes each time it is asked.

- `readOutput`: what a scan makes of a run. An output that `parse_scan` raises on leaves nothing to store.
- `filter_parseScan`: the nodes of a scan are those of the lines printed, and one of no name for each line unread.
- `agree_read`: where the nodes of a cluster that is not a development cluster agree, every one of them was read.
-/
import Mathlib.Tactic
import TrinoManagement.Config.Playbook
import TrinoManagement.Config.Scan

namespace TrinoManagement.ConfigScan

open TrinoManagement.Playbook

/-- the payload of a stored snapshot -/
structure Payload where
  nodes : List Node
  error : Option String
  exitCode : Option ℤ
deriving DecidableEq, Repr

def noLineMessage : String :=
  "The playbook ran but printed no TMS-CONFIG-SCAN line. Check that the installed playbook is the one in " ++
    "docs/templates/collect-config.yml."

/-- the middle of `_scan_now`: a partial scan is kept, its error beside it -/
def readOutput (py : Python) (result : Except String RunResult) (lines : List String) : Except (String × String) Payload :=
  (parseScan py lines).map fun nodes =>
    let error := failure result
    { nodes := nodes
      error := if nodes = [] ∧ error.getD "" = "" then some noLineMessage else error
      exitCode := (result.toOption.bind (·.rc)) }

/-- what the service keeps -/
structure Scans where
  snapshots : String → Option Payload
  running : String → Bool

/-- `_scan_now`; `saves` is whether the snapshot store takes it. What `parse_scan` raises ends the thread there. -/
def scanNow (py : Python) (saves : Bool) (cluster : String) (result : Except String RunResult) (lines : List String)
    (s : Scans) : Scans :=
  match readOutput py result lines with
  | .error _ => s
  | .ok payload =>
    { snapshots := if saves then Function.update s.snapshots cluster (some payload) else s.snapshots
      running := Function.update s.running cluster false }

/-- what `get` answers, less what it says of the caller -/
structure View where
  scanned : Bool
  development : Bool
  compared : Comparison
  error : Option String
  exitCode : Option ℤ
deriving DecidableEq, Repr

/-- `get` -/
def get (development : List String) (cluster : String) (s : Scans) : View :=
  match s.snapshots cluster with
  | none => ⟨false, decide (cluster ∈ development), ⟨[], [], true, [], []⟩, none, none⟩
  | some payload =>
    ⟨true, decide (cluster ∈ development), compare payload.nodes (decide (cluster ∈ development)), payload.error,
      payload.exitCode⟩

/-! ## The nodes of an output -/

/-- the object of a tagged line that can be read -/
def readable (py : Python) (line : String) : Option RawNode :=
  (payload line).bind fun text => (py.loads text).toOption

/-- what a node is called -/
def RawNode.name (raw : RawNode) : String := orElse raw.host "?"

/-- a scan has the node of every line that can be read, in their order; the others have no name -/
theorem filter_parseScan {py : Python} {lines : List String} {nodes : List Node} (h : parseScan py lines = .ok nodes)
    {host : String} (hhost : host ≠ "?") : nodes.filter (·.host == host) =
      ((lines.filterMap (readable py)).filter (·.name == host)).map (node py) := by
  induction lines generalizing nodes with
  | nil =>
    obtain rfl := Except.ok.inj h
    rfl
  | cons line rest ih =>
    rw [parseScan] at h
    rw [List.filterMap_cons]
    cases hpayload : payload line with
    | none =>
      rw [hpayload] at h
      simp only [readable, hpayload, Option.bind_none]
      exact ih h
    | some text =>
      rw [hpayload] at h
      dsimp only at h
      cases hloads : py.loads text with
      | error u =>
        rw [hloads] at h
        cases u with
        | raises c m => cases h
        | unreadable m =>
          cases hrest : parseScan py rest with
          | error e => rw [hrest] at h; cases h
          | ok others =>
            rw [hrest] at h
            obtain rfl := Except.ok.inj h
            have hnot : ((unreadNode m).host == host) = false := by simpa [unreadNode] using Ne.symm hhost
            simp only [readable, hpayload, hloads, Option.bind_some, Except.toOption, List.filter_cons, hnot,
              Bool.false_eq_true, if_false]
            exact ih hrest
      | ok raw =>
        rw [hloads] at h
        cases hrest : parseScan py rest with
        | error e => rw [hrest] at h; cases h
        | ok others =>
          rw [hrest] at h
          obtain rfl := Except.ok.inj h
          have hread : readable py line = some raw := by simp [readable, hpayload, hloads, Except.toOption]
          have hname : (node py raw).host = raw.name := rfl
          rw [hread]
          simp only [List.filter_cons, hname]
          by_cases hraw : (raw.name == host) = true
          · rw [if_pos hraw, if_pos hraw, List.map_cons, ih hrest]
          · rw [if_neg hraw, if_neg hraw, ih hrest]

/-- **Where the nodes agree, all were read**, unless missing nodes are ignored. -/
theorem agree_read {nodes : List Node} (h : (compare nodes false).agree = true) : ∀ n ∈ nodes, n.read = true := by
  intro n hn
  have hfindings : (compare nodes false).findings = [] := List.isEmpty_iff.1 h
  have hnone := (List.append_eq_nil_iff.1 hfindings).2
  by_contra hread
  have hmem : n ∈ nodes.filter fun n => !n.read := List.mem_filter.2 ⟨hn, by simpa using hread⟩
  rw [if_pos ⟨List.ne_nil_of_mem hmem, rfl⟩] at hnone
  cases hnone

end TrinoManagement.ConfigScan
