/-
A configuration scan and the cluster it holds.

- `Finishes`: an output is read, with one report for each marked line, and the cluster is free for another scan.
- `scan_never_sticks`: exactly if every marked line can be read. `scan_stuck` is an output with a line that cannot.
-/
import Mathlib.Tactic
import TrinoManagement.Config.ScanOutput

namespace TrinoManagement.ScanOutput

open TrinoManagement.Audit (Principal manageHealth)
open TrinoManagement.ConfigScan (Unread payload)

/-- who may scan, and a cluster that can be -/
def MayScan (cfg : ScanConfig) (principal : Principal) (cluster : String) : Prop :=
  principal.can manageHealth = true ∧ cluster ∈ cfg.clusters ∧ (cfg.inventories.lookup cluster).getD "" ≠ ""

/-- whatever else the run said, and whether or not its snapshot is stored -/
structure Finishes (lib : Library) (lines : List String) : Prop where
  reports : ∃ nodes, parseScan lib lines = .ok nodes ∧ nodes.length = (lines.filterMap payload).length
  free : ∀ saves cluster result s, (scanNow lib saves cluster result lines s).running cluster = false
  again : ∀ saves cluster result s cfg principal, MayScan cfg principal cluster →
    ∃ s', scan cfg principal cluster (scanNow lib saves cluster result lines s) = .ok s'

/-- a cluster that is not being scanned can be -/
theorem scan_free {cfg : ScanConfig} {principal : Principal} {cluster : String} {s : Scans}
    (hmay : MayScan cfg principal cluster) (hfree : s.running cluster = false) : ∃ s', scan cfg principal cluster s = .ok s' := by
  obtain ⟨hcan, hcluster, hinventory⟩ := hmay
  refine ⟨{ s with running := Function.update s.running cluster true }, ?_⟩
  unfold scan
  rw [if_neg (by simp [hcan]), if_neg (not_not.2 hcluster), if_neg hinventory, if_neg (by simp [hfree])]

theorem scanNow_free {lib : Library} {lines : List String} {nodes : List NodeReport} (h : parseScan lib lines = .ok nodes)
    (saves : Bool) (cluster : String) (result : Except String Playbook.RunResult) (s : Scans) :
    (scanNow lib saves cluster result lines s).running cluster = false := by
  simp [scanNow, h]

/-- **A scan never sticks** exactly if every marked line of its output can be read. -/
theorem scan_never_sticks (lib : Library) (lines : List String) :
    Finishes lib lines ↔ ∀ line ∈ lines, ∀ text ∈ payload line, Readable lib text := by
  rw [← parseScan_returns]
  constructor
  · intro h
    obtain ⟨nodes, hnodes, -⟩ := h.reports
    exact ⟨nodes, hnodes⟩
  · rintro ⟨nodes, hnodes⟩
    have hfree := scanNow_free hnodes
    exact ⟨⟨nodes, hnodes, parseScan_length hnodes⟩, fun saves cluster result s => hfree saves cluster result s,
      fun saves cluster result s cfg principal hmay => scan_free hmay (hfree saves cluster result s)⟩

/-! ### A line that is JSON, and no object -/

def library : Library where
  loads text := if text = "[]" then .ok (.list []) else .error (.unreadable "Expecting value: line 1 column 1 (char 0)")
  checksum _ := ""
  b64decode _ := none
  sorted _ := .ok []

def admin : Principal := ⟨"kim", ["admin"]⟩

/-- the scan that is running -/
def scanning : Scans := ⟨fun _ => none, fun cluster => decide (cluster = "c1")⟩

theorem scan_stuck :
    parseScan library ["TMS-CONFIG-SCAN []"] = .error ("AttributeError", "'list' object has no attribute 'get'") ∧
      (scanNow library true "c1" (.ok ⟨some 0, none, false⟩) ["TMS-CONFIG-SCAN []"] scanning).running "c1" = true ∧
      ¬Finishes library ["TMS-CONFIG-SCAN []"] := by
  have hparse : parseScan library ["TMS-CONFIG-SCAN []"] = .error ("AttributeError", "'list' object has no attribute 'get'") := by
    decide +kernel
  refine ⟨hparse, by decide +kernel, fun h => ?_⟩
  obtain ⟨nodes, hnodes, -⟩ := h.reports
  rw [hparse] at hnodes
  cases hnodes

end TrinoManagement.ScanOutput
