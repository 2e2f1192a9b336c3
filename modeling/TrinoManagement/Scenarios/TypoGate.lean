/-
The typo gate and a node without a list.

`_shared_names` intersects the lists that are not empty. A node that was read and reported no names is left out of the
intersection, as if it accepted everything.

- `covers_iff`: the gate covers every node that was read exactly when, where it lets a key through at all, each of them
  reported names.
- `uncovered_node`: a worker without a list, and a key nobody asked it about.
-/
import Mathlib.Tactic
import TrinoManagement.Config.EditService

namespace TrinoManagement.EditService

open TrinoManagement.ConfigEdit
open TrinoManagement.ConfigScan (Node mem_sharedNames)

/-- the nodes of a stored scan that were read without error -/
def readNodes (scan : Option (List Node)) : List Node := (scan.getD []).filter Node.read

/-- the gate as `deploy` applies it -/
def permits (development : List String) (cluster : String) (scan : Option (List Node)) (change : ConfigEdit.Change) : Prop :=
  let known := scanOf development cluster scan
  refuseDeploy change cluster development known.validNames known.scanned = none

/-- a change that goes through sets only names every node read has in its list -/
def Covers (development : List String) (cluster : String) (scan : Option (List Node)) (change : ConfigEdit.Change) : Prop :=
  permits development cluster scan change →
    ∀ n ∈ readNodes scan, ∀ e ∈ change.entries, e.action = .set → e.key ∈ n.validNames

theorem mem_validNames {development : List String} {cluster : String} {scan : Option (List Node)} {name : String} :
    name ∈ (scanOf development cluster scan).validNames ↔
      (∃ n ∈ readNodes scan, n.validNames ≠ []) ∧ ∀ n ∈ readNodes scan, n.validNames ≠ [] → name ∈ n.validNames := by
  cases scan with
  | none => simp [scanOf, readNodes]
  | some nodes => exact mem_sharedNames

/-- the gate, said of the nodes; a scan there has to be is one with names in it -/
theorem permits_iff {development : List String} {cluster : String} {scan : Option (List Node)}
    {change : ConfigEdit.Change} : permits development cluster scan change ↔
      (∃ name, ∀ n ∈ readNodes scan, n.validNames ≠ [] → name ∈ n.validNames) ∧ (∃ n ∈ readNodes scan, n.validNames ≠ []) ∧
        (∀ e ∈ change.entries, e.action = .set → ∀ n ∈ readNodes scan, n.validNames ≠ [] → e.key ∈ n.validNames) ∧
        (cluster ∈ development ∨ ∃ on ∈ change.verifiedOn, on ≠ "" ∧ on ∈ development) := by
  unfold permits
  rw [refuseDeploy_eq_none]
  constructor
  · rintro ⟨-, hnames, hkeys, hplace⟩
    obtain ⟨name, hname⟩ := List.exists_mem_of_ne_nil _ hnames
    obtain ⟨hsome, hall⟩ := mem_validNames.1 hname
    exact ⟨⟨name, hall⟩, hsome, fun e he hset => (mem_validNames.1 (hkeys e he hset)).2, hplace⟩
  · rintro ⟨⟨name, hall⟩, hsome, hkeys, hplace⟩
    refine ⟨?_, List.ne_nil_of_mem (mem_validNames.2 ⟨hsome, hall⟩), fun e he hset => mem_validNames.2 ⟨hsome, hkeys e he hset⟩, hplace⟩
    cases scan with
    | none =>
      obtain ⟨n, hn, -⟩ := hsome
      cases hn
    | some nodes => rfl

/-- **The gate covers the nodes that were read** exactly when none of them is without a list, wherever the change sets a
key, the lists there are have every key it sets, and the cluster is one it may go to. -/
theorem covers_iff (development : List String) (cluster : String) (scan : Option (List Node))
    (change : ConfigEdit.Change) : Covers development cluster scan change ↔
      ((∃ e ∈ change.entries, e.action = .set) → (∃ n ∈ readNodes scan, n.validNames ≠ []) →
        (∀ e ∈ change.entries, e.action = .set → ∀ n ∈ readNodes scan, n.validNames ≠ [] → e.key ∈ n.validNames) →
        (cluster ∈ development ∨ ∃ on ∈ change.verifiedOn, on ≠ "" ∧ on ∈ development) →
          ∀ n ∈ readNodes scan, n.validNames ≠ []) := by
  constructor
  · rintro hcovers ⟨e, he, hset⟩ hsome hkeys hplace n hn
    have hpermits : permits development cluster scan change :=
      permits_iff.2 ⟨⟨e.key, hkeys e he hset⟩, hsome, hkeys, hplace⟩
    exact List.ne_nil_of_mem (hcovers hpermits n hn e he hset)
  · intro hlists hpermits n hn e he hset
    obtain ⟨-, hsome, hkeys, hplace⟩ := permits_iff.1 hpermits
    exact hkeys e he hset n hn (hlists ⟨e, he, hset⟩ hsome hkeys hplace n hn)

namespace Sample

def reporting (host role : String) (validNames : List String) : Node := ⟨host, role, true, none, [], [], validNames⟩

/-- a coordinator that lists its names, and a worker whose log no longer has any -/
def halfRead : List Node := [reporting "c1" "coordinator" ["query.max-memory"], reporting "w1" "worker" []]

def raiseMemory : ConfigEdit.Change := ⟨1, "memory", .all, [⟨"query.max-memory", .set, some "50GB"⟩], none, none⟩

end Sample

/-- **A node nobody asked**: the change goes through, and w1 reported no name at all. -/
theorem uncovered_node : permits ["dev"] "dev" (some Sample.halfRead) Sample.raiseMemory ∧
    ¬ Covers ["dev"] "dev" (some Sample.halfRead) Sample.raiseMemory := by
  have hpermits : permits ["dev"] "dev" (some Sample.halfRead) Sample.raiseMemory := by
    unfold permits
    decide +kernel
  refine ⟨hpermits, fun h => ?_⟩
  have hmem := h hpermits (Sample.reporting "w1" "worker" []) (by decide +kernel) ⟨"query.max-memory", .set, some "50GB"⟩
    (by decide) rfl
  cases hmem

end TrinoManagement.EditService
