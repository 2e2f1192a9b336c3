/-
Snapshots, `tms/collector/snapshot.py`: what the collector stores and everything else reads, one per cluster and kind.
The kind is the type of the payload.

A failed queries poll stores `{}` and its error. A queries poll that got an answer stores the counts with it, so
`QueriesSnapshot` carries the proof that a snapshot to be trusted has counts.
-/
import Mathlib.Tactic
import TrinoManagement.Core.Value
import TrinoManagement.Health.States

namespace TrinoManagement.Collector

structure Snapshot (π : Type) where
  cluster : String
  collectedAt : ℚ
  payload : π
  /-- set means: reached, but cannot be trusted -/
  collectionError : Option String
  advice : Option String
deriving DecidableEq

namespace Snapshot

variable {π : Type} (s : Snapshot π)

def trustworthy : Bool := s.collectionError.isNone

def isStale (now thresholdSeconds : ℚ) : Bool := decide (thresholdSeconds < now - s.collectedAt)

end Snapshot

/-! ## Payloads -/

structure Summary where
  running : ℕ
  queued : ℕ
  longRunning : ℕ
  total : ℕ
deriving DecidableEq, Repr

/-- one row of the live-query screen -/
structure QueryRow where
  queryId : Value
  state : Value
  user : Value
  source : Value
  resourceGroupId : Option (List Value)
  elapsedMs : Option ℚ
  queuedMs : Option ℚ
  totalCpuMs : Option ℚ
  peakUserMemoryBytes : Option ℤ
  physicalInputBytes : Option ℤ
  progressPercentage : Value
  runningDrivers : Value
  queuedDrivers : Value
  fullyBlocked : Value
  queryPreview : String
  queryTruncated : Bool
  longRunning : Bool
deriving DecidableEq

structure QueriesPayload where
  queries : List QueryRow
  summary : Summary
  responseBytes : ℕ
  pollIntervalSeconds : ℚ
deriving DecidableEq

/-- the queries snapshot; a failed poll has the payload `{}` -/
structure QueriesSnapshot extends Snapshot (Option QueriesPayload) where
  reported : toSnapshot.trustworthy = true → payload.isSome
deriving DecidableEq

/-- running plus queued, as `RestartService._observe` reads them -/
def QueriesSnapshot.live (s : QueriesSnapshot) : ℕ :=
  match s.payload with
  | some p => p.summary.running + p.summary.queued
  | none => 0

/-- `ClusterHealth.as_dict`, the part the sequence reads -/
structure HealthPayload where
  rollupState : Health.State
  rollupEnabled : Bool
  stale : Bool
deriving DecidableEq, Repr

abbrev HealthSnapshot := Snapshot HealthPayload

/-- `{"info": ...}`, or `{}` after a failed poll -/
abbrev InfoSnapshot := Snapshot Value

/-- `{"mbeans": ..., "errors": ...}` -/
abbrev JmxSnapshot := Snapshot Value

end TrinoManagement.Collector
