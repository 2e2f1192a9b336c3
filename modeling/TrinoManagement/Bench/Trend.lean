/-
Results over time, `tms/bench/trend.py`: the executions of a query, grouped by cluster and by bucket on one shared axis.

A start is a moment of some type `T`; where a moment lies in time and what a day and a month are called is taken from Python.
- `bucketKey`: what groups together. `cellsOf`, `axisOf`: the executions of each cell, and the buckets there are.
- `ordered`: the axis, oldest first; a bucket without a time comes last.
- `build`: one series for each cluster, with one point for each of its cells.
-/
import Mathlib.Data.List.Lex
import Mathlib.Data.String.Basic
import Mathlib.Tactic
import TrinoManagement.Bench.Compare

namespace TrinoManagement.Trend

open TrinoManagement.Bench (inOrder middleOf)
open TrinoManagement.Grouped (gather group)

/-! ## What is read -/

/-- what is taken from Python of a moment: where it lies in time, and `strftime` -/
structure Clock (T : Type) where
  instant : T → ℤ
  day : T → String
  month : T → String

/-- when a run started: what `_moment` makes of it, and what `_iso` shows of it -/
structure Reading (T : Type) where
  moment : Option T
  iso : Option String

/-- a row of the history, as far as `build` reads it -/
structure HistoryRow (T : Type) where
  runId : ℕ
  cluster : String
  state : String
  elapsedMs : Option ℚ
  startedAt : Reading T

inductive Bucket where
  | run
  | day
  | month
deriving DecidableEq, Repr

/-- `BUCKETS`; any other text is `BY_RUN` -/
def bucketOf (bucket : String) : Bucket :=
  if bucket = "day" then .day else if bucket = "month" then .month else .run

def Bucket.name : Bucket → String
  | .run => "run"
  | .day => "day"
  | .month => "month"

/-- `BUCKET_LABELS` -/
def Bucket.label : Bucket → String
  | .run => "Every run"
  | .day => "Daily"
  | .month => "Monthly"

/-! ## Numbers -/

/-- what `summarise` returns -/
structure Stats where
  count : ℕ
  avg : Option ℚ
  median : Option ℚ
  min : Option ℚ
  max : Option ℚ
deriving DecidableEq

/-- `summarise` -/
def summarise (values : List (Option ℚ)) : Stats :=
  let numbers := inOrder values
  if numbers = [] then ⟨0, none, none, none, none⟩
  else
    ⟨numbers.length, some (numbers.sum / numbers.length), some (middleOf numbers), numbers.head?, numbers.getLast?⟩

/-! ## Cells -/

section Build

variable {T : Type} (clock : Clock T) (bucket : Bucket)

/-- an execution that counts: it did not fail, and has a time -/
structure Counted (T : Type) where
  runId : ℕ
  cluster : String
  elapsedMs : ℚ
  startedAt : Reading T

def HistoryRow.counted (row : HistoryRow T) : Option (Counted T) :=
  if row.state = "FAILED" then none
  else row.elapsedMs.map fun ms => ⟨row.runId, row.cluster, ms, row.startedAt⟩

/-- `_bucket_key` -/
def bucketKey (row : Counted T) : String :=
  match bucket, row.startedAt.moment with
  | .day, some t => clock.day t
  | .month, some t => clock.month t
  | _, _ => "run:" ++ toString row.runId

/-- where a reading lies in time -/
def Reading.at (r : Reading T) : Option ℤ := r.moment.map clock.instant

/-- the earliest reading dates what it falls in -/
def earlier (old new : Reading T) : Reading T :=
  match old.at clock, new.at clock with
  | _, none => old
  | none, some _ => new
  | some t, some t' => if t' < t then new else old

/-- a bucket of the axis -/
structure Slot (T : Type) where
  key : String
  startedAt : Reading T
  runs : Finset ℕ

/-- the executions of one cluster in one bucket -/
structure Cell (T : Type) where
  cluster : String
  bucket : String
  startedAt : Reading T
  elapsed : List ℚ
  runs : Finset ℕ

def freshSlot (row : Counted T) : Slot T := ⟨bucketKey clock bucket row, row.startedAt, ∅⟩

def Slot.add (slot : Slot T) (row : Counted T) : Slot T :=
  { slot with startedAt := earlier clock slot.startedAt row.startedAt, runs := insert row.runId slot.runs }

def freshCell (row : Counted T) : Cell T := ⟨row.cluster, bucketKey clock bucket row, row.startedAt, [], ∅⟩

def Cell.add (cell : Cell T) (row : Counted T) : Cell T :=
  { cell with
    startedAt := earlier clock cell.startedAt row.startedAt
    elapsed := cell.elapsed ++ [row.elapsedMs]
    runs := insert row.runId cell.runs }

/-- `axis` -/
def axisOf (rows : List (Counted T)) : List (Slot T) :=
  (group (bucketKey clock bucket) (freshSlot clock bucket) (Slot.add clock) rows).map Prod.snd

/-- the key of a cell -/
def cellKey (row : Counted T) : String × String := (row.cluster, bucketKey clock bucket row)

/-- `cells` -/
def cellsOf (rows : List (Counted T)) : List (Cell T) :=
  (group (cellKey clock bucket) (freshCell clock bucket) (Cell.add clock) rows).map Prod.snd

/-! ## The axis -/

/-- the sort key of the axis: whether the time is missing, the time, and the key of the bucket -/
def Slot.le (s t : Slot T) : Bool :=
  match s.startedAt.at clock, t.startedAt.at clock with
  | some a, some b => a < b || (a == b && decide (s.key ≤ t.key))
  | some _, none => true
  | none, some _ => false
  | none, none => decide (s.key ≤ t.key)

/-- `ordered` -/
def ordered (rows : List (Counted T)) : List (Slot T) :=
  (axisOf clock bucket rows).insertionSort fun s t => s.le clock t = true

/-- `positions` -/
def position (slots : List (Slot T)) (key : String) : ℕ := (slots.map Slot.key).idxOf key

/-! ## Series -/

structure Point where
  x : ℕ
  bucket : String
  startedAt : Option String
  medianMs : Option ℚ
  avgMs : Option ℚ
  runs : ℕ
  executions : ℕ
deriving DecidableEq

structure Series where
  cluster : String
  points : List Point
  meanOfPoints : Option ℚ
deriving DecidableEq

structure Summary where
  cluster : String
  stats : Stats
  runs : ℕ
  buckets : ℕ
deriving DecidableEq

structure AxisBucket where
  key : String
  startedAt : Option String
  runs : ℕ
deriving DecidableEq

structure Chart where
  bucket : String
  bucketLabel : String
  buckets : List AxisBucket
  series : List Series
  summaries : List Summary
  drawable : Bool
deriving DecidableEq

def pointOf (slots : List (Slot T)) (cell : Cell T) : Point :=
  let stats := summarise (cell.elapsed.map some)
  ⟨position slots cell.bucket, cell.bucket, cell.startedAt.iso, stats.median, stats.avg, cell.runs.card, stats.count⟩

/-- the cells of one cluster, by their place on the axis -/
def pointsOf (slots : List (Slot T)) (cells : List (Cell T)) : List Point :=
  (cells.insertionSort fun c d => position slots c.bucket ≤ position slots d.bucket).map (pointOf slots)

def meanOf (points : List Point) : Option ℚ :=
  if points = [] then none else some ((points.map fun p => p.medianMs.getD 0).sum / points.length)

def seriesOf (slots : List (Slot T)) (cluster : String) (cells : List (Cell T)) : Series :=
  let points := pointsOf slots cells
  ⟨cluster, points, meanOf points⟩

def summaryOf (cluster : String) (cells : List (Cell T)) : Summary :=
  ⟨cluster, summarise (cells.flatMap fun c => c.elapsed.map some),
    (cells.foldr (fun (c : Cell T) runs => c.runs ∪ runs) ∅).card, cells.length⟩

/-- `by_cluster` -/
def byCluster (cells : List (Cell T)) : List (String × List (Cell T)) :=
  gather Cell.cluster cells

/-- `build` on the executions that count -/
def buildCounted (rows : List (Counted T)) : Chart :=
  let slots := ordered clock bucket rows
  let clusters := byCluster (cellsOf clock bucket rows)
  let names := (clusters.map Prod.fst).insertionSort (· ≤ ·)
  let series := names.map fun name => seriesOf slots name ((clusters.lookup name).getD [])
  ⟨bucket.name, bucket.label, slots.map fun s => ⟨s.key, s.startedAt.iso, s.runs.card⟩, series,
    names.map fun name => summaryOf name ((clusters.lookup name).getD []), series.any fun s => 2 ≤ s.points.length⟩

end Build

/-- `build` -/
def build {T : Type} (clock : Clock T) (history : List (HistoryRow T)) (bucket : String) : Chart :=
  buildCounted clock (bucketOf bucket) (history.filterMap HistoryRow.counted)

end TrinoManagement.Trend
