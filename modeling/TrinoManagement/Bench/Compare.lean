/-
Comparing two runs, `tms/bench/compare.py`: the median of each query's repetitions on either side, and a verdict.

Times and medians are exact.
- `summariseRun`: the executions of a run, grouped by query. `lookup_summariseRun`: the entry of a query is made of its own
  executions.
- `compare`: one row for each query of either run, a summary and the warnings; or why the runs are not comparable.
-/
import Mathlib.Data.List.Lex
import Mathlib.Data.String.Basic
import Mathlib.Tactic
import TrinoManagement.Core.Grouped
import TrinoManagement.Core.Value

namespace TrinoManagement.Bench

open TrinoManagement.Grouped (folded group lookup_group mem_keys_group own)

/-- `NOISE_PERCENT` -/
def noisePercent : ℚ := 5

/-! ## Medians -/

/-- the middle of values in order -/
def middleOf (ordered : List ℚ) : ℚ :=
  let middle := ordered.length / 2
  if ordered.length % 2 = 1 then ordered.getD middle 0 else (ordered.getD (middle - 1) 0 + ordered.getD middle 0) / 2

/-- `sorted(v for v in values if v is not None)` -/
def inOrder (values : List (Option ℚ)) : List ℚ := values.reduceOption.insertionSort (· ≤ ·)

/-- `median` -/
def median (values : List (Option ℚ)) : Option ℚ :=
  let ordered := inOrder values
  if ordered = [] then none else some (middleOf ordered)

/-! ## One run -/

/-- an execution, as a row of `benchmark_result` has it; what it took is there and is not negative -/
structure ResultRow where
  queryName : String
  state : String
  elapsedMs : ℕ
  trinoCpuMs : Option ℤ
  processedRows : Option ℤ
deriving DecidableEq, Repr

/-- a run with its executions; a snapshot of a query is its name and its text -/
structure MeasuredRun where
  id : ℕ
  cluster : String
  querySet : String
  label : Option String
  state : String
  repetitions : ℤ
  startedAt : ℤ
  guard : Value
  queries : List (String × String)
  results : List ResultRow

/-- an entry of `grouped` while the executions are read -/
structure Tally where
  runs : ℕ
  failures : ℕ
  elapsed : List ℕ
  cpu : List ℤ
  rows : List (Option ℤ)
deriving DecidableEq, Repr

def Tally.add (entry : Tally) (result : ResultRow) : Tally :=
  if result.state = "FAILED" then { entry with runs := entry.runs + 1, failures := entry.failures + 1 }
  else
    { entry with
      runs := entry.runs + 1
      elapsed := entry.elapsed ++ [result.elapsedMs]
      cpu := entry.cpu ++ result.trinoCpuMs.toList
      rows := entry.rows ++ [result.processedRows] }

/-- an entry with its medians -/
structure Entry where
  name : String
  runs : ℕ
  failures : ℕ
  medianMs : Option ℚ
  medianCpuMs : Option ℚ
  fastestMs : Option ℕ
  rows : Option ℚ
  rowsVaried : Bool
  rowsRange : Option (ℤ × ℤ)
deriving DecidableEq

/-- `rows_range` -/
def rangeOf (counted : List ℤ) : Option (ℤ × ℤ) :=
  match counted.min?, counted.max? with
  | some low, some high => if low ≠ high then some (low, high) else none
  | _, _ => none

def Tally.entry (name : String) (t : Tally) : Entry where
  name := name
  runs := t.runs
  failures := t.failures
  medianMs := median (t.elapsed.map fun (ms : ℕ) => some (ms : ℚ))
  medianCpuMs := median (t.cpu.map fun (ms : ℤ) => some (ms : ℚ))
  fastestMs := t.elapsed.min?
  rows := median (t.rows.map fun r => r.map fun (n : ℤ) => (n : ℚ))
  rowsVaried := (rangeOf t.rows.reduceOption).isSome
  rowsRange := rangeOf t.rows.reduceOption

/-- the fresh entry of a query -/
def noTally (_ : ResultRow) : Tally := ⟨0, 0, [], [], []⟩

/-- `summarise_run` -/
def summariseRun (run : MeasuredRun) : List (String × Entry) :=
  (group ResultRow.queryName noTally Tally.add run.results).map fun p => (p.1, p.2.entry p.1)

/-- **The entry of a query** is made of its own executions. -/
theorem lookup_summariseRun (run : MeasuredRun) (name : String) : (summariseRun run).lookup name =
    (folded noTally Tally.add (own ResultRow.queryName name run.results)).map fun t => t.entry name := by
  have hmap : ∀ d : List (String × Tally),
      (d.map fun p => (p.1, p.2.entry p.1)).lookup name = (d.lookup name).map fun t => t.entry name := by
    intro d
    induction d with
    | nil => rfl
    | cons p rest ih =>
      obtain ⟨k, t⟩ := p
      rw [List.map_cons, Dict.lookup_cons, Dict.lookup_cons, ih]
      split_ifs with hk
      · rw [hk, Option.map_some]
      · rfl
  rw [summariseRun, hmap, lookup_group]

theorem mem_names_summariseRun {run : MeasuredRun} {name : String} :
    name ∈ (summariseRun run).map Prod.fst ↔ ∃ r ∈ run.results, r.queryName = name := by
  have hkeys : (summariseRun run).map Prod.fst = (group ResultRow.queryName noTally Tally.add run.results).map Prod.fst := by
    rw [summariseRun, List.map_map]
    rfl
  rw [hkeys, mem_keys_group]

/-! ## Two runs -/

inductive Verdict where
  | faster
  | slower
  | same
  | onlyBaseline
  | onlyCandidate
deriving DecidableEq, Repr

structure ComparedRow where
  name : String
  baseline : Option Entry
  candidate : Option Entry
  deltaMs : Option ℚ
  deltaPercent : Option ℚ
  verdict : Verdict
  statementChanged : Bool
deriving DecidableEq

/-- `_statements` -/
def statements (run : MeasuredRun) : Dict String := Dict.ofPairs (run.queries.filter fun q => q.1 ≠ "")

/-- `_edited_between` -/
def editedBetween (baseline candidate : MeasuredRun) : List String :=
  let left := statements baseline
  let right := statements candidate
  if left = [] ∨ right = [] then []
  else left.keys.filter fun name => name ∈ right.keys ∧ left.lookup name ≠ right.lookup name

/-- what a row says of its two sides -/
structure Judgement where
  verdict : Verdict
  deltaMs : Option ℚ
  deltaPercent : Option ℚ
deriving DecidableEq

/-- two medians: below the noise, and without a percentage, they are the same -/
def judge (a b : ℚ) : Judgement :=
  let percent := if a ≠ 0 then some ((b - a) / a * 100) else none
  let verdict := match percent with
    | none => .same
    | some p => if |p| < noisePercent then .same else if 0 < b - a then .slower else .faster
  ⟨verdict, some (b - a), percent⟩

/-- a side that is missing, or has no time -/
def unmatched (verdict : Verdict) : Judgement := ⟨verdict, none, none⟩

def judgeSides : Option Entry → Option Entry → Judgement
  | none, _ => unmatched .onlyCandidate
  | some _, none => unmatched .onlyBaseline
  | some a, some b =>
    match a.medianMs, b.medianMs with
    | _, none => unmatched .onlyBaseline
    | none, some _ => unmatched .onlyCandidate
    | some m, some m' => judge m m'

def rowOfQuery (left right : List (String × Entry)) (edited : List String) (name : String) : ComparedRow :=
  let a := left.lookup name
  let b := right.lookup name
  let judged := judgeSides a b
  ⟨name, a, b, judged.deltaMs, judged.deltaPercent, judged.verdict, name ∈ edited⟩

/-- `_side` -/
structure Side where
  id : ℕ
  cluster : String
  label : Option String
  state : String
  repetitions : ℤ
  startedAt : ℤ
  guardOk : Bool
deriving DecidableEq

/-- `bool((run.get("guard") or {}).get("ok"))` -/
def guardOk (run : MeasuredRun) : Bool := (run.guard.orEmptyDict.get "ok").truthy

def side (run : MeasuredRun) : Side :=
  ⟨run.id, run.cluster, run.label, run.state, run.repetitions, run.startedAt, guardOk run⟩

structure ComparedSummary where
  queries : ℕ
  faster : ℕ
  slower : ℕ
  same : ℕ
  unmatched : ℕ
  medianDeltaPercent : Option ℚ
deriving DecidableEq

structure Comparison where
  querySet : String
  baseline : Side
  candidate : Side
  rows : List ComparedRow
  summary : ComparedSummary
  warnings : List String
deriving DecidableEq

def endedWarning (label : String) (run : MeasuredRun) : List String :=
  if run.state = "SUCCEEDED" then []
  else ["The " ++ label ++ " run (#" ++ toString run.id ++ ") ended " ++ run.state ++ ", so its set may be incomplete."]

/-- `_warnings` -/
def warningsOf (baseline candidate : MeasuredRun) : List String :=
  let busy := if guardOk baseline then "candidate" else "baseline"
  let idle := if guardOk baseline then "baseline" else "candidate"
  let conditions := if guardOk baseline = guardOk candidate then [] else
    ["These two runs were taken under different conditions: the " ++ busy ++ " cluster was serving traffic and the " ++ idle ++
      " one was idle. The difference between them includes that."]
  let edited := (editedBetween baseline candidate).insertionSort (· ≤ ·)
  let changed := if edited = [] then [] else
    ["The statement changed between these two runs for: " ++ String.intercalate ", " edited ++
      ". Those rows compare two different queries, not two runs of one."]
  let counts := if baseline.repetitions = candidate.repetitions then [] else
    ["The two runs used different repetition counts (" ++ toString baseline.repetitions ++ " and " ++
      toString candidate.repetitions ++ "). The medians are still comparable, but one is a median of fewer samples."]
  conditions ++ endedWarning "baseline" baseline ++ endedWarning "candidate" candidate ++ changed ++ counts

def countVerdict (rows : List ComparedRow) (verdict : Verdict) : ℕ := rows.countP fun r => r.verdict = verdict

def summaryOf (rows : List ComparedRow) : ComparedSummary where
  queries := rows.length
  faster := countVerdict rows .faster
  slower := countVerdict rows .slower
  same := countVerdict rows .same
  unmatched := rows.countP fun r => r.verdict = .onlyBaseline ∨ r.verdict = .onlyCandidate
  medianDeltaPercent := median ((rows.filter fun r => r.deltaPercent ≠ none).map ComparedRow.deltaPercent)

/-- `sorted(set(left) | set(right))` -/
def allNames (left right : List (String × Entry)) : List String :=
  (left.map Prod.fst ++ right.map Prod.fst).dedup.insertionSort (· ≤ ·)

/-- `compare`; an error is the text of its `NotComparable` -/
def compare (baseline candidate : MeasuredRun) : Except String Comparison :=
  if baseline.querySet ≠ candidate.querySet then
    .error ("These runs used different query sets (" ++ baseline.querySet ++ " and " ++ candidate.querySet ++
      "). The same query name in two sets is not the same query.")
  else if baseline.id = candidate.id then .error "That is the same run on both sides."
  else
    let left := summariseRun baseline
    let right := summariseRun candidate
    let rows := (allNames left right).map (rowOfQuery left right (editedBetween baseline candidate))
    .ok ⟨baseline.querySet, side baseline, side candidate, rows, summaryOf rows, warningsOf baseline candidate⟩

end TrinoManagement.Bench
