/-
The table of runs, `tms/bench/store.py`: what it holds after any operations, and which of its runs each store calls active.

The store in memory filters the whole table, the one in Postgres a page of the latest fifty.
- `RunTable`: the rows with what their keys keep. `runStep`: one operation.
- `memoryActive`, `postgresActive`: the two readings.
- `mem_take_iff`: what is on a page of an ordered list. `postgresActive_perm_iff`: the readings agree iff every run that is
  running is on the page.
-/
import Mathlib.Tactic
import TrinoManagement.Bench.Service

namespace TrinoManagement.Bench

/-! ## The table -/

inductive StoredState where
  | running
  | succeeded
  | failed
  | aborted
  | unknown
deriving DecidableEq, Repr

/-- a row of `benchmark_run`: its key, its start and its state now, and what it was created with -/
structure StoredRun where
  id : ℕ
  startedAt : ℤ
  state : StoredState
  run : BenchRun
deriving DecidableEq

def StoredRun.running (r : StoredRun) : Bool := r.state = .running

/-- a row as a reader sees it -/
def StoredRun.shown (r : StoredRun) : BenchRun := { r.run with running := r.running }

/-- the rows in the order in which they came, under keys of a sequence -/
structure RunTable where
  rows : List StoredRun
  nextId : ℕ
  below : ∀ r ∈ rows, r.id < nextId
  nodup : (rows.map StoredRun.id).Nodup

def RunTable.empty : RunTable := ⟨[], 0, by simp, by simp⟩

inductive RunOp where
  | create (run : BenchRun) (startedAt : ℤ)
  | finish (id : ℕ) (state : StoredState)
  | reconcile
deriving DecidableEq

/-- the partial unique index -/
def RunTable.busy (t : RunTable) (cluster : String) : Bool := t.rows.any fun r => r.running && r.run.cluster == cluster

/-- a change of rows that keeps their keys -/
def RunTable.change (t : RunTable) (f : StoredRun → StoredRun) (hf : ∀ r, (f r).id = r.id) : RunTable where
  rows := t.rows.map f
  nextId := t.nextId
  below := by
    intro r' hr'
    obtain ⟨r, hr, rfl⟩ := List.mem_map.1 hr'
    rw [hf]
    exact t.below r hr
  nodup := by
    have hids : (t.rows.map f).map StoredRun.id = t.rows.map StoredRun.id := by
      rw [List.map_map]
      exact List.map_congr_left fun r _ => hf r
    rw [hids]
    exact t.nodup

def RunTable.insert (t : RunTable) (run : BenchRun) (startedAt : ℤ) : RunTable where
  rows := t.rows ++ [⟨t.nextId, startedAt, .running, run⟩]
  nextId := t.nextId + 1
  below := by
    intro r hr
    rcases List.mem_append.1 hr with hr | hr
    · exact Nat.lt_succ_of_lt (t.below r hr)
    · obtain rfl := List.mem_singleton.1 hr
      exact Nat.lt_succ_self _
  nodup := by
    rw [List.map_append, List.map_singleton]
    refine List.nodup_append.2 ⟨t.nodup, List.nodup_singleton _, ?_⟩
    intro id hid id' hid' heq
    obtain ⟨r, hr, rfl⟩ := List.mem_map.1 hid
    obtain rfl := List.mem_singleton.1 hid'
    exact absurd heq (t.below r hr).ne

def finishRow (id : ℕ) (state : StoredState) (r : StoredRun) : StoredRun := if r.id = id then { r with state := state } else r

/-- `reconcile_orphans` -/
def reconcileRow (r : StoredRun) : StoredRun := if r.running then { r with state := .unknown } else r

/-- one operation of the store; a refused `create` uses up its key -/
def runStep (t : RunTable) : RunOp → RunTable
  | .create run startedAt =>
    if t.busy run.cluster then ⟨t.rows, t.nextId + 1, fun r hr => Nat.lt_succ_of_lt (t.below r hr), t.nodup⟩
    else t.insert run startedAt
  | .finish id state => t.change (finishRow id state) fun r => by unfold finishRow; split_ifs <;> rfl
  | .reconcile => t.change reconcileRow fun r => by unfold reconcileRow; split_ifs <;> rfl

/-! ## The readings -/

/-- `ORDER BY started_at DESC, id DESC` -/
def notOlder (r s : StoredRun) : Bool := s.startedAt < r.startedAt || (s.startedAt == r.startedAt && decide (s.id ≤ r.id))

/-- `PostgresBenchmarkRepository.recent` -/
def recentRows (rows : List StoredRun) (limit : ℕ) (cluster querySet : Option String) : List StoredRun :=
  let kept := rows.filter fun r =>
    cluster.all (fun c => c = "" ∨ r.run.cluster = c) && querySet.all (fun q => q = "" ∨ r.run.querySet = q)
  (kept.insertionSort fun r s => notOlder r s = true).take limit

/-- `PostgresBenchmarkRepository.active` -/
def postgresActive (rows : List StoredRun) (cluster : Option String) : List StoredRun :=
  (recentRows rows 50 cluster none).filter StoredRun.running

/-- `InMemoryBenchmarkRepository.active` -/
def memoryActive (rows : List StoredRun) (cluster : Option String) : List StoredRun :=
  rows.filter fun r => r.running && cluster.all fun c => r.run.cluster = c

/-! ## A page of an ordered list -/

section Page

variable {α β : Type} [LinearOrder β] {key : α → β} {l : List α} {a : α} {n : ℕ}

/-- **The page** of a list in falling order has what fewer entries come before. -/
theorem mem_take_iff (hsorted : l.Pairwise fun a b => key b < key a) (ha : a ∈ l) :
    a ∈ l.take n ↔ l.countP (fun b => key a < key b) < n := by
  induction l generalizing n with
  | nil => cases ha
  | cons b l ih =>
    obtain ⟨hfirst, hrest⟩ := List.pairwise_cons.1 hsorted
    cases n with
    | zero => simp
    | succ n =>
      rw [List.take_succ_cons, List.mem_cons, List.countP_cons]
      by_cases hab : a = b
      · subst hab
        have hnone : l.countP (fun b => key a < key b) = 0 := by
          rw [List.countP_eq_zero]
          intro b hb
          simpa using (hfirst b hb).le
        rw [hnone]
        simp
      · have ha := (List.mem_cons.1 ha).resolve_left hab
        rw [if_pos (by simpa using hfirst a ha), ih hrest ha]
        simp only [hab, false_or]
        omega

/-- a page has all of what a list has of some kind iff each of that kind has few before it -/
theorem filter_take_perm_iff {p : α → Bool} (hsorted : l.Pairwise fun a b => key b < key a) :
    ((l.take n).filter p).Perm (l.filter p) ↔ ∀ a ∈ l, p a = true → l.countP (fun b => key a < key b) < n := by
  constructor
  · intro hperm a ha hp
    have hmem := hperm.mem_iff.2 (List.mem_filter.2 ⟨ha, hp⟩)
    exact (mem_take_iff hsorted ha).1 (List.mem_filter.1 hmem).1
  · intro hall
    have hdropped : (l.drop n).filter p = [] := by
      rw [List.filter_eq_nil_iff]
      intro a ha hp
      have htaken := (mem_take_iff hsorted (List.mem_of_mem_drop ha)).2 (hall a (List.mem_of_mem_drop ha) hp)
      -- it would be in both parts
      rw [← List.take_append_drop n l] at hsorted
      exact lt_irrefl _ ((List.pairwise_append.1 hsorted).2.2 a htaken a ha)
    have hsplit := congrArg (List.filter p) (List.take_append_drop n l)
    rw [List.filter_append, hdropped, List.append_nil] at hsplit
    rw [hsplit]

end Page

/-! ## The readings compared -/

/-- what the table is ordered by -/
def StoredRun.rank (r : StoredRun) : ℤ ×ₗ ℕ := toLex (r.startedAt, r.id)

theorem notOlder_iff {r s : StoredRun} : notOlder r s = true ↔ s.rank ≤ r.rank := by
  simp [notOlder, StoredRun.rank, Prod.Lex.toLex_le_toLex]

/-- the runs that started after one -/
def laterThan (rows : List StoredRun) (r : StoredRun) : ℕ := rows.countP fun s => r.rank < s.rank

theorem rank_injOn (t : RunTable) {r s : StoredRun} (hr : r ∈ t.rows) (hs : s ∈ t.rows) (h : r.rank = s.rank) : r = s := by
  have hid : r.id = s.id := (Prod.mk.inj (toLex.injective h)).2
  exact List.inj_on_of_nodup_map t.nodup hr hs hid

/-- the table in the order of a page: no two rows are level -/
theorem pairwise_ordered (t : RunTable) :
    (t.rows.insertionSort fun r s => notOlder r s = true).Pairwise fun r s => s.rank < r.rank := by
  have htotal : Std.Total fun r s : StoredRun => notOlder r s = true :=
    ⟨fun r s => by rw [notOlder_iff, notOlder_iff]; exact le_total _ _⟩
  have htrans : IsTrans StoredRun fun r s => notOlder r s = true :=
    ⟨fun r s u hrs hsu => notOlder_iff.2 ((notOlder_iff.1 hsu).trans (notOlder_iff.1 hrs))⟩
  have hperm := List.perm_insertionSort (fun r s : StoredRun => notOlder r s = true) t.rows
  have hle := List.pairwise_insertionSort (fun r s : StoredRun => notOlder r s = true) t.rows
  have hne : (t.rows.insertionSort fun r s => notOlder r s = true).Pairwise fun r s => r ≠ s :=
    hperm.nodup_iff.2 (List.Nodup.of_map _ t.nodup)
  refine (hle.and hne).imp_of_mem ?_
  intro r s hr hs hboth
  refine lt_of_le_of_ne (notOlder_iff.1 hboth.1) ?_
  intro heq
  exact hboth.2 (rank_injOn t (hperm.mem_iff.1 hs) (hperm.mem_iff.1 hr) heq).symm

/-- **The readings agree** iff fewer than fifty runs started after each that is running. -/
theorem postgresActive_perm_iff (t : RunTable) : (postgresActive t.rows none).Perm (memoryActive t.rows none) ↔
    ∀ r ∈ t.rows, r.running = true → laterThan t.rows r < 50 := by
  have hmemory : memoryActive t.rows none = t.rows.filter StoredRun.running := by
    unfold memoryActive
    exact List.filter_congr fun r _ => by simp
  have hall : (t.rows.filter fun r => (none : Option String).all (fun c => c = "" ∨ r.run.cluster = c) &&
      (none : Option String).all fun q => q = "" ∨ r.run.querySet = q) = t.rows :=
    List.filter_eq_self.2 fun r _ => rfl
  have hperm := List.perm_insertionSort (fun r s : StoredRun => notOlder r s = true) t.rows
  have hpage := @filter_take_perm_iff StoredRun _ _ StoredRun.rank _ 50 StoredRun.running (pairwise_ordered t)
  have hwhole := hperm.filter StoredRun.running
  rw [postgresActive, recentRows, hall, hmemory]
  constructor
  · intro h r hr hrunning
    have hlater := hpage.1 (h.trans hwhole.symm) r (hperm.mem_iff.2 hr) hrunning
    rwa [hperm.countP_eq] at hlater
  · intro h
    refine (hpage.2 ?_).trans hwhole
    intro r hr hrunning
    rw [hperm.countP_eq]
    exact h r (hperm.mem_iff.1 hr) hrunning

end TrinoManagement.Bench
