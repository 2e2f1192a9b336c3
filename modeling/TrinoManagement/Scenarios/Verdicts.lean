/-
The verdicts of a comparison: any two runs of one query set, with any executions of any queries on either side.

- `Judged`: the verdict on two medians, in terms of their difference and the noise. `judge_judged`: what the code computes
  from a percentage is that.
- `medianOf`: the median of a query's own successful executions in a run; it is what the entry of the query has
  (`entry_median`). `median_eq_some_iff`: it stands in the middle of them.
- `count_verdicts`: the verdicts partition the rows.
- `verdicts_partition`: every query of either run gets one verdict, by its medians where both sides have one, and the counts
  of the summary add up.
-/
import Mathlib.Data.List.ReduceOption
import Mathlib.Tactic
import TrinoManagement.Bench.Compare

namespace TrinoManagement.Bench

open TrinoManagement.Grouped (folded own)

/-! ## Medians -/

/-- the times of a query's successful executions -/
def times (run : MeasuredRun) (name : String) : List ℕ :=
  ((own ResultRow.queryName name run.results).filter fun r => r.state ≠ "FAILED").map ResultRow.elapsedMs

def medianOf (run : MeasuredRun) (name : String) : Option ℚ := median ((times run name).map fun (ms : ℕ) => some (ms : ℚ))

theorem foldl_add_elapsed (rows : List ResultRow) (t : Tally) :
    (rows.foldl Tally.add t).elapsed = t.elapsed ++ (rows.filter fun r => r.state ≠ "FAILED").map ResultRow.elapsedMs := by
  induction rows generalizing t with
  | nil => simp
  | cons r rows ih =>
    rw [List.foldl_cons, ih, Tally.add]
    split_ifs with hfailed
    · rw [List.filter_cons_of_neg (by simpa using hfailed)]
    · rw [List.filter_cons_of_pos (by simpa using hfailed), List.map_cons, List.append_assoc]
      rfl

/-- **The median of an entry** is that of the query's successful executions. -/
theorem entry_median {run : MeasuredRun} {name : String} {e : Entry} (he : (summariseRun run).lookup name = some e) :
    e.medianMs = medianOf run name := by
  rw [lookup_summariseRun, Option.map_eq_some_iff] at he
  obtain ⟨t, ht, rfl⟩ := he
  unfold medianOf times
  cases hown : own ResultRow.queryName name run.results with
  | nil =>
    rw [hown] at ht
    cases ht
  | cons r rows =>
    rw [hown] at ht
    obtain rfl := Option.some.inj ht
    rw [Tally.entry, foldl_add_elapsed]
    rfl

/-- what stands in the middle of the values in order, or half way between the two in the middle -/
def IsMedian (values : List ℚ) (m : ℚ) : Prop :=
  ∃ low high, low.length = high.length ∧
    (((low ++ m :: high).Perm values ∧ (low ++ m :: high).Pairwise (· ≤ ·)) ∨
      ∃ x y, m = (x + y) / 2 ∧ (low ++ x :: y :: high).Perm values ∧ (low ++ x :: y :: high).Pairwise (· ≤ ·))

theorem inOrder_some (values : List ℚ) : inOrder (values.map some) = values.insertionSort (· ≤ ·) := by
  rw [inOrder, List.reduceOption, List.filterMap_map, Function.id_comp, List.filterMap_some]

/-- values have one order -/
theorem insertionSort_eq {values sorted : List ℚ} (hperm : sorted.Perm values) (hsorted : sorted.Pairwise (· ≤ ·)) :
    values.insertionSort (· ≤ ·) = sorted :=
  ((List.perm_insertionSort _ values).trans hperm.symm).eq_of_pairwise' (List.pairwise_insertionSort _ values) hsorted

theorem middleOf_one {low high : List ℚ} {m : ℚ} (hlength : low.length = high.length) : middleOf (low ++ m :: high) = m := by
  have hhalf : (low ++ m :: high).length / 2 = low.length := by
    rw [List.length_append, List.length_cons]
    omega
  have hodd : (low ++ m :: high).length % 2 = 1 := by
    rw [List.length_append, List.length_cons]
    omega
  rw [middleOf, hhalf, if_pos hodd]
  simp

theorem middleOf_two {low high : List ℚ} {x y : ℚ} (hlength : low.length = high.length) :
    middleOf (low ++ x :: y :: high) = (x + y) / 2 := by
  have hhalf : (low ++ x :: y :: high).length / 2 = low.length + 1 := by
    simp only [List.length_append, List.length_cons]
    omega
  have heven : (low ++ x :: y :: high).length % 2 ≠ 1 := by
    simp only [List.length_append, List.length_cons]
    omega
  rw [middleOf, hhalf, if_neg heven, Nat.add_sub_cancel]
  simp

/-- a list has one element in its middle, or two -/
theorem exists_middle {ordered : List ℚ} (hne : ordered ≠ []) : ∃ low high : List ℚ, low.length = high.length ∧
    ((∃ m, ordered = low ++ m :: high) ∨ ∃ x y, ordered = low ++ x :: y :: high) := by
  have hpos := List.length_pos_of_ne_nil hne
  have hsplit := List.take_append_drop ((ordered.length - 1) / 2) ordered
  have hlow : (ordered.take ((ordered.length - 1) / 2)).length = (ordered.length - 1) / 2 := by
    rw [List.length_take]
    omega
  have hrest : (ordered.drop ((ordered.length - 1) / 2)).length = ordered.length - (ordered.length - 1) / 2 := List.length_drop
  generalize ordered.take ((ordered.length - 1) / 2) = low at hsplit hlow
  rcases hdrop : ordered.drop ((ordered.length - 1) / 2) with _ | ⟨x, _ | ⟨y, high⟩⟩
  · rw [hdrop, List.length_nil] at hrest
    omega
  · rw [hdrop] at hsplit hrest
    refine ⟨low, [], ?_, .inl ⟨x, hsplit.symm⟩⟩
    rw [List.length_singleton] at hrest
    rw [hlow, List.length_nil]
    omega
  · rw [hdrop] at hsplit hrest
    simp only [List.length_cons] at hrest
    by_cases hodd : ordered.length % 2 = 1
    · refine ⟨low, y :: high, ?_, .inl ⟨x, hsplit.symm⟩⟩
      rw [hlow, List.length_cons]
      omega
    · refine ⟨low, high, ?_, .inr ⟨x, y, hsplit.symm⟩⟩
      rw [hlow]
      omega

/-- **The median** of the code is what stands in the middle. -/
theorem median_eq_some_iff {values : List ℚ} {m : ℚ} : median (values.map some) = some m ↔ IsMedian values m := by
  unfold median
  rw [inOrder_some]
  dsimp only
  constructor
  · intro h
    split_ifs at h with hnil
    have hperm := List.perm_insertionSort (· ≤ ·) values
    have hsorted := List.pairwise_insertionSort (· ≤ ·) values
    obtain ⟨low, high, hlength, ⟨m', hone⟩ | ⟨x, y, htwo⟩⟩ := exists_middle hnil
    · rw [hone] at h hperm hsorted
      rw [middleOf_one hlength] at h
      obtain rfl := Option.some.inj h
      exact ⟨low, high, hlength, .inl ⟨hperm, hsorted⟩⟩
    · rw [htwo] at h hperm hsorted
      rw [middleOf_two hlength] at h
      obtain rfl := Option.some.inj h
      exact ⟨low, high, hlength, .inr ⟨x, y, rfl, hperm, hsorted⟩⟩
  · intro h
    obtain ⟨low, high, hlength, ⟨hperm, hsorted⟩ | ⟨x, y, rfl, hperm, hsorted⟩⟩ := h
    · rw [insertionSort_eq hperm hsorted, if_neg (by simp), middleOf_one hlength]
    · rw [insertionSort_eq hperm hsorted, if_neg (by simp), middleOf_two hlength]

/-- the median time of a query in a run -/
def MedianTime (run : MeasuredRun) (name : String) (m : ℚ) : Prop :=
  IsMedian ((times run name).map fun (ms : ℕ) => (ms : ℚ)) m

theorem medianOf_eq_some_iff {run : MeasuredRun} {name : String} {m : ℚ} :
    medianOf run name = some m ↔ MedianTime run name m := by
  rw [MedianTime, ← median_eq_some_iff, medianOf, List.map_map]
  rfl

theorem MedianTime.nonneg {run : MeasuredRun} {name : String} {m : ℚ} (h : MedianTime run name m) : 0 ≤ m := by
  have hpos : ∀ {sorted : List ℚ}, sorted.Perm ((times run name).map fun (ms : ℕ) => (ms : ℚ)) → ∀ x ∈ sorted, 0 ≤ x := by
    intro sorted hperm x hx
    obtain ⟨n, -, rfl⟩ := List.mem_map.1 (hperm.subset hx)
    exact n.cast_nonneg
  obtain ⟨low, high, -, ⟨hperm, -⟩ | ⟨x, y, rfl, hperm, -⟩⟩ := h
  · exact hpos hperm m (by simp)
  · have hx := hpos hperm x (by simp)
    have hy := hpos hperm y (by simp)
    positivity

/-! ## Verdicts -/

/-- later by the noise at least, which is a share of the baseline time -/
def Slower (m₀ m₁ : ℚ) : Prop := m₀ < m₁ ∧ noisePercent / 100 * m₀ ≤ m₁ - m₀

def Faster (m₀ m₁ : ℚ) : Prop := m₁ < m₀ ∧ noisePercent / 100 * m₀ ≤ m₀ - m₁

/-- the verdict on two medians; without a baseline time there is nothing to tell -/
structure Judged (m₀ m₁ : ℚ) (verdict : Verdict) : Prop where
  slower : m₀ ≠ 0 → (verdict = .slower ↔ Slower m₀ m₁)
  faster : m₀ ≠ 0 → (verdict = .faster ↔ Faster m₀ m₁)
  same : m₀ ≠ 0 → (verdict = .same ↔ ¬Slower m₀ m₁ ∧ ¬Faster m₀ m₁)
  zero : m₀ = 0 → verdict = .same

/-- the percentage is below the noise iff the difference is -/
theorem abs_percent_lt {m₀ m₁ : ℚ} (hpos : 0 < m₀) :
    |(m₁ - m₀) / m₀ * 100| < noisePercent ↔ |m₁ - m₀| < noisePercent / 100 * m₀ := by
  have hscale : |(m₁ - m₀) / m₀ * 100| = |m₁ - m₀| / m₀ * 100 := by
    rw [abs_mul, abs_div, abs_of_pos hpos]
    norm_num
  rw [hscale, ← lt_div_iff₀ (by norm_num : (0 : ℚ) < 100), div_lt_iff₀ hpos]

/-- **The verdict** is the one its terms say, for times that are not negative. -/
theorem judge_judged {m₀ m₁ : ℚ} (hnonneg : 0 ≤ m₀) : Judged m₀ m₁ (judge m₀ m₁).verdict := by
  by_cases hzero : m₀ = 0
  · have hjudge : (judge m₀ m₁).verdict = .same := by simp [judge, hzero]
    exact ⟨fun h => absurd hzero h, fun h => absurd hzero h, fun h => absurd hzero h, fun _ => hjudge⟩
  have hpos : 0 < m₀ := lt_of_le_of_ne hnonneg (Ne.symm hzero)
  have hnoise : 0 < noisePercent / 100 * m₀ := mul_pos (by norm_num [noisePercent]) hpos
  have hjudge : (judge m₀ m₁).verdict =
      if |m₁ - m₀| < noisePercent / 100 * m₀ then .same else if 0 < m₁ - m₀ then .slower else .faster := by
    simp only [judge, if_pos hzero, abs_percent_lt hpos]
  rw [hjudge]
  split_ifs with hnear hlater
  · obtain ⟨hlow, hhigh⟩ := abs_lt.1 hnear
    have hslower : ¬Slower m₀ m₁ := fun h => absurd h.2 (by linarith)
    have hfaster : ¬Faster m₀ m₁ := fun h => absurd h.2 (by linarith)
    exact ⟨fun _ => iff_of_false (by decide) hslower, fun _ => iff_of_false (by decide) hfaster,
      fun _ => iff_of_true rfl ⟨hslower, hfaster⟩, fun h => absurd h hzero⟩
  · rw [abs_of_pos hlater, not_lt] at hnear
    have hslower : Slower m₀ m₁ := ⟨sub_pos.1 hlater, hnear⟩
    have hfaster : ¬Faster m₀ m₁ := fun h => absurd h.1 (sub_pos.1 hlater).not_gt
    exact ⟨fun _ => iff_of_true rfl hslower, fun _ => iff_of_false (by decide) hfaster,
      fun _ => iff_of_false (by decide) fun h => h.1 hslower, fun h => absurd h hzero⟩
  · rw [abs_of_nonpos (not_lt.1 hlater), neg_sub, not_lt] at hnear
    have hfaster : Faster m₀ m₁ := ⟨sub_pos.1 (lt_of_lt_of_le hnoise hnear), hnear⟩
    have hslower : ¬Slower m₀ m₁ := fun h => absurd h.1 hfaster.1.not_gt
    exact ⟨fun _ => iff_of_false (by decide) hslower, fun _ => iff_of_true rfl hfaster,
      fun _ => iff_of_false (by decide) fun h => h.2 hfaster, fun h => absurd h hzero⟩

/-! ## Rows -/

section Rows

variable {baseline candidate : MeasuredRun} {name : String} {edited : List String}

/-- a query with no entry has no times -/
theorem medianOf_of_lookup_none {run : MeasuredRun} (h : (summariseRun run).lookup name = none) :
    medianOf run name = none := by
  have hown : own ResultRow.queryName name run.results = [] := by
    rw [lookup_summariseRun, Option.map_eq_none_iff] at h
    cases hown : own ResultRow.queryName name run.results with
    | nil => rfl
    | cons r rows =>
      rw [hown] at h
      cases h
  simp [medianOf, times, hown, median, inOrder]

/-- with a median on both sides the verdict is that on the medians -/
theorem rowOfQuery_judge {m₀ m₁ : ℚ} (h₀ : medianOf baseline name = some m₀) (h₁ : medianOf candidate name = some m₁) :
    (rowOfQuery (summariseRun baseline) (summariseRun candidate) edited name).verdict = (judge m₀ m₁).verdict := by
  cases ha : (summariseRun baseline).lookup name with
  | none => rw [medianOf_of_lookup_none ha] at h₀; cases h₀
  | some a =>
    cases hb : (summariseRun candidate).lookup name with
    | none => rw [medianOf_of_lookup_none hb] at h₁; cases h₁
    | some b =>
      have hma := (entry_median ha).trans h₀
      have hmb := (entry_median hb).trans h₁
      simp only [rowOfQuery, judgeSides, ha, hb, hma, hmb]

end Rows

/-! ## All of them -/

/-- the verdicts are five, and the last two are those of an unmatched query -/
theorem count_verdicts (rows : List ComparedRow) :
    (summaryOf rows).faster + (summaryOf rows).slower + (summaryOf rows).same + (summaryOf rows).unmatched = rows.length := by
  simp only [summaryOf, countVerdict]
  induction rows with
  | nil => rfl
  | cons r rows ih =>
    simp only [List.countP_cons, List.length_cons, ← ih]
    cases r.verdict <;> simp <;> omega

/-- the names of the queries that a run executed -/
def queryNames (run : MeasuredRun) : List String := run.results.map ResultRow.queryName

theorem mem_allNames {baseline candidate : MeasuredRun} {name : String} :
    name ∈ allNames (summariseRun baseline) (summariseRun candidate) ↔
      name ∈ queryNames baseline ∨ name ∈ queryNames candidate := by
  rw [allNames, (List.perm_insertionSort _ _).mem_iff, List.mem_dedup, List.mem_append, mem_names_summariseRun,
    mem_names_summariseRun, queryNames, queryNames, List.mem_map, List.mem_map]

theorem nodup_allNames (left right : List (String × Entry)) : (allNames left right).Nodup :=
  (List.perm_insertionSort _ _).nodup_iff.2 (List.nodup_dedup _)

/-- what a comparison says of two runs -/
structure Partitions (baseline candidate : MeasuredRun) (c : Comparison) : Prop where
  /-- each query of either run has one row -/
  once : (c.rows.map ComparedRow.name).Nodup
  all : ∀ name, name ∈ c.rows.map ComparedRow.name ↔ name ∈ queryNames baseline ∨ name ∈ queryNames candidate
  judged : ∀ row ∈ c.rows, ∀ m₀ m₁, MedianTime baseline row.name m₀ → MedianTime candidate row.name m₁ →
    Judged m₀ m₁ row.verdict
  queries : c.summary.queries = c.rows.length
  adds_up : c.summary.faster + c.summary.slower + c.summary.same + c.summary.unmatched = c.summary.queries

/-- **Every query gets one verdict**, by its medians where it has two, and the counts add up. -/
theorem verdicts_partition {baseline candidate : MeasuredRun} (hset : baseline.querySet = candidate.querySet)
    (hruns : baseline.id ≠ candidate.id) : ∃ c, compare baseline candidate = .ok c ∧ Partitions baseline candidate c := by
  refine ⟨_, by rw [compare, if_neg (not_not.2 hset), if_neg hruns], ?_⟩
  set names := allNames (summariseRun baseline) (summariseRun candidate) with hnames
  set rows := names.map (rowOfQuery (summariseRun baseline) (summariseRun candidate) (editedBetween baseline candidate))
    with hrows
  have hname : rows.map ComparedRow.name = names := by
    rw [hrows, List.map_map]
    exact List.map_id names
  refine ⟨?_, ?_, ?_, rfl, count_verdicts rows⟩
  · rw [hname]
    exact nodup_allNames _ _
  · intro name
    rw [hname]
    exact mem_allNames
  · intro row hrow m₀ m₁ h₀ h₁
    obtain ⟨name, -, rfl⟩ := List.mem_map.1 hrow
    change MedianTime baseline name m₀ at h₀
    change MedianTime candidate name m₁ at h₁
    rw [rowOfQuery_judge (medianOf_eq_some_iff.2 h₀) (medianOf_eq_some_iff.2 h₁)]
    exact judge_judged h₀.nonneg

/-! ## Two runs of three queries -/

def quietRun (id : ℕ) (results : List ResultRow) : MeasuredRun :=
  ⟨id, "c1", "s", none, "SUCCEEDED", 2, 0, .dict [("ok", .bool true)], [], results⟩

def took (name : String) (ms : ℕ) : ResultRow := ⟨name, "SUCCEEDED", ms, none, none⟩

/-- from 100 to 105 is slower, nothing is slower than no time, and one query ran on one side only -/
def firstRun : MeasuredRun := quietRun 1 [took "q1" 90, took "q1" 110, took "q2" 0, ⟨"q3", "FAILED", 7, none, none⟩]

def secondRun : MeasuredRun := quietRun 2 [took "q1" 105, took "q2" 40, took "q3" 7]

theorem verdicts_partition_three : ∃ c, compare firstRun secondRun = .ok c ∧ Partitions firstRun secondRun c :=
  verdicts_partition rfl (by decide)

example : ((compare firstRun secondRun).toOption.map fun c => c.rows.map ComparedRow.verdict) =
    some [.slower, .same, .onlyCandidate] := by
  decide +kernel

end TrinoManagement.Bench
