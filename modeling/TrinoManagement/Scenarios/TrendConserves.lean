/-
What a trend conserves: any history, any choice of bucket, times equal, missing or out of order.

- `cell_of_mem`: a cell holds the executions of its cluster and its bucket. `slot_at`: a bucket is dated by the earliest of
  its own.
- `points_perm`: the points of all series are the cells, each once.
- `pointsOf_increasing`, `ordered_pairwise`: a series goes forward, on an axis in the order of the earliest times.
- `trend_conserves`: every execution that counts is in one point; the executions add up; a point lies at its bucket's place;
  a series goes forward; the axis is in the order of the earliest times.
-/
import Mathlib.Data.List.Lex
import Mathlib.Data.String.Basic
import Mathlib.Data.List.ReduceOption
import Mathlib.Tactic
import TrinoManagement.Bench.Trend

namespace TrinoManagement.Trend

open TrinoManagement.Bench (inOrder)
open TrinoManagement.Grouped (flatMap_gather_perm folded gather group mem_gather mem_group mem_keys_group nodup_group own
  sum_group)

variable {T : Type} {clock : Clock T} {bucket : Bucket} {rows : List (Counted T)}

/-! ## Cells -/

theorem foldl_cell (rows : List (Counted T)) (cell : Cell T) :
    (rows.foldl (Cell.add clock) cell).cluster = cell.cluster ∧ (rows.foldl (Cell.add clock) cell).bucket = cell.bucket ∧
      (rows.foldl (Cell.add clock) cell).elapsed = cell.elapsed ++ rows.map Counted.elapsedMs := by
  induction rows generalizing cell with
  | nil => exact ⟨rfl, rfl, (List.append_nil _).symm⟩
  | cons row rows ih =>
    obtain ⟨hcluster, hbucket, helapsed⟩ := ih (cell.add clock row)
    exact ⟨hcluster, hbucket, helapsed.trans (List.append_assoc ..)⟩

/-- what is filed under a key is the cell of that cluster and that bucket, with the times of its own executions -/
theorem cell_of_mem {k : String × String} {cell : Cell T}
    (h : (k, cell) ∈ group (cellKey clock bucket) (freshCell clock bucket) (Cell.add clock) rows) :
    (cell.cluster, cell.bucket) = k ∧ cell.elapsed = (own (cellKey clock bucket) k rows).map Counted.elapsedMs := by
  rw [mem_group] at h
  cases hown : own (cellKey clock bucket) k rows with
  | nil =>
    rw [hown] at h
    cases h
  | cons row rest =>
    rw [hown] at h
    obtain rfl := Option.some.inj h
    obtain ⟨hcluster, hbucket, helapsed⟩ := @foldl_cell T clock (row :: rest) (freshCell clock bucket row)
    have hrow : cellKey clock bucket row = k := by
      have hmem : row ∈ own (cellKey clock bucket) k rows := hown ▸ List.mem_cons_self
      simpa using (List.mem_filter.1 hmem).2
    refine ⟨?_, helapsed.trans (List.nil_append _)⟩
    rw [hcluster, hbucket, ← hrow]
    rfl

/-- the keys of the cells -/
theorem keys_cellsOf : (cellsOf clock bucket rows).map (fun cell => (cell.cluster, cell.bucket)) =
    (group (cellKey clock bucket) (freshCell clock bucket) (Cell.add clock) rows).map Prod.fst := by
  rw [cellsOf, List.map_map]
  exact List.map_congr_left fun p hp => (cell_of_mem hp).1

theorem cellsOf_elapsed {cell : Cell T} (h : cell ∈ cellsOf clock bucket rows) :
    cell.elapsed = (own (cellKey clock bucket) (cell.cluster, cell.bucket) rows).map Counted.elapsedMs := by
  obtain ⟨⟨k, cell⟩, hp, rfl⟩ := List.mem_map.1 h
  obtain ⟨hkey, helapsed⟩ := cell_of_mem hp
  rw [helapsed, hkey]

/-- the times in the cells are as many as the executions -/
theorem sum_elapsed : ((cellsOf clock bucket rows).map fun cell => cell.elapsed.length).sum = rows.length := by
  have hsum := @sum_group _ _ _ _ (cellKey clock bucket) (freshCell clock bucket) (Cell.add clock)
    (fun cell => cell.elapsed.length) (fun _ => 1) (fun _ => rfl) (fun _ _ => List.length_append) rows
  rw [cellsOf, List.map_map]
  refine hsum.trans ?_
  simp

theorem summarise_count (values : List ℚ) : (summarise (values.map some)).count = values.length := by
  have hall : (values.map some).reduceOption = values := by
    induction values with
    | nil => rfl
    | cons v values ih => rw [List.map_cons, List.reduceOption_cons_of_some, ih]
  have hlen : (inOrder (values.map some)).length = values.length := by
    rw [inOrder, List.length_insertionSort, hall]
  unfold summarise
  dsimp only
  split_ifs with hnil
  · rw [hnil] at hlen
    exact hlen
  · exact hlen

/-! ## The axis -/

/-- the earliest of some times -/
def first : Option ℤ → Option ℤ → Option ℤ
  | a, none => a
  | none, some b => some b
  | some a, some b => some (min a b)

theorem earlier_at (old new : Reading T) : (earlier clock old new).at clock = first (old.at clock) (new.at clock) := by
  unfold earlier
  cases hold : old.at clock with
  | none =>
    cases hnew : new.at clock with
    | none => simp [hold, first]
    | some b => simp [hnew, first]
  | some a =>
    cases hnew : new.at clock with
    | none => simp [hold, first]
    | some b =>
      dsimp only
      split_ifs with hlt
      · rw [hnew, first, min_eq_right hlt.le]
      · rw [hold, first, min_eq_left (not_lt.1 hlt)]

theorem first_self (a : Option ℤ) : first a a = a := by
  cases a with
  | none => rfl
  | some x => simp [first]

theorem first_none (a : Option ℤ) : first none a = a := by
  cases a <;> rfl

theorem foldl_first_some (times : List (Option ℤ)) (x : ℤ) :
    times.foldl first (some x) = some (times.reduceOption.foldl min x) := by
  induction times generalizing x with
  | nil => rfl
  | cons t times ih =>
    cases t with
    | none => exact ih x
    | some y => exact ih (min x y)

/-- one time after the other, the earliest of all -/
theorem foldl_first (times : List (Option ℤ)) : times.foldl first none = times.reduceOption.min? := by
  induction times with
  | nil => rfl
  | cons t times ih =>
    cases t with
    | none => exact ih
    | some x =>
      rw [List.foldl_cons, first_none, foldl_first_some]
      exact List.min?_cons'.symm

/-- the earliest start in a bucket -/
def earliest (clock : Clock T) (bucket : Bucket) (rows : List (Counted T)) (k : String) : Option ℤ :=
  ((own (bucketKey clock bucket) k rows).map fun row => row.startedAt.at clock).reduceOption.min?

theorem foldl_slot (rows : List (Counted T)) (slot : Slot T) :
    (rows.foldl (Slot.add clock) slot).key = slot.key ∧ (rows.foldl (Slot.add clock) slot).startedAt.at clock =
      (rows.map fun row => row.startedAt.at clock).foldl first (slot.startedAt.at clock) := by
  induction rows generalizing slot with
  | nil => exact ⟨rfl, rfl⟩
  | cons row rows ih =>
    obtain ⟨hkey, hat⟩ := ih (slot.add clock row)
    refine ⟨hkey, ?_⟩
    rw [List.foldl_cons, hat, List.map_cons, List.foldl_cons, ← earlier_at]
    rfl

/-- **A bucket is dated** by the earliest of its own executions. -/
theorem slot_at {k : String} {slot : Slot T}
    (h : (k, slot) ∈ group (bucketKey clock bucket) (freshSlot clock bucket) (Slot.add clock) rows) :
    slot.key = k ∧ slot.startedAt.at clock = earliest clock bucket rows k := by
  rw [mem_group] at h
  unfold earliest
  cases hown : own (bucketKey clock bucket) k rows with
  | nil =>
    rw [hown] at h
    cases h
  | cons row rest =>
    rw [hown] at h
    obtain rfl := Option.some.inj h
    obtain ⟨hkey, hat⟩ := @foldl_slot T clock (row :: rest) (freshSlot clock bucket row)
    have hrow : bucketKey clock bucket row = k := by
      have hmem : row ∈ own (bucketKey clock bucket) k rows := hown ▸ List.mem_cons_self
      simpa using (List.mem_filter.1 hmem).2
    refine ⟨hkey.trans hrow, ?_⟩
    -- the first row is read twice
    rw [hat, ← foldl_first, List.map_cons, List.foldl_cons, List.foldl_cons, first_none]
    exact congrArg (List.foldl first · _) (first_self _)

theorem keys_axisOf : (axisOf clock bucket rows).map Slot.key =
    (group (bucketKey clock bucket) (freshSlot clock bucket) (Slot.add clock) rows).map Prod.fst := by
  rw [axisOf, List.map_map]
  exact List.map_congr_left fun p hp => (slot_at hp).1

theorem axisOf_at {slot : Slot T} (h : slot ∈ axisOf clock bucket rows) :
    slot.startedAt.at clock = earliest clock bucket rows slot.key := by
  obtain ⟨⟨k, slot⟩, hp, rfl⟩ := List.mem_map.1 h
  obtain ⟨hkey, hat⟩ := slot_at hp
  rw [hat, hkey]

theorem ordered_perm : (ordered clock bucket rows).Perm (axisOf clock bucket rows) := List.perm_insertionSort _ _

theorem nodup_ordered : ((ordered clock bucket rows).map Slot.key).Nodup := by
  rw [(ordered_perm.map Slot.key).nodup_iff, keys_axisOf]
  exact nodup_group rows

theorem mem_ordered {k : String} :
    k ∈ (ordered clock bucket rows).map Slot.key ↔ ∃ row ∈ rows, bucketKey clock bucket row = k := by
  rw [(ordered_perm.map Slot.key).mem_iff, keys_axisOf, mem_keys_group]

/-- a time before another, or any time before none -/
def NotLater : Option ℤ → Option ℤ → Prop
  | some a, some b => a ≤ b
  | some _, none => True
  | none, some _ => False
  | none, none => True

theorem notLater_of_le {s t : Slot T} (h : s.le clock t = true) :
    NotLater (s.startedAt.at clock) (t.startedAt.at clock) := by
  unfold Slot.le at h
  cases hs : s.startedAt.at clock with
  | none =>
    cases ht : t.startedAt.at clock with
    | none => trivial
    | some b => rw [hs, ht] at h; cases h
  | some a =>
    cases ht : t.startedAt.at clock with
    | none => trivial
    | some b =>
      rw [hs, ht] at h
      simp only [Bool.or_eq_true, decide_eq_true_eq, Bool.and_eq_true, beq_iff_eq] at h
      rcases h with h | h
      · exact h.le
      · exact h.1.le

/-- the sort key: whether the time is missing, the time or zero, the key of the bucket -/
def rank (clock : Clock T) (s : Slot T) : Bool ×ₗ ℤ ×ₗ String :=
  toLex ((s.startedAt.at clock).isNone, toLex ((s.startedAt.at clock).getD 0, s.key))

theorem le_iff_rank {s t : Slot T} : s.le clock t = true ↔ rank clock s ≤ rank clock t := by
  unfold Slot.le rank
  cases hs : s.startedAt.at clock with
  | none =>
    cases ht : t.startedAt.at clock with
    | none => simp [Prod.Lex.toLex_le_toLex]
    | some b => simp [Prod.Lex.toLex_le_toLex]
  | some a =>
    cases ht : t.startedAt.at clock with
    | none => simp [Prod.Lex.toLex_le_toLex]
    | some b => simp [Prod.Lex.toLex_le_toLex]

/-- **The axis is in order.** -/
theorem ordered_pairwise : ((ordered clock bucket rows).map Slot.key).Pairwise fun k k' =>
    NotLater (earliest clock bucket rows k) (earliest clock bucket rows k') := by
  have htotal : Std.Total fun s t : Slot T => s.le clock t = true :=
    ⟨fun s t => by rw [le_iff_rank, le_iff_rank]; exact le_total _ _⟩
  have htrans : IsTrans (Slot T) fun s t => s.le clock t = true :=
    ⟨fun s t u hst htu => le_iff_rank.2 ((le_iff_rank.1 hst).trans (le_iff_rank.1 htu))⟩
  have hsorted := List.pairwise_insertionSort (fun s t : Slot T => s.le clock t = true) (axisOf clock bucket rows)
  rw [List.pairwise_map]
  refine hsorted.imp_of_mem ?_
  intro s t hs ht hle
  have hs' := axisOf_at (ordered_perm.mem_iff.1 hs)
  have ht' := axisOf_at (ordered_perm.mem_iff.1 ht)
  rw [← hs', ← ht']
  exact notLater_of_le hle

/-! ## Points -/

/-- every point of a chart, with the cluster of its series -/
def allPoints (chart : Chart) : List (String × Point) := chart.series.flatMap fun s => s.points.map fun p => (s.cluster, p)

theorem mem_allPoints {chart : Chart} {s : Series} {p : Point} (hs : s ∈ chart.series) (hp : p ∈ s.points) :
    (s.cluster, p) ∈ allPoints chart :=
  List.mem_flatMap.2 ⟨s, hs, List.mem_map.2 ⟨p, hp, rfl⟩⟩

/-- the names of a dict in any order, each with what it holds, are the entries of the dict -/
theorem flatMap_lookup_perm {β γ : Type} {d : List (String × β)} {names : List String} {f : String → Option β → List γ}
    (hnodup : (d.map Prod.fst).Nodup) (hnames : names.Perm (d.map Prod.fst)) :
    (names.flatMap fun name => f name (d.lookup name)).Perm (d.flatMap fun p => f p.1 (some p.2)) := by
  have hlookup : (d.map Prod.fst).flatMap (fun name => f name (d.lookup name)) = d.flatMap fun p => f p.1 (some p.2) := by
    rw [List.flatMap_map]
    refine List.flatMap_congr ?_
    intro p hp
    rw [Assoc.lookup_of_mem hnodup (show (p.1, p.2) ∈ d from hp)]
  rw [← hlookup]
  exact hnames.flatMap_right _

/-- the points of a cluster are its cells, each once -/
theorem pointsOf_perm (slots : List (Slot T)) (cells : List (Cell T)) :
    (pointsOf slots cells).Perm (cells.map (pointOf slots)) :=
  (List.perm_insertionSort _ cells).map _

/-- **The points are the cells**, each once. -/
theorem points_perm : (allPoints (buildCounted clock bucket rows)).Perm
    ((cellsOf clock bucket rows).map fun cell => (cell.cluster, pointOf (ordered clock bucket rows) cell)) := by
  set slots := ordered clock bucket rows with hslots
  set cells := cellsOf clock bucket rows with hcells
  have hpoints : allPoints (buildCounted clock bucket rows) =
      (((byCluster cells).map Prod.fst).insertionSort (· ≤ ·)).flatMap fun name =>
        (pointsOf slots (((byCluster cells).lookup name).getD [])).map fun p => (name, p) := by
    rw [allPoints, buildCounted, List.flatMap_map]
    rfl
  have hnodup : ((byCluster cells).map Prod.fst).Nodup := nodup_group cells
  have hentries := flatMap_lookup_perm (f := fun name cs => (pointsOf slots (cs.getD [])).map fun p => (name, p)) hnodup
    (List.perm_insertionSort (· ≤ ·) ((byCluster cells).map Prod.fst))
  rw [hpoints]
  refine hentries.trans ?_
  have hcluster : ((byCluster cells).flatMap fun p => (pointsOf slots p.2).map fun q => (p.1, q)).Perm
      ((byCluster cells).flatMap fun p => p.2.map fun cell => (cell.cluster, pointOf slots cell)) := by
    refine List.Perm.flatMap_left _ ?_
    intro p hp
    obtain ⟨-, hown⟩ := mem_gather.1 (show (p.1, p.2) ∈ gather Cell.cluster cells from hp)
    refine ((pointsOf_perm slots p.2).map _).trans (List.Perm.of_eq ?_)
    rw [List.map_map]
    refine List.map_congr_left ?_
    intro cell hcell
    rw [hown] at hcell
    have hname : cell.cluster = p.1 := by simpa using (List.mem_filter.1 hcell).2
    rw [hname]
    rfl
  refine hcluster.trans ?_
  have hall : ((byCluster cells).flatMap Prod.snd).Perm cells := flatMap_gather_perm cells
  have hmapped := hall.map fun cell => (cell.cluster, pointOf slots cell)
  rw [List.map_flatMap] at hmapped
  exact hmapped

/-! ## Places -/

/-- the bucket of a cell is on the axis -/
theorem bucket_mem_ordered {cell : Cell T} (h : cell ∈ cellsOf clock bucket rows) :
    cell.bucket ∈ (ordered clock bucket rows).map Slot.key := by
  have hkey : (cell.cluster, cell.bucket) ∈ (cellsOf clock bucket rows).map fun cell => (cell.cluster, cell.bucket) :=
    List.mem_map_of_mem h
  rw [keys_cellsOf, mem_keys_group] at hkey
  obtain ⟨row, hrow, hkey⟩ := hkey
  exact mem_ordered.2 ⟨row, hrow, congrArg Prod.snd hkey⟩

/-- **A series goes forward**, if its cells are in different buckets of the axis. -/
theorem pointsOf_increasing {slots : List (Slot T)} {cells : List (Cell T)} (hnodup : (cells.map Cell.bucket).Nodup)
    (hmem : ∀ cell ∈ cells, cell.bucket ∈ slots.map Slot.key) :
    ((pointsOf slots cells).map Point.x).Pairwise (· < ·) := by
  have htotal : Std.Total fun c d : Cell T => position slots c.bucket ≤ position slots d.bucket :=
    ⟨fun c d => le_total _ _⟩
  have htrans : IsTrans (Cell T) fun c d => position slots c.bucket ≤ position slots d.bucket :=
    ⟨fun c d e hcd hde => le_trans hcd hde⟩
  set sorted := cells.insertionSort fun c d => position slots c.bucket ≤ position slots d.bucket with hsorted
  have hperm : sorted.Perm cells := List.perm_insertionSort _ cells
  have hle := List.pairwise_insertionSort (fun c d : Cell T => position slots c.bucket ≤ position slots d.bucket) cells
  have hne : sorted.Pairwise fun c d => c.bucket ≠ d.bucket := by
    rw [← List.pairwise_map]
    exact (hperm.map Cell.bucket).nodup_iff.2 hnodup
  have hx : (pointsOf slots cells).map Point.x = sorted.map fun cell => position slots cell.bucket := by
    rw [pointsOf, List.map_map]
    rfl
  rw [hx, List.pairwise_map]
  refine (hle.and hne).imp_of_mem ?_
  intro c d hc hd hboth
  refine lt_of_le_of_ne hboth.1 ?_
  intro heq
  exact hboth.2 ((List.idxOf_inj (hmem c (hperm.mem_iff.1 hc))).1 heq)

/-- the cells of one cluster are in different buckets -/
theorem nodup_buckets (cluster : String) : ((own Cell.cluster cluster (cellsOf clock bucket rows)).map Cell.bucket).Nodup := by
  have hkeys : ((cellsOf clock bucket rows).map fun cell => (cell.cluster, cell.bucket)).Nodup := by
    rw [keys_cellsOf]
    exact nodup_group rows
  have hcells : (own Cell.cluster cluster (cellsOf clock bucket rows)).Nodup := (List.Nodup.of_map _ hkeys).filter _
  refine hcells.map_on ?_
  intro c hc d hd hbucket
  obtain ⟨hc, hcluster⟩ := List.mem_filter.1 hc
  obtain ⟨hd, hcluster'⟩ := List.mem_filter.1 hd
  have hpair : (c.cluster, c.bucket) = (d.cluster, d.bucket) := by
    rw [of_decide_eq_true hcluster, of_decide_eq_true hcluster', hbucket]
  exact List.inj_on_of_nodup_map hkeys hc hd hpair

/-! ## The trend -/

/-- what a chart keeps of the executions that count -/
structure Conserves (clock : Clock T) (bucket : Bucket) (rows : List (Counted T)) (chart : Chart) : Prop where
  /-- each execution is in one point, that of its cluster and its bucket -/
  once : ∀ row ∈ rows, ((allPoints chart).map fun p => (p.1, p.2.bucket)).count (cellKey clock bucket row) = 1
  /-- and each point counts its own executions -/
  counted : ∀ s ∈ chart.series, ∀ p ∈ s.points,
    p.executions = (rows.filter fun row => cellKey clock bucket row = (s.cluster, p.bucket)).length
  total : ((allPoints chart).map fun p => p.2.executions).sum = rows.length
  /-- each point is at the place of its bucket on the axis -/
  place : ∀ s ∈ chart.series, ∀ p ∈ s.points, (chart.buckets.map AxisBucket.key)[p.x]? = some p.bucket
  increasing : ∀ s ∈ chart.series, (s.points.map Point.x).Pairwise (· < ·)
  /-- the axis has the buckets there are, by the earliest time in each -/
  buckets : ∀ k, k ∈ chart.buckets.map AxisBucket.key ↔ ∃ row ∈ rows, bucketKey clock bucket row = k
  axis : (chart.buckets.map AxisBucket.key).Nodup ∧ (chart.buckets.map AxisBucket.key).Pairwise fun k k' =>
    NotLater (earliest clock bucket rows k) (earliest clock bucket rows k')

/-- a point of a series is that of a cell of its cluster -/
theorem point_of_mem {s : Series} {p : Point} (hs : s ∈ (buildCounted clock bucket rows).series) (hp : p ∈ s.points) :
    ∃ cell ∈ cellsOf clock bucket rows, cell.cluster = s.cluster ∧ pointOf (ordered clock bucket rows) cell = p := by
  have hmem := points_perm.mem_iff.1 (mem_allPoints hs hp)
  obtain ⟨cell, hcell, heq⟩ := List.mem_map.1 hmem
  exact ⟨cell, hcell, congrArg Prod.fst heq, congrArg Prod.snd heq⟩

/-- the cells of a series -/
theorem series_of_mem {s : Series} (hs : s ∈ (buildCounted clock bucket rows).series) :
    ∃ cells, s.points = pointsOf (ordered clock bucket rows) cells ∧ (cells.map Cell.bucket).Nodup ∧
      ∀ cell ∈ cells, cell ∈ cellsOf clock bucket rows := by
  obtain ⟨name, -, rfl⟩ := List.mem_map.1 hs
  cases hlookup : (byCluster (cellsOf clock bucket rows)).lookup name with
  | none => exact ⟨[], rfl, List.nodup_nil, by simp⟩
  | some cells =>
    obtain ⟨-, rfl⟩ := mem_gather.1 (Assoc.mem_of_lookup hlookup)
    exact ⟨_, rfl, nodup_buckets name, fun cell hcell => List.mem_of_mem_filter hcell⟩

theorem keys_buildCounted : (buildCounted clock bucket rows).buckets.map AxisBucket.key =
    (ordered clock bucket rows).map Slot.key := by
  rw [buildCounted, List.map_map]
  rfl

theorem buildCounted_conserves (clock : Clock T) (bucket : Bucket) (rows : List (Counted T)) :
    Conserves clock bucket rows (buildCounted clock bucket rows) := by
  have hkeys : ((allPoints (buildCounted clock bucket rows)).map fun p => (p.1, p.2.bucket)).Perm
      ((cellsOf clock bucket rows).map fun cell => (cell.cluster, cell.bucket)) := by
    have hmapped := (@points_perm T clock bucket rows).map fun p => (p.1, p.2.bucket)
    rw [List.map_map] at hmapped
    exact hmapped
  refine ⟨?_, ?_, ?_, ?_, ?_, ?_, ?_, ?_⟩
  · intro row hrow
    have hmem : cellKey clock bucket row ∈ (cellsOf clock bucket rows).map fun cell => (cell.cluster, cell.bucket) := by
      rw [keys_cellsOf, mem_keys_group]
      exact ⟨row, hrow, rfl⟩
    have hnodup : ((cellsOf clock bucket rows).map fun cell => (cell.cluster, cell.bucket)).Nodup := by
      rw [keys_cellsOf]
      exact nodup_group rows
    rw [hkeys.count_eq]
    exact List.count_eq_one_of_mem hnodup hmem
  · intro s hs p hp
    obtain ⟨cell, hcell, hcluster, rfl⟩ := point_of_mem hs hp
    rw [← hcluster]
    change (summarise (cell.elapsed.map some)).count = _
    rw [summarise_count, cellsOf_elapsed hcell, List.length_map]
    rfl
  · have hmapped := (@points_perm T clock bucket rows).map fun p => p.2.executions
    rw [hmapped.sum_eq, List.map_map, ← @sum_elapsed T clock bucket rows]
    refine congrArg List.sum (List.map_congr_left ?_)
    intro cell _
    exact summarise_count cell.elapsed
  · intro s hs p hp
    obtain ⟨cell, hcell, hcluster, rfl⟩ := point_of_mem hs hp
    rw [keys_buildCounted]
    exact List.getElem?_idxOf (bucket_mem_ordered hcell)
  · intro s hs
    obtain ⟨cells, hpoints, hnodup, hcells⟩ := series_of_mem hs
    rw [hpoints]
    exact pointsOf_increasing hnodup fun cell hcell => bucket_mem_ordered (hcells cell hcell)
  · intro k
    rw [keys_buildCounted]
    exact mem_ordered
  · rw [keys_buildCounted]
    exact nodup_ordered
  · rw [keys_buildCounted]
    exact ordered_pairwise

/-- **A trend conserves executions**, for every history and every choice of bucket. -/
theorem trend_conserves (clock : Clock T) (history : List (HistoryRow T)) (choice : String) :
    Conserves clock (bucketOf choice) (history.filterMap HistoryRow.counted) (build clock history choice) :=
  buildCounted_conserves clock (bucketOf choice) _

/-! ## Two clusters, two days -/

/-- hours, named by their day -/
def hours : Clock ℕ := ⟨fun h => h, fun h => toString (h / 24), fun _ => "1"⟩

def took (runId : ℕ) (cluster : String) (ms : ℚ) (hour : Option ℕ) : HistoryRow ℕ :=
  ⟨runId, cluster, "SUCCEEDED", some ms, ⟨hour, none⟩⟩

/-- newest first, one run without a time and one execution that failed -/
def twoDays : List (HistoryRow ℕ) :=
  [took 4 "b" 30 (some 30), took 3 "a" 20 (some 26), took 3 "a" 22 (some 26), took 9 "a" 5 none,
    { took 2 "a" 1 (some 3) with state := "FAILED" }, took 1 "a" 10 (some 2)]

example : (build hours twoDays "day").series.map (fun s => s.points.map fun p => (p.x, p.bucket, p.executions)) =
    [[(0, "0", 1), (1, "1", 2), (2, "run:9", 1)], [(1, "1", 1)]] := by
  decide +kernel

end TrinoManagement.Trend
