/-
The oldest queued query of each group, over all snapshots and all lists of groups.

`_add_queue_age` credits a query to every prefix of its path, `in_resource_group` asks for a prefix of its dotted text.
- `credited_iff`: for a group with a name the two are the same, if no segment has a dot.
- `lookup_waiting`: so what is noted of a group is the longest time that a query queued in it or beneath it has waited.
- `queue_age`: and every group of a list is shown just that, but one without a name where a path begins without one. A collected
  group has a name (`Ticks.collect_named`).
-/
import Mathlib.Tactic
import TrinoManagement.Api.Workload
import TrinoManagement.Core.Dotted

namespace TrinoManagement.Workload

open TrinoManagement.Collector TrinoManagement.Dotted
open TrinoManagement.Queries (QueriesConfig groupPath inResourceGroup)

section QueueAge

variable (cfg : QueriesConfig)

/-! ## What is claimed -/

/-- `in_resource_group` of a group whose id may be missing -/
def isIn (q : QueryRow) (id : Option Value) : Bool :=
  match id with
  | some (.str group) => inResourceGroup cfg q group
  | _ => false

/-- the times of the queries that are queued in a group -/
def waiting (queries : List QueryRow) (id : Option Value) : List ℚ :=
  (queries.filter fun q => decide (q.state = .str "QUEUED") && isIn cfg q id).filterMap (·.queuedMs)

/-- the longest of them, if there are any -/
def oldestWaiting (queries : List QueryRow) (id : Option Value) : Value :=
  ((waiting cfg queries id).max?.map Value.float).getD .none

/-- a text of the segments of a path, from its root -/
def segments (q : QueryRow) : List String := (groupPath q).map cfg.str

/-- a queued query of a known time whose path begins with an empty segment -/
def Unrooted (q : QueryRow) : Prop :=
  q.state = .str "QUEUED" ∧ q.queuedMs.isSome = true ∧ (segments cfg q).head? = some ""

end QueueAge

/-! ## Prefixes and groups -/

section Prefixes

variable {cfg : QueriesConfig} {queries : List QueryRow} {q : QueryRow} {key : String} {ms : ℚ}

theorem mem_credits : (key, ms) ∈ credits cfg q ↔ q.state = .str "QUEUED" ∧ q.queuedMs = some ms ∧
    ∃ d, 0 < d ∧ d ≤ (segments cfg q).length ∧ key = dotted ((segments cfg q).take d) := by
  have htake : ∀ d, ((groupPath q).take d).map cfg.str = (segments cfg q).take d := fun d => List.map_take
  have hlength : (segments cfg q).length = (groupPath q).length := List.length_map _
  unfold credits
  by_cases hstate : q.state = .str "QUEUED"
  · rw [if_neg (not_not.2 hstate)]
    cases q.queuedMs with
    | none => simp
    | some waited =>
      simp only [List.mem_map, List.mem_range, htake, Prod.mk.injEq, Option.some.injEq, hstate, true_and, hlength]
      constructor
      · rintro ⟨d, hd, rfl, rfl⟩
        exact ⟨rfl, d + 1, Nat.succ_pos d, hd, rfl⟩
      · rintro ⟨rfl, d, hpos, hd, rfl⟩
        obtain ⟨d, rfl⟩ := Nat.exists_eq_succ_of_ne_zero hpos.ne'
        exact ⟨d, hd, rfl, rfl⟩
  · rw [if_pos hstate]
    simp [hstate]

/-- a path joined is empty only if its first segment is -/
theorem head_of_dotted_eq {path : List String} (hne : path ≠ []) (h : dotted path = "") : path.head? = some "" := by
  cases path with
  | nil => exact absurd rfl hne
  | cons first rest =>
    by_cases hrest : rest = []
    · subst hrest
      rw [dotted, String.intercalate_singleton] at h
      rw [h, List.head?_cons]
    · have hsplit : dotted (first :: rest) = dotted [first] ++ "." ++ dotted rest :=
        dotted_append (List.cons_ne_nil first []) hrest
      rw [hsplit] at h
      have hlist := congrArg String.toList h
      simp at hlist

/-- **Prefixes and dots.** A query is credited to a group with a name exactly if it is in the group or beneath it. -/
theorem credited_iff (hdots : ∀ segment ∈ segments cfg q, '.' ∉ segment.toList) (hkey : key ≠ "") :
    (∃ d, 0 < d ∧ d ≤ (segments cfg q).length ∧ key = dotted ((segments cfg q).take d)) ↔
      inResourceGroup cfg q key = true := by
  have hin : inResourceGroup cfg q key = true ↔
      dotted (segments cfg q) = key ∨ (key ++ ".").toList <+: (dotted (segments cfg q)).toList := by
    simp only [inResourceGroup, if_neg hkey, Bool.or_eq_true, beq_iff_eq, List.isPrefixOf_iff_prefix]
    rfl
  rw [hin, beneath_iff hdots]
  constructor
  · rintro ⟨d, hpos, hle, rfl⟩
    rcases hle.lt_or_eq with hlt | heq
    · exact .inr ⟨d, hpos, hlt, rfl⟩
    · rw [List.take_of_length_le heq.ge]
      exact .inl rfl
  · rintro (rfl | ⟨d, hpos, hlt, rfl⟩)
    · have hne : segments cfg q ≠ [] := by
        intro hnil
        rw [hnil] at hkey
        exact hkey rfl
      exact ⟨_, List.length_pos_iff.2 hne, le_rfl, by rw [List.take_length]⟩
    · exact ⟨d, hpos, hlt.le, rfl⟩

theorem mem_creditedTo : ms ∈ creditedTo key (queries.flatMap (credits cfg)) ↔
    ∃ q ∈ queries, (key, ms) ∈ credits cfg q := by
  simp only [creditedTo, List.mem_map, List.mem_filter, List.mem_flatMap, decide_eq_true_eq]
  constructor
  · rintro ⟨⟨key', ms'⟩, ⟨⟨q, hq, hmem⟩, rfl⟩, rfl⟩
    exact ⟨q, hq, hmem⟩
  · rintro ⟨q, hq, hmem⟩
    exact ⟨(key, ms), ⟨⟨q, hq, hmem⟩, rfl⟩, rfl⟩

theorem mem_waiting {id : Option Value} : ms ∈ waiting cfg queries id ↔
    ∃ q ∈ queries, q.state = .str "QUEUED" ∧ isIn cfg q id = true ∧ q.queuedMs = some ms := by
  simp only [waiting, List.mem_filterMap, List.mem_filter, Bool.and_eq_true, decide_eq_true_eq]
  constructor
  · rintro ⟨q, ⟨hq, hstate, hin⟩, hms⟩
    exact ⟨q, hq, hstate, hin, hms⟩
  · rintro ⟨q, hq, hstate, hin, hms⟩
    exact ⟨q, ⟨hq, hstate, hin⟩, hms⟩

theorem max?_congr {l l' : List ℚ} (h : ∀ x, x ∈ l ↔ x ∈ l') : l.max? = l'.max? := by
  cases hl : l.max? with
  | none =>
    rw [List.max?_eq_none_iff] at hl
    subst hl
    have hnil : l' = [] := List.eq_nil_iff_forall_not_mem.2 fun x hx => List.not_mem_nil ((h x).2 hx)
    rw [hnil]
    rfl
  | some m =>
    obtain ⟨hm, hle⟩ := List.max?_eq_some_iff.1 hl
    exact (List.max?_eq_some_iff.2 ⟨(h m).1 hm, fun x hx => hle x ((h x).2 hx)⟩).symm

/-- **What is noted** of a group with a name is what is waiting in it; and nothing of a group without one, unless a path begins
with a segment without one. -/
theorem lookup_waiting (hdots : ∀ q ∈ queries, ∀ segment ∈ segments cfg q, '.' ∉ segment.toList)
    (hnonneg : ∀ q ∈ queries, ∀ ms, q.queuedMs = some ms → 0 ≤ ms) (hrooted : key = "" → ∀ q ∈ queries, ¬ Unrooted cfg q) :
    (oldest cfg queries).lookup key = (waiting cfg queries (some (.str key))).max? := by
  rw [lookup_oldest hnonneg]
  refine max?_congr fun ms => ?_
  rw [mem_creditedTo, mem_waiting]
  refine exists_congr fun q => and_congr_right fun hq => ?_
  rw [mem_credits]
  refine and_congr_right fun hstate => ?_
  rw [and_comm]
  refine and_congr_left fun hms => ?_
  by_cases hkey : key = ""
  · subst hkey
    constructor
    · rintro ⟨d, hpos, hle, hempty⟩
      have hne : (segments cfg q).take d ≠ [] := by
        rw [Ne, List.take_eq_nil_iff]
        rintro (rfl | hnil)
        · exact absurd hpos (lt_irrefl 0)
        · rw [hnil] at hle
          exact absurd hpos (not_lt.2 hle)
      have hhead := head_of_dotted_eq hne hempty.symm
      rw [List.head?_take, if_neg hpos.ne'] at hhead
      exact absurd ⟨hstate, by rw [hms]; rfl, hhead⟩ (hrooted rfl q hq)
    · intro hin
      rw [isIn, inResourceGroup, if_pos rfl] at hin
      cases hin
  · exact credited_iff (hdots q hq) hkey

/-- what a group is shown; one whose id is no text is shown nothing, and no query is in it -/
theorem oldestOf_eq {group : Dict Value} (hdots : ∀ q ∈ queries, ∀ segment ∈ segments cfg q, '.' ∉ segment.toList)
    (hnonneg : ∀ q ∈ queries, ∀ ms, q.queuedMs = some ms → 0 ≤ ms)
    (hrooted : group.lookup "id" = some (.str "") → ∀ q ∈ queries, ¬ Unrooted cfg q) :
    oldestOf (oldest cfg queries) group = oldestWaiting cfg queries (group.lookup "id") := by
  have hnone : ∀ id, (∀ q, isIn cfg q id = false) → oldestWaiting cfg queries id = .none := by
    intro id hid
    simp [oldestWaiting, waiting, hid]
  unfold oldestOf
  cases hid : group.lookup "id" with
  | none => exact (hnone none fun _ => rfl).symm
  | some id =>
    cases id with
    | str key =>
      rw [oldestWaiting, ← lookup_waiting hdots hnonneg fun hkey => hrooted (hkey ▸ hid)]
    | none | bool _ | int _ | float _ | list _ | dict _ => exact (hnone _ fun _ => rfl).symm

/-- **The age of each queue.** From a snapshot to be trusted, whose segments have no dots and whose times are not negative,
each group is shown the longest time that a query in it has been queued, and nothing if there is none. Where a path begins with
an empty segment that is not said of a group whose id is empty, which no collected group has. -/
theorem queue_age {s : QueriesSnapshot} {w : Payload} (htrusted : s.trustworthy = true)
    (hdots : ∀ q ∈ reported s, ∀ segment ∈ segments cfg q, '.' ∉ segment.toList)
    (hnonneg : ∀ q ∈ reported s, ∀ ms, q.queuedMs = some ms → 0 ≤ ms) :
    List.Forall₂ (fun group shown => (group.lookup "id" = some (.str "") → ∀ q ∈ reported s, ¬ Unrooted cfg q) →
        shown = group.set "oldest_queued_ms" (oldestWaiting cfg (reported s) (group.lookup "id")))
      w.groups (addQueueAge cfg (some s) w).groups := by
  by_cases hnil : w.groups = []
  · rw [addQueueAge, if_pos hnil, hnil]
    exact .nil
  · rw [addQueueAge, if_neg hnil]
    simp only [htrusted, Bool.true_eq_false, if_false]
    rw [List.forall₂_map_right_iff, List.forall₂_same]
    intro group _ hrooted
    rw [oldestOf_eq hdots hnonneg hrooted]

end Prefixes

/-! ## Two snapshots -/

/-- Python on texts -/
def plainQueries : QueriesConfig where
  clusters := []
  distinct := List.nodup_nil
  staleThreshold := 30
  str
    | .str s => s
    | _ => ""
  lower := id
  logUrl _ _ _ := none
  historyUrl _ := none

def queuedAt (path : List Value) (queuedMs : ℚ) : QueryRow where
  queryId := .str "q1"
  state := .str "QUEUED"
  user := .none
  source := .none
  resourceGroupId := some path
  elapsedMs := none
  queuedMs := some queuedMs
  totalCpuMs := none
  peakUserMemoryBytes := none
  physicalInputBytes := none
  progressPercentage := .none
  runningDrivers := .none
  queuedDrivers := .none
  fullyBlocked := .none
  queryPreview := ""
  queryTruncated := false
  longRunning := false

def snapshotOf (queries : List QueryRow) : QueriesSnapshot :=
  ⟨⟨"prod-a", 0, some ⟨queries, summary queries, 0, 5⟩, none, none⟩, fun _ => rfl⟩

def groupOf (id : String) : Dict Value := [("id", .str id)]

/-- two queries in one group -/
def adhocQueries : QueriesSnapshot :=
  snapshotOf [queuedAt [.str "global", .str "adhoc"] 5000, queuedAt [.str "global", .str "adhoc"] 90000]

/-- the group above it, and one whose name begins like its name -/
def adhocGroups : Payload := ⟨[groupOf "global", groupOf "global.ad"], none⟩

theorem queue_age_adhoc :
    List.Forall₂ (fun group shown =>
        (group.lookup "id" = some (.str "") → ∀ q ∈ reported adhocQueries, ¬ Unrooted plainQueries q) →
        shown = group.set "oldest_queued_ms" (oldestWaiting plainQueries (reported adhocQueries) (group.lookup "id")))
      adhocGroups.groups (addQueueAge plainQueries (some adhocQueries) adhocGroups).groups := by
  refine queue_age rfl ?_ ?_
  · decide
  · decide

end TrinoManagement.Workload
