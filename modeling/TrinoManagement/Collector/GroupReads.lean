/-
The resource groups of a coordinator, `tms/collector/resourcegroups.py`: one request for the names of all MBeans, and one for
each group among them.

A group whose request fails is left out and counted. Its numbers may be any JSON; a limit that Java writes for "unlimited" is none.
- `summariseGroup_ok`: the attributes a row can be made of.
- `collect_ok`: the replies a collection can be made of.
- `collect_named`: no group of a collection has an empty id.
-/
import Mathlib.Tactic
import TrinoManagement.Collector.GroupTree
import TrinoManagement.Collector.Replies

namespace TrinoManagement.Ticks

open TrinoManagement.Collector (ClientError)

/-! ## Names -/

/-- `GROUP_MBEAN_PREFIX` -/
def groupMbeanPrefix : String := "trino.execution.resourcegroups:type=InternalResourceGroup,name="

def isSpacePoint : CodePoint → Bool
  | .char c => Text.isSpace c
  | .surrogate _ => false

/-- "…,name=global.adhoc.dashboard" names the group below "global" and "adhoc" -/
def groupPath (objectName : PyText) : Option (List PyText) :=
  let mbean := PyText.ofString groupMbeanPrefix
  if mbean.isPrefixOf objectName then
    let raw := ((objectName.drop mbean.length).dropWhile isSpacePoint).rdropWhile isSpacePoint
    if raw = [] then none else some ((raw.splitOn (.char '.')).filter fun segment => !segment.isEmpty)
  else none

/-- the names of groups, with their paths -/
def groupPaths (names : List PyText) : List (PyText × List PyText) :=
  names.filterMap fun name =>
    match groupPath name with
    | none => none
    | some path => if path = [] then none else some (name, path)

/-! ## One group -/

/-- `_number` -/
def number (attributes : Attributes) (name : String) : Except Uncaught (Option PyFloat) :=
  match (Json.dict attributes).get name with
  | .int n => if overflows n then .error .overflowError else .ok (some (.finite n))
  | .float x => .ok (some x)
  | _ => .ok none

/-- `int(_number(attributes, name) or 0)` -/
def count (attributes : Attributes) (name : String) : Except Uncaught ℤ := do
  match ← number attributes name with
  | none => pure 0
  | some x => x.toInt

/-- half of Java's Long.MAX_VALUE, which Trino uses for "unlimited" -/
def unlimitedFloor : ℤ := 9223372036854775807 / 2

/-- a limit, or none when it is the "unlimited" sentinel -/
def limit (attributes : Attributes) (name : String) : Except Uncaught (Option PyFloat) := do
  match ← number attributes name with
  | none => pure none
  | some x => pure (if x.ge (.finite unlimitedFloor) || (PyFloat.finite 0).ge x then none else some x)

/-- why a group holds queries back, the worst first -/
inductive Bottleneck where
  | queueFull | concurrencyLimit | memoryLimit | cpuLimit
deriving DecidableEq, Repr

/-- `BOTTLENECK_TEXT` -/
def Bottleneck.text : Bottleneck → String
  | .queueFull => "Queue full — new queries rejected"
  | .concurrencyLimit => "At concurrency limit"
  | .memoryLimit => "At memory limit"
  | .cpuLimit => "At CPU limit"

/-- `bottleneck_text` -/
def bottleneckText (reason : Option Bottleneck) : String := (reason.map Bottleneck.text).getD ""

structure GroupSummary where
  path : List PyText
  id : PyText
  name : PyText
  depth : ℕ
  running : ℤ
  queued : ℤ
  waitingQueued : ℤ
  hardConcurrencyLimit : Option PyFloat
  softConcurrencyLimit : Option PyFloat
  maxQueued : Option PyFloat
  softMemoryLimitBytes : Option PyFloat
  hardCpuLimitMs : Option PyFloat
  memoryBytes : Option PyFloat
  cpuMs : Option PyFloat
  inputBytes : Option PyFloat
  schedulingPolicy : Json
  schedulingWeight : Option PyFloat
  startedTotal : Option PyFloat

/-- there is a limit, and the usage is there and not below it -/
def atLimit (used limit : Option PyFloat) : Bool :=
  match used, limit with
  | some x, some bound => decide (bound ≠ .finite 0) && decide (x ≠ .finite 0) && x.ge bound
  | _, _ => false

/-- as `atLimit`, of a count that may be zero -/
def countAtLimit (n : ℤ) (limit : Option PyFloat) : Bool :=
  limit.any fun bound => decide (bound ≠ .finite 0) && (PyFloat.finite n).ge bound

/-- a reason only when queries wait, or are rejected -/
def diagnose (s : GroupSummary) : Option Bottleneck :=
  if countAtLimit s.queued s.maxQueued then some .queueFull
  else if s.queued ≤ 0 then none
  else if countAtLimit s.running s.hardConcurrencyLimit then some .concurrencyLimit
  else if atLimit s.memoryBytes s.softMemoryLimitBytes then some .memoryLimit
  else if atLimit s.cpuMs s.hardCpuLimitMs then some .cpuLimit
  else none

/-- one row of the workload screen -/
structure Group extends GroupSummary where
  bottleneck : Option Bottleneck
  bottleneckText : String

def summariseGroup (path : List PyText) (attributes : Attributes) : Except Uncaught Group := do
  let running ← count attributes "RunningQueries"
  let queued ← count attributes "QueuedQueries"
  let waitingQueued ← count attributes "WaitingQueuedQueries"
  let hardConcurrencyLimit ← limit attributes "HardConcurrencyLimit"
  let softConcurrencyLimit ← limit attributes "SoftConcurrencyLimit"
  let maxQueued ← limit attributes "MaxQueuedQueries"
  let softMemoryLimitBytes ← limit attributes "SoftMemoryLimitBytes"
  let hardCpuLimitMs ← limit attributes "HardCpuLimitMillis"
  let memoryBytes ← number attributes "MemoryUsageBytes"
  let cpuMs ← number attributes "CpuUsageMillis"
  let inputBytes ← number attributes "PhysicalInputDataUsageBytes"
  let schedulingPolicy := (Json.dict attributes).get "SchedulingPolicy"
  let schedulingWeight ← number attributes "SchedulingWeight"
  let startedTotal ← number attributes "StartedQueries.TotalCount"
  let summary : GroupSummary :=
    { path, id := [CodePoint.char '.'].intercalate path, name := path.getLast?.getD [], depth := path.length - 1
      running, queued, waitingQueued, hardConcurrencyLimit, softConcurrencyLimit, maxQueued, softMemoryLimitBytes
      hardCpuLimitMs, memoryBytes, cpuMs, inputBytes, schedulingPolicy, schedulingWeight, startedTotal }
  pure { summary with bottleneck := diagnose summary, bottleneckText := bottleneckText (diagnose summary) }

/-! ### What a row can be made of -/

section Summarise

variable {attributes : Attributes} {name : String}

theorem ok_number : Ok (number attributes name) ↔ ((Json.dict attributes).get name).FitsFloat := by
  unfold number
  cases (Json.dict attributes).get name with
  | int n => cases h : overflows n <;> simp [Ok, Json.FitsFloat, h]
  | _ => simp [Ok, Json.FitsFloat]

theorem ok_limit : Ok (limit attributes name) ↔ ((Json.dict attributes).get name).FitsFloat := by
  unfold limit
  rw [ok_bind ok_number (Q := True), and_true]
  intro x
  cases x with
  | none => exact ok_pure _
  | some x => exact ok_pure _

theorem ok_count : Ok (count attributes name) ↔
    ((Json.dict attributes).get name).FitsFloat ∧ ((Json.dict attributes).get name).Finite := by
  unfold count number
  cases (Json.dict attributes).get name with
  | int n =>
    cases h : overflows n with
    | true => simp [Ok, Json.FitsFloat, h, bind, Except.bind]
    | false => simp [Ok, Json.FitsFloat, Json.Finite, PyFloat.toInt, h, bind, Except.bind]
  | float x =>
    have htoInt : Ok x.toInt ↔ ∃ q, x = .finite q := ok_toInt
    simpa [Json.FitsFloat, Json.Finite, bind, Except.bind] using htoInt
  | _ => simp [Ok, Json.FitsFloat, Json.Finite, bind, Except.bind, pure, Except.pure]

/-- the attributes that are read as whole numbers -/
def groupCounts : List String := ["RunningQueries", "QueuedQueries", "WaitingQueuedQueries"]

/-- the attributes that are read as floats -/
def groupNumbers : List String :=
  ["HardConcurrencyLimit", "SoftConcurrencyLimit", "MaxQueuedQueries", "SoftMemoryLimitBytes", "HardCpuLimitMillis",
    "MemoryUsageBytes", "CpuUsageMillis", "PhysicalInputDataUsageBytes", "SchedulingWeight", "StartedQueries.TotalCount"]

/-- no integer among the numbers is too large for a float, and no count is NaN or infinite -/
structure Summarisable (attributes : Attributes) : Prop where
  fits : ∀ name ∈ groupCounts ++ groupNumbers, ((Json.dict attributes).get name).FitsFloat
  finite : ∀ name ∈ groupCounts, ((Json.dict attributes).get name).Finite

/-- **A row can be made** of summarisable attributes, and of no others. -/
theorem summariseGroup_ok {path : List PyText} : Ok (summariseGroup path attributes) ↔ Summarisable attributes := by
  unfold summariseGroup
  dsimp only
  rw [ok_bind ok_count fun _ => ok_bind ok_count fun _ => ok_bind ok_count fun _ => ok_bind ok_limit fun _ =>
    ok_bind ok_limit fun _ => ok_bind ok_limit fun _ => ok_bind ok_limit fun _ => ok_bind ok_limit fun _ =>
    ok_bind ok_number fun _ => ok_bind ok_number fun _ => ok_bind ok_number fun _ => ok_bind ok_number fun _ =>
    ok_bind ok_number fun _ => ok_pure _]
  constructor
  · rintro ⟨⟨h1, h1'⟩, ⟨h2, h2'⟩, ⟨h3, h3'⟩, hrest⟩
    exact ⟨by simpa [groupCounts, groupNumbers, h1, h2, h3] using hrest, by simp [groupCounts, h1', h2', h3']⟩
  · intro h
    obtain ⟨hcounts, hnumbers⟩ := List.forall_mem_append.1 h.fits
    have hfinite := h.finite
    simp only [groupCounts, groupNumbers, List.forall_mem_cons, List.not_mem_nil, false_imp_iff, implies_true,
      and_true] at hcounts hnumbers hfinite
    exact ⟨⟨hcounts.1, hfinite.1⟩, ⟨hcounts.2.1, hfinite.2.1⟩, ⟨hcounts.2.2, hfinite.2.2⟩, by simpa using hnumbers⟩

end Summarise

/-! ## All groups -/

structure Blocked where
  id : PyText
  reason : Bottleneck
  reasonText : String
  queued : ℤ
deriving DecidableEq

structure Rollup where
  groups : ℕ
  running : ℤ
  queued : ℤ
  blockedGroups : ℕ
  blocked : List Blocked
deriving DecidableEq

/-- totals, and who is stuck, the longest queue first -/
def rollup (groups : List Group) : Rollup :=
  let blocked := groups.filterMap fun g => g.bottleneck.map fun reason => ⟨g.id, reason, reason.text, g.queued⟩
  { groups := groups.length
    running := (groups.map (·.running)).sum
    queued := (groups.map (·.queued)).sum
    blockedGroups := blocked.length
    blocked := blocked.insertionSort fun b b' => b'.queued ≤ b.queued }

/-- the result of one poll; it is never complete, for a group that has admitted no query has no MBean -/
structure Collection where
  groups : List Group
  tree : List (Forest.Tree Group)
  summary : Rollup
  error : Option String
  advice : Option String

def Collection.of (groups : List Group) (error advice : Option String) : Collection where
  groups := groups
  tree := GroupTree.buildTree (fun g => g.path.map PyText.shown) groups
  summary := rollup groups
  error := error
  advice := advice

/-- `NO_GROUPS_ADVICE` -/
def noGroupsAdvice : String :=
  "No resource group MBeans are registered. Either no group has admitted a query yet, or resource-groups.json is missing " ++
    "\"jmxExport\": true - groups without it are invisible to TMS. See DESIGN_R2.md 1-2."

section Collect

variable (str : Json → String)

/-- one group of the loop: a failed request, or its row; `quote` encodes the name -/
def readGroup (name : PyText) (path : List PyText) (reply : Reply) : Except Uncaught (Except ClientError Group) :=
  match name.plain with
  | none => .error .unicodeEncodeError
  | some text =>
    match getMbean str text reply with
    | .error (.client e) => .ok (.error e)
    | .error (.raises e) => .error e
    | .ok attributes => (summariseGroup path attributes).map .ok

/-- `collect`; the groups' MBeans are asked for in the order of their names -/
def collect (registry : Reply) (mbean : ℕ → Reply) : Except Uncaught Collection :=
  match listMbeanNames str registry with
  | .error (.client e) => .ok (Collection.of [] (some e.text) e.adviceOrNone)
  | .error (.raises e) => .error e
  | .ok names =>
    let paths := groupPaths names
    if paths = [] then .ok (Collection.of [] (some "no resource group MBeans registered") (some noGroupsAdvice))
    else do
      let reads ← paths.zipIdx.mapM fun x => readGroup str x.1.1 x.1.2 (mbean x.2)
      let failures := reads.filterMap fun
        | .error e => some e
        | .ok _ => none
      let groups := reads.filterMap Except.toOption
      pure (Collection.of groups
        (if failures ≠ [] then
          some (toString failures.length ++ " of " ++ toString paths.length ++ " resource group MBeans unavailable")
        else none)
        (failures.findSome? ClientError.adviceOrNone))

/-- what a group's name and reply have to be: a name that `quote` can encode, and attributes that can be gone through and
summarised -/
structure GroupServable (name : PyText) (reply : Reply) : Prop where
  plain : name.plain ≠ none
  readable : Readable reply
  summarisable : ∀ payload items, reply = .ok payload → payload.isDict = true →
    (payload.get "attributes").items = .ok items → Summarisable (attributesOf str items)

/-- what the registry's reply has to be, and those of the groups it names -/
structure GroupsServable (registry : Reply) (mbean : ℕ → Reply) : Prop where
  decoded : ∀ e, registry ≠ .error (.raises e)
  groups : ∀ names, listMbeanNames str registry = .ok names → ∀ i name path,
    (groupPaths names)[i]? = some (name, path) → GroupServable str name (mbean i)

variable {str}

theorem readGroup_ok {name : PyText} {path : List PyText} {reply : Reply} :
    Ok (readGroup str name path reply) ↔ GroupServable str name reply := by
  unfold readGroup
  cases hplain : name.plain with
  | none =>
    constructor
    · rintro ⟨_, h⟩
      cases h
    · exact fun h => absurd hplain h.plain
  | some text =>
    have hread := @getMbean_ok str text reply
    have hok := fun attributes => @getMbean_eq_ok str text reply attributes
    have hname : name.plain ≠ none := by simp [hplain]
    dsimp only
    cases hmbean : getMbean str text reply with
    | error failure =>
      simp only [hmbean, reduceCtorEq, false_iff, not_exists, not_and] at hok
      cases failure with
      | client e =>
        refine ⟨fun _ => ⟨hname, hread.1 (by simp [hmbean]), ?_⟩, fun _ => ⟨_, rfl⟩⟩
        intro payload items hreply hdict hitems
        exact absurd rfl (hok _ payload items hreply hdict hitems)
      | raises e =>
        constructor
        · rintro ⟨_, h⟩
          cases h
        · exact fun h => absurd hmbean (hread.2 h.readable e)
    | ok attributes =>
      have hsome := (hok attributes).1 hmbean
      refine (ok_map.trans summariseGroup_ok).trans ⟨fun h => ⟨hname, hread.1 (by simp [hmbean]), ?_⟩, fun h => ?_⟩
      · intro payload items hreply hdict hitems
        have hsame := (hok _).2 ⟨payload, items, hreply, hdict, hitems, rfl⟩
        rw [hmbean] at hsame
        cases hsame
        exact h
      · obtain ⟨payload, items, hreply, hdict, hitems, rfl⟩ := hsome
        exact h.summarisable payload items hreply hdict hitems

/-- **A collection is made** of servable replies, and of no others. -/
theorem collect_ok {registry : Reply} {mbean : ℕ → Reply} :
    Ok (collect str registry mbean) ↔ GroupsServable str registry mbean := by
  unfold collect
  cases hnames : listMbeanNames str registry with
  | error failure =>
    cases failure with
    | client e =>
      refine ⟨fun _ => ⟨fun e' he' => ?_, fun names h => ?_⟩, fun _ => ⟨_, rfl⟩⟩
      · rw [listMbeanNames_raises.2 he'] at hnames
        cases hnames
      · rw [hnames] at h
        cases h
    | raises e =>
      constructor
      · rintro ⟨_, h⟩
        cases h
      · exact fun h => absurd (listMbeanNames_raises.1 hnames) (h.decoded e)
  | ok names =>
    have hdecoded : ∀ e, registry ≠ .error (.raises e) := by
      intro e he
      rw [listMbeanNames_raises.2 he] at hnames
      cases hnames
    have hall : GroupsServable str registry mbean ↔
        ∀ x ∈ (groupPaths names).zipIdx, GroupServable str x.1.1 (mbean x.2) := by
      constructor
      · rintro h ⟨⟨name, path⟩, i⟩ hmem
        exact h.groups names hnames i name path (List.mem_zipIdx_iff_getElem?.1 hmem)
      · refine fun h => ⟨hdecoded, fun names' hnames' i name path hget => ?_⟩
        rw [hnames] at hnames'
        cases hnames'
        exact h ((name, path), i) (List.mem_zipIdx_iff_getElem?.2 hget)
    rw [hall]
    dsimp only
    split_ifs with hpaths
    · rw [hpaths]
      exact ⟨fun _ x hx => absurd hx List.not_mem_nil, fun _ => ⟨_, rfl⟩⟩
    · rw [ok_bind (ok_mapM (fun _ => readGroup_ok) _) fun _ => ok_pure _, and_true]

/-! ### Ids -/

theorem groupPaths_segments {names : List PyText} {name : PyText} {path : List PyText} (h : (name, path) ∈ groupPaths names) :
    path ≠ [] ∧ ∀ segment ∈ path, segment ≠ [] := by
  obtain ⟨name', -, hpath⟩ := List.mem_filterMap.1 h
  cases hread : groupPath name' with
  | none =>
    rw [hread] at hpath
    cases hpath
  | some path' =>
    simp only [hread, Option.ite_none_left_eq_some, Option.some.injEq, Prod.mk.injEq] at hpath
    obtain ⟨hne, rfl, rfl⟩ := hpath
    refine ⟨hne, fun segment hsegment => ?_⟩
    unfold groupPath at hread
    dsimp only at hread
    split_ifs at hread
    obtain rfl := Option.some.inj hread
    simpa using (List.mem_filter.1 hsegment).2

theorem intercalate_ne_nil {path : List PyText} (hne : path ≠ []) (hsegments : ∀ segment ∈ path, segment ≠ []) :
    [CodePoint.char '.'].intercalate path ≠ [] := by
  cases path with
  | nil => exact absurd rfl hne
  | cons first rest =>
    intro hnil
    rw [List.intercalate, List.flatten_eq_nil_iff] at hnil
    refine hsegments first List.mem_cons_self (hnil first ?_)
    cases rest <;> simp

theorem summariseGroup_id {path : List PyText} {attributes : Attributes} {g : Group} (h : summariseGroup path attributes = .ok g) :
    g.id = [CodePoint.char '.'].intercalate path := by
  unfold summariseGroup at h
  iterate 13 obtain ⟨_, -, h⟩ := bind_eq_ok.1 h
  obtain rfl := Except.ok.inj h
  rfl

theorem readGroup_id {name : PyText} {path : List PyText} {reply : Reply} {g : Group}
    (h : readGroup str name path reply = .ok (.ok g)) : g.id = [CodePoint.char '.'].intercalate path := by
  unfold readGroup at h
  cases hplain : name.plain with
  | none =>
    rw [hplain] at h
    cases h
  | some text =>
    rw [hplain] at h
    dsimp only at h
    cases hmbean : getMbean str text reply with
    | ok attributes =>
      rw [hmbean] at h
      obtain ⟨row, hrow, heq⟩ := map_eq_ok.1 h
      obtain rfl := Except.ok.inj heq
      exact summariseGroup_id hrow
    | error failure =>
      rw [hmbean] at h
      cases failure with
      | client e => cases h
      | raises e => cases h

/-- **Names.** Only a group with a path of segments that are not empty is collected, so none has an empty id. -/
theorem collect_named {registry : Reply} {mbean : ℕ → Reply} {c : Collection} (h : collect str registry mbean = .ok c) :
    ∀ g ∈ c.groups, g.id ≠ [] := by
  intro g hg
  unfold collect at h
  cases hnames : listMbeanNames str registry with
  | error failure =>
    rw [hnames] at h
    cases failure with
    | client e =>
      obtain rfl := Except.ok.inj h
      cases hg
    | raises e => cases h
  | ok names =>
    rw [hnames] at h
    dsimp only at h
    split_ifs at h with hpaths
    · obtain rfl := Except.ok.inj h
      cases hg
    · obtain ⟨reads, hreads, h⟩ := bind_eq_ok.1 h
      obtain rfl := Except.ok.inj h
      obtain ⟨read, hread, hgroup⟩ := List.mem_filterMap.1 hg
      obtain ⟨⟨⟨name, path⟩, i⟩, hmem, hone⟩ := (mapM_elements hreads).2 read hread
      obtain rfl : read = .ok g := by
        cases read with
        | error e => cases hgroup
        | ok g' =>
          obtain rfl := Option.some.inj hgroup
          rfl
      obtain ⟨hne, hsegments⟩ := groupPaths_segments (List.mem_of_getElem? (List.mem_zipIdx_iff_getElem?.1 hmem))
      rw [readGroup_id hone]
      exact intercalate_ne_nil hne hsegments

end Collect

end TrinoManagement.Ticks
