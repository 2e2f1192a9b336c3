/-
The live queries of one cluster and of all of them, `tms/api/services.py`: two lists over the same snapshots, with two sets
of filters.

- `listQueries`: one cluster's list. A group is asked for by its dotted path, and means everything beneath it.
- `listQueriesAll`: every cluster's queries in one list, the longest running first. `filterQueries` are its filters.
- `rowsOf_all`: the part of one cluster is that cluster's queries under those filters.
-/
import Mathlib.Tactic
import TrinoManagement.Collector.Poller
import TrinoManagement.Core.Audit
import TrinoManagement.Core.Dict
import TrinoManagement.Ops.Service

namespace TrinoManagement.Queries

open TrinoManagement.Audit
open TrinoManagement.Collector
open TrinoManagement.Service (Exn)

/-! ## Requests -/

/-- the clusters, which were checked to be distinct, and what is taken from Python and the link templates -/
structure QueriesConfig where
  clusters : List String
  distinct : clusters.Nodup
  staleThreshold : ℚ
  str : Value → String
  lower : String → String
  logUrl : ℚ → Value → String → Option String
  historyUrl : Value → Option String

structure Filters where
  state : Option (List String)
  user : Option String
  minElapsedSeconds : Option ℚ
  resourceGroup : Option String
deriving DecidableEq

/-- a row, with its links -/
structure LinkedRow where
  query : QueryRow
  links : List (String × String)
deriving DecidableEq

/-- a row of the merged list -/
structure FleetRow where
  cluster : String
  row : LinkedRow
deriving DecidableEq

/-- what `list_queries` returns, its envelope included; the summary may be empty -/
structure Listing where
  collectedAt : Option ℚ
  stale : Bool
  summary : Option Summary
  queries : List LinkedRow
  truncated : Bool
  unavailableReason : Option String
  advice : Option String
deriving DecidableEq

/-- one cluster of the merged list -/
structure ClusterEntry where
  name : String
  stale : Bool
  collectedAt : Option ℚ
  unavailableReason : Option String
  advice : Option String
deriving DecidableEq

/-- what `list_queries_all` returns -/
structure FleetListing where
  collectedAt : Option ℚ
  stale : Bool
  summary : Summary
  queries : List FleetRow
  truncated : Bool
  clusters : List ClusterEntry
deriving DecidableEq

def viewQueries : String := "view_queries"

def maxPageSize : ℤ := 500

/-- `max(1, min(int(limit), MAX_PAGE_SIZE))` -/
def pageSize (limit : ℤ) : ℕ := (max 1 (min limit maxPageSize)).toNat

section Queries

variable (cfg : QueriesConfig)

/-! ## Filters -/

/-- `require` -/
def requires (principal : Principal) (capability : String) : Except Exn Unit :=
  if principal.can capability then .ok ()
  else .error (.forbidden ("Your role does not include " ++ capability ++ " (roles: " ++
    (if principal.roles = [] then "none" else ", ".intercalate principal.roles) ++ ")."))

/-- an argument that is there and not empty -/
def given (text : Option String) : Option String := text.filter (· ≠ "")

def groupPath (q : QueryRow) : List Value := q.resourceGroupId.getD []

/-- `in_resource_group`: the dotted path, or one beneath it -/
def inResourceGroup (q : QueryRow) (group : String) : Bool :=
  if group = "" then false
  else
    let dotted := ".".intercalate ((groupPath q).map cfg.str)
    dotted == group || (group ++ ".").toList.isPrefixOf dotted.toList

/-- the test of the merged list: one segment of the path -/
def hasSegment (q : QueryRow) (group : String) : Bool := decide (.str group ∈ groupPath q)

def inState (state : Option (List String)) (q : QueryRow) : Bool :=
  match state.filter (· ≠ []) with
  | some wanted => stateIn wanted q.state
  | none => true

/-- at least so long, in milliseconds; the product is rounded, and infinite if it is too large. A query without a time has
run for none. -/
def longEnough (minElapsedSeconds : Option ℚ) (q : QueryRow) : Bool :=
  match minElapsedSeconds with
  | some s =>
    if overflows (s * 1000) then decide (s < 0) else decide (roundFloat (s * 1000) ≤ q.elapsedMs.getD 0)
  | none => true

/-- `_query_links` -/
def queryLinks (now : ℚ) (cluster : String) (q : QueryRow) : List (String × String) :=
  ((given (cfg.logUrl now q.queryId cluster)).map fun url => ("logs", url)).toList ++
    ((given (cfg.historyUrl q.queryId)).map fun url => ("history", url)).toList

def linked (now : ℚ) (cluster : String) (q : QueryRow) : LinkedRow := ⟨q, queryLinks cfg now cluster q⟩

/-! ## One cluster -/

def isUser (user : Option String) (q : QueryRow) : Bool :=
  match given user with
  | some user => decide (q.user = .str user)
  | none => true

def inGroup (group : Option String) (q : QueryRow) : Bool :=
  match given group with
  | some group => inResourceGroup cfg q group
  | none => true

/-- every filter but that of the state -/
def narrowed (f : Filters) (queries : List QueryRow) : List QueryRow :=
  ((queries.filter (isUser f.user)).filter (inGroup cfg f.resourceGroup)).filter (longEnough f.minElapsedSeconds)

def knownCluster (cluster : String) : Except Exn Unit :=
  if cluster ∈ cfg.clusters then .ok () else .error (.notFound ("Unknown cluster: " ++ cluster))

/-- the rows of a snapshot -/
def rowsIn (s : QueriesSnapshot) : List QueryRow := (s.payload.map QueriesPayload.queries).getD []

def summaryIn (s : QueriesSnapshot) : Option Summary := s.payload.map QueriesPayload.summary

/-- `list_queries` -/
def listQueries (snapshots : Dict QueriesSnapshot) (now : ℚ) (principal : Principal) (cluster : String) (f : Filters)
    (limit : ℤ) : Except Exn Listing := do
  requires principal viewQueries
  knownCluster cfg cluster
  match snapshots.lookup cluster with
  | none => pure ⟨none, true, none, [], false, some "No data collected yet.", none⟩
  | some s =>
    if s.trustworthy then
      let narrow := narrowed cfg f (rowsIn s)
      let queries := narrow.filter (inState f.state)
      let everything := given f.user = none ∧ given f.resourceGroup = none ∧ f.minElapsedSeconds.getD 0 = 0
      pure ⟨some s.collectedAt, s.isStale now cfg.staleThreshold,
        if everything then summaryIn s else some (summary narrow),
        (queries.take (pageSize limit)).map (linked cfg now cluster), decide (pageSize limit < queries.length), none, none⟩
    else pure ⟨some s.collectedAt, s.isStale now cfg.staleThreshold, none, [], false, s.collectionError, s.advice⟩

/-! ## All of them -/

/-- the user's name holds the text, in lower case -/
def likeUser (user : Option String) (q : QueryRow) : Bool :=
  match given user with
  | some user => decide ((cfg.lower user).toList <:+: (cfg.lower (if q.user.truthy then cfg.str q.user else "")).toList)
  | none => true

def inSegment (group : Option String) (q : QueryRow) : Bool :=
  match given group with
  | some group => hasSegment q group
  | none => true

/-- `_filter_queries` -/
def filterQueries (f : Filters) (rows : List FleetRow) : List FleetRow :=
  (((rows.filter fun r => inState f.state r.row.query).filter fun r => likeUser cfg f.user r.row.query).filter fun r =>
    inSegment f.resourceGroup r.row.query).filter fun r => longEnough f.minElapsedSeconds r.row.query

/-- the rows of a cluster whose snapshot is to be trusted -/
def mergedOf (snapshots : Dict QueriesSnapshot) (now : ℚ) (cluster : String) : List FleetRow :=
  match snapshots.lookup cluster with
  | some s => if s.trustworthy then (rowsIn s).map fun q => ⟨cluster, linked cfg now cluster q⟩ else []
  | none => []

def entryOf (snapshots : Dict QueriesSnapshot) (now : ℚ) (cluster : String) : ClusterEntry :=
  match snapshots.lookup cluster with
  | none => ⟨cluster, true, none, some "No data collected yet.", none⟩
  | some s =>
    if s.trustworthy then ⟨cluster, s.isStale now cfg.staleThreshold, some s.collectedAt, none, none⟩
    else ⟨cluster, s.isStale now cfg.staleThreshold, some s.collectedAt, s.collectionError, s.advice⟩

/-- the sum of the counts of the snapshots to be trusted -/
def addSummary (a b : Summary) : Summary :=
  ⟨a.running + b.running, a.queued + b.queued, a.longRunning + b.longRunning, a.total + b.total⟩

def totalOf (snapshots : Dict QueriesSnapshot) : Summary :=
  ((cfg.clusters.filterMap fun c => (snapshots.lookup c).filter (·.trustworthy)).filterMap summaryIn).foldl addSummary
    ⟨0, 0, 0, 0⟩

/-- the oldest of the snapshots, to be trusted or not -/
def oldestOf (snapshots : Dict QueriesSnapshot) : Option ℚ :=
  ((cfg.clusters.filterMap fun c => snapshots.lookup c).map fun s => s.collectedAt).min?

/-- `merged.sort(key=..., reverse=True)`, which leaves equals in their order -/
def longestFirst (rows : List FleetRow) : List FleetRow :=
  rows.insertionSort fun a b => b.row.query.elapsedMs.getD 0 ≤ a.row.query.elapsedMs.getD 0

/-- `list_queries_all` -/
def listQueriesAll (snapshots : Dict QueriesSnapshot) (now : ℚ) (principal : Principal) (f : Filters) (limit : ℤ) :
    Except Exn FleetListing := do
  requires principal viewQueries
  let merged := longestFirst (filterQueries cfg f (cfg.clusters.flatMap (mergedOf cfg snapshots now)))
  let entries := cfg.clusters.map (entryOf cfg snapshots now)
  pure ⟨oldestOf cfg snapshots, entries.any (·.stale), totalOf cfg snapshots, merged.take (pageSize limit),
    decide (pageSize limit < merged.length), entries⟩

/-! ## The part of one cluster -/

/-- the rows of one cluster -/
def rowsOf (cluster : String) (rows : List FleetRow) : List LinkedRow :=
  (rows.filter fun r => r.cluster = cluster).map FleetRow.row

/-- all filters of the merged list -/
def passesAll (f : Filters) (q : QueryRow) : Bool :=
  longEnough f.minElapsedSeconds q && inSegment f.resourceGroup q && likeUser cfg f.user q && inState f.state q

/-- all filters of the list of one cluster -/
def passesOne (f : Filters) (q : QueryRow) : Bool :=
  inState f.state q && longEnough f.minElapsedSeconds q && inGroup cfg f.resourceGroup q && isUser f.user q

end Queries

section RowsOf

variable {cfg : QueriesConfig} {snapshots : Dict QueriesSnapshot} {now : ℚ} {cluster : String} {f : Filters}

theorem filterQueries_eq (rows : List FleetRow) : filterQueries cfg f rows = rows.filter fun r => passesAll cfg f r.row.query := by
  simp only [filterQueries, List.filter_filter]
  refine List.filter_congr ?_
  intro r _
  simp only [passesAll, Bool.and_assoc]

theorem narrowed_eq (rows : List QueryRow) : (narrowed cfg f rows).filter (inState f.state) = rows.filter (passesOne cfg f) := by
  simp only [narrowed, List.filter_filter]
  refine List.filter_congr ?_
  intro q _
  simp only [passesOne, Bool.and_assoc]

theorem cluster_of_merged {r : FleetRow} (h : r ∈ mergedOf cfg snapshots now cluster) : r.cluster = cluster := by
  unfold mergedOf at h
  split at h
  · split_ifs at h
    · obtain ⟨q, -, rfl⟩ := List.mem_map.1 h
      rfl
    · cases h
  · cases h

/-- the merged rows that belong to a cluster come from it -/
theorem merged_filter {clusters : List String} (hdistinct : clusters.Nodup) (h : cluster ∈ clusters) :
    (clusters.flatMap (mergedOf cfg snapshots now)).filter (fun r => r.cluster = cluster) =
      mergedOf cfg snapshots now cluster := by
  have hown : ∀ c, (mergedOf cfg snapshots now c).filter (fun r => r.cluster = cluster) =
      if c = cluster then mergedOf cfg snapshots now cluster else [] := by
    intro c
    split_ifs with hc
    · subst hc
      refine List.filter_eq_self.2 ?_
      intro r hr
      exact decide_eq_true (cluster_of_merged hr)
    · refine List.filter_eq_nil_iff.2 ?_
      intro r hr
      rw [cluster_of_merged hr]
      simpa using hc
  induction clusters with
  | nil => cases h
  | cons c rest ih =>
    obtain ⟨hc, hrest⟩ := List.nodup_cons.1 hdistinct
    rw [List.flatMap_cons, List.filter_append, hown c]
    by_cases heq : c = cluster
    · have hnone : (rest.flatMap (mergedOf cfg snapshots now)).filter (fun r => r.cluster = cluster) = [] := by
        refine List.filter_eq_nil_iff.2 ?_
        intro r hr
        obtain ⟨c', hc', hr⟩ := List.mem_flatMap.1 hr
        rw [cluster_of_merged hr]
        intro hsame
        exact hc (heq ▸ of_decide_eq_true hsame ▸ hc')
      rw [if_pos heq, hnone, List.append_nil]
    · rw [if_neg heq, List.nil_append]
      exact ih hrest ((List.mem_cons.1 h).resolve_left (Ne.symm heq))

/-- **The part of one cluster** in the merged list is, up to order, that cluster's queries under its filters. -/
theorem rowsOf_all (hcluster : cluster ∈ cfg.clusters) {s : QueriesSnapshot} (hs : snapshots.lookup cluster = some s)
    (htrust : s.trustworthy = true) :
    (rowsOf cluster (longestFirst (filterQueries cfg f (cfg.clusters.flatMap (mergedOf cfg snapshots now))))).Perm
      (((rowsIn s).filter (passesAll cfg f)).map (linked cfg now cluster)) := by
  have hsorted : (rowsOf cluster (longestFirst (filterQueries cfg f (cfg.clusters.flatMap (mergedOf cfg snapshots now))))).Perm
      (rowsOf cluster (filterQueries cfg f (cfg.clusters.flatMap (mergedOf cfg snapshots now)))) :=
    ((List.perm_insertionSort _ _).filter _).map _
  refine hsorted.trans (List.Perm.of_eq ?_)
  have hmerged : mergedOf cfg snapshots now cluster = (rowsIn s).map fun q => ⟨cluster, linked cfg now cluster q⟩ := by
    simp only [mergedOf, hs, htrust, if_true]
  calc rowsOf cluster (filterQueries cfg f (cfg.clusters.flatMap (mergedOf cfg snapshots now)))
      = (((cfg.clusters.flatMap (mergedOf cfg snapshots now)).filter fun r => r.cluster = cluster).filter
          fun r => passesAll cfg f r.row.query).map FleetRow.row := by
        rw [rowsOf, filterQueries_eq, List.filter_filter, List.filter_filter]
        congr 1
        refine List.filter_congr ?_
        intro r _
        exact Bool.and_comm _ _
    _ = ((rowsIn s).filter (passesAll cfg f)).map (linked cfg now cluster) := by
        rw [merged_filter cfg.distinct hcluster, hmerged, List.filter_map, List.map_map]
        rfl

end RowsOf

end TrinoManagement.Queries
