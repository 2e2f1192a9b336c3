/-
The list of every cluster's queries beside the list of one: the same filters, twice.

A group is a dotted path to the one list and a single segment to the other.
- `OnlySegment`, `OnlyBeneath`: the two ways a query falls between the tests.
- `fleet_list_agrees`: one cluster's part of the merged list is its own list, up to order, iff no query that passes the
  other filters does.
- `adhoc_differs`: both happen.
-/
import Mathlib.Tactic
import TrinoManagement.Api.Queries

namespace TrinoManagement.Queries

open TrinoManagement.Audit
open TrinoManagement.Collector
open TrinoManagement.Service (Exn)

/-! ## The two tests -/

section Tests

variable (cfg : QueriesConfig)

/-- the group is a segment of the path, further down or in another tree -/
def OnlySegment (q : QueryRow) (group : String) : Prop := hasSegment q group = true ∧ inResourceGroup cfg q group = false

/-- the query is in the group or beneath it, and no segment is the whole of it -/
def OnlyBeneath (q : QueryRow) (group : String) : Prop := inResourceGroup cfg q group = true ∧ hasSegment q group = false

variable {cfg} {snapshots : Dict QueriesSnapshot} {now : ℚ} {principal : Principal} {cluster : String} {f : Filters}
  {limit limit' : ℤ} {listing : Listing} {all : FleetListing} {s : QueriesSnapshot}

theorem tests_agree {q : QueryRow} {group : Option String} : inSegment group q = inGroup cfg group q ↔
    ∀ g, given group = some g → ¬OnlySegment cfg q g ∧ ¬OnlyBeneath cfg q g := by
  unfold inSegment inGroup OnlySegment OnlyBeneath
  cases given group with
  | none => simp
  | some g =>
    simp only [Option.some.injEq, forall_eq']
    cases hasSegment q g <;> cases inResourceGroup cfg q g <;> simp

/-! ## Both lists -/

/-- two filters leave the same queries iff they agree on each -/
theorem filter_perm_iff {α : Type} {p p' : α → Bool} {l : List α} :
    (l.filter p).Perm (l.filter p') ↔ ∀ x ∈ l, p x = p' x := by
  constructor
  · intro hperm x hx
    have hmem := hperm.mem_iff (a := x)
    simp only [List.mem_filter, hx, true_and] at hmem
    exact Bool.eq_iff_iff.2 hmem
  · intro hsame
    rw [List.filter_congr hsame]

theorem linked_injective : Function.Injective (linked cfg now cluster) := by
  intro q q' heq
  exact congrArg LinkedRow.query heq

theorem take_of_fits {α : Type} {n : ℕ} {l : List α} (h : decide (n < l.length) = false) : l.take n = l :=
  List.take_of_length_le (not_lt.1 (of_decide_eq_false h))

/-- one cluster's list, if it has not been cut -/
theorem listing_rows (hone : listQueries cfg snapshots now principal cluster f limit = .ok listing)
    (hs : snapshots.lookup cluster = some s) (htrust : s.trustworthy = true) (hfits : listing.truncated = false) :
    cluster ∈ cfg.clusters ∧
      listing.queries = ((rowsIn s).filter (passesOne cfg f)).map (linked cfg now cluster) := by
  unfold listQueries at hone
  obtain ⟨_, -, hone⟩ := bind_eq_ok.1 hone
  obtain ⟨_, hknown, hone⟩ := bind_eq_ok.1 hone
  rw [hs] at hone
  simp only [htrust, if_true] at hone
  obtain rfl := Except.ok.inj hone
  constructor
  · unfold knownCluster at hknown
    split_ifs at hknown with hmem
    exact hmem
  · simp only [narrowed_eq] at hfits ⊢
    rw [take_of_fits hfits]

theorem all_rows (hall : listQueriesAll cfg snapshots now principal f limit = .ok all) (hfits : all.truncated = false) :
    all.queries = longestFirst (filterQueries cfg f (cfg.clusters.flatMap (mergedOf cfg snapshots now))) := by
  unfold listQueriesAll at hall
  obtain ⟨_, -, hall⟩ := bind_eq_ok.1 hall
  obtain rfl := Except.ok.inj hall
  exact take_of_fits hfits

/-- **The merged list agrees with the list of a cluster**, up to order, iff no query that passes the other filters falls
between the two tests for the group. -/
theorem fleet_list_agrees (hone : listQueries cfg snapshots now principal cluster f limit = .ok listing)
    (hall : listQueriesAll cfg snapshots now principal f limit' = .ok all) (hs : snapshots.lookup cluster = some s)
    (htrust : s.trustworthy = true) (huser : f.user = none) (hfits : listing.truncated = false)
    (hfits' : all.truncated = false) :
    (rowsOf cluster all.queries).Perm listing.queries ↔
      ∀ g, given f.resourceGroup = some g → ∀ q ∈ rowsIn s, inState f.state q = true →
        longEnough f.minElapsedSeconds q = true → ¬OnlySegment cfg q g ∧ ¬OnlyBeneath cfg q g := by
  obtain ⟨hmem, hrows⟩ := listing_rows hone hs htrust hfits
  rw [hrows, all_rows hall hfits']
  have hpart : (rowsOf cluster (longestFirst (filterQueries cfg f (cfg.clusters.flatMap (mergedOf cfg snapshots now))))).Perm
      (((rowsIn s).filter (passesAll cfg f)).map (linked cfg now cluster)) := rowsOf_all hmem hs htrust
  calc _ ↔ (((rowsIn s).filter (passesAll cfg f)).map (linked cfg now cluster)).Perm
        (((rowsIn s).filter (passesOne cfg f)).map (linked cfg now cluster)) :=
        ⟨fun h => hpart.symm.trans h, fun h => hpart.trans h⟩
    _ ↔ ∀ q ∈ rowsIn s, passesAll cfg f q = passesOne cfg f q := by
        rw [List.map_perm_map_iff linked_injective, filter_perm_iff]
    _ ↔ ∀ q ∈ rowsIn s, inState f.state q = true → longEnough f.minElapsedSeconds q = true →
          inSegment f.resourceGroup q = inGroup cfg f.resourceGroup q := by
        refine forall₂_congr ?_
        intro q _
        have hany : given f.user = none := by rw [huser]; rfl
        simp only [passesAll, passesOne, likeUser, isUser, hany, Bool.and_true]
        cases inState f.state q <;> cases longEnough f.minElapsedSeconds q <;> simp
    _ ↔ _ := by
        constructor
        · intro h g hg q hq hstate hlong
          exact tests_agree.1 (h q hq hstate hlong) g hg
        · intro h q hq hstate hlong
          exact tests_agree.2 fun g hg => h g hg q hq hstate hlong

end Tests

/-! ## Two groups called adhoc -/

def asciiQueries : QueriesConfig where
  clusters := ["a"]
  distinct := by decide
  staleThreshold := 60
  str v := match v with
    | .str s => s
    | _ => ""
  lower := id
  logUrl _ _ _ := none
  historyUrl _ := none

/-- a running query in a group -/
def queryIn (id : String) (path : List String) : QueryRow :=
  ⟨.str id, .str "RUNNING", .str "jane", .none, some (path.map Value.str), some 1000, none, none, none, none, .none, .none,
    .none, .none, "SELECT 1", false, false⟩

def adhocRows : List QueryRow := [queryIn "q1" ["global", "adhoc"], queryIn "q2" ["etl", "adhoc"], queryIn "q3" ["adhoc"]]

def adhocSnapshot : QueriesSnapshot :=
  ⟨⟨"a", 0, some ⟨adhocRows, summary adhocRows, 0, 5⟩, none, none⟩, fun _ => rfl⟩

def viewer : Principal := ⟨"jane", ["viewer"]⟩

def forGroup (group : String) : Filters := ⟨none, none, none, some group⟩

/-- the ids of both lists, under one group -/
def bothLists (group : String) : Except Exn (List Value × List Value) := do
  let listing ← listQueries asciiQueries [("a", adhocSnapshot)] 10 viewer "a" (forGroup group) 100
  let all ← listQueriesAll asciiQueries [("a", adhocSnapshot)] 10 viewer (forGroup group) 100
  pure (listing.queries.map fun r => r.query.queryId, (rowsOf "a" all.queries).map fun r => r.query.queryId)

/-- a group of a single segment, which no other path has -/
theorem fleet_list_agrees_etl : ∃ listing all,
    listQueries asciiQueries [("a", adhocSnapshot)] 10 viewer "a" (forGroup "etl") 100 = .ok listing ∧
      listQueriesAll asciiQueries [("a", adhocSnapshot)] 10 viewer (forGroup "etl") 100 = .ok all ∧
      (rowsOf "a" all.queries).Perm listing.queries := by
  have hone : ∃ listing, listQueries asciiQueries [("a", adhocSnapshot)] 10 viewer "a" (forGroup "etl") 100 = .ok listing ∧
      listing.truncated = false := ⟨_, rfl, rfl⟩
  have hall : ∃ all, listQueriesAll asciiQueries [("a", adhocSnapshot)] 10 viewer (forGroup "etl") 100 = .ok all ∧
      all.truncated = false := ⟨_, rfl, rfl⟩
  obtain ⟨listing, hone, hfits⟩ := hone
  obtain ⟨all, hall, hfits'⟩ := hall
  refine ⟨listing, all, hone, hall, (fleet_list_agrees hone hall rfl rfl rfl hfits hfits').2 ?_⟩
  intro g hg q hq _ _
  obtain rfl := Option.some.inj hg
  revert q
  unfold OnlySegment OnlyBeneath
  decide +kernel

/-- **Both ways**: `adhoc` is a segment of three paths and the root of one, `global.adhoc` is a path and no segment. -/
theorem adhoc_differs : bothLists "adhoc" = .ok ([.str "q3"], [.str "q1", .str "q2", .str "q3"]) ∧
    bothLists "global.adhoc" = .ok ([.str "q1"], []) := by
  decide +kernel

end TrinoManagement.Queries
