/-
The queue of each resource group, `_add_queue_age` of `tms/api/services.py`: how long the query at its head has been waiting.

- `credits`: the groups a waiting query counts for, each ancestor by its dotted path.
- `lookup_oldest`: what is noted of a group is the longest of the times credited to it.
-/
import Mathlib.Tactic
import TrinoManagement.Api.Queries

namespace TrinoManagement.Workload

open TrinoManagement.Collector
open TrinoManagement.Queries (QueriesConfig groupPath)

/-- the part of the workload payload that is read and written here -/
structure Payload where
  groups : List (Dict Value)
  queueAgeAt : Option ℚ
deriving DecidableEq

section QueueAge

variable (cfg : QueriesConfig)

/-- a queued query of a known time counts for every group on its path -/
def credits (q : QueryRow) : List (String × ℚ) :=
  if q.state ≠ .str "QUEUED" then []
  else
    match q.queuedMs with
    | none => []
    | some waited => (List.range (groupPath q).length).map fun depth =>
        (".".intercalate (((groupPath q).take (depth + 1)).map cfg.str), waited)

/-- `if waited > oldest.get(key, -1): oldest[key] = waited` -/
def credit (oldest : Dict ℚ) (c : String × ℚ) : Dict ℚ :=
  if (oldest.lookup c.1).getD (-1) < c.2 then oldest.set c.1 c.2 else oldest

def oldest (queries : List QueryRow) : Dict ℚ := (queries.flatMap (credits cfg)).foldl credit []

/-- `oldest.get(group.get("id"))`; only a text is a key -/
def oldestOf (oldest : Dict ℚ) (group : Dict Value) : Value :=
  match group.lookup "id" with
  | some (.str id) => ((oldest.lookup id).map Value.float).getD .none
  | _ => .none

def reported (s : QueriesSnapshot) : List QueryRow := s.payload.elim [] (·.queries)

/-- `_add_queue_age`: from a snapshot that is not to be trusted no time is shown -/
def addQueueAge (snapshot : Option QueriesSnapshot) (w : Payload) : Payload :=
  if w.groups = [] then w
  else
    match snapshot with
    | none => w
    | some s =>
      if s.trustworthy = false then w
      else
        let oldest := oldest cfg (reported s)
        { groups := w.groups.map fun group => group.set "oldest_queued_ms" (oldestOf oldest group)
          queueAgeAt := some s.collectedAt }

end QueueAge

/-! ## What is noted -/

section Oldest

variable {cfg : QueriesConfig} {cs : List (String × ℚ)} {key : String}

/-- the times credited to one group -/
def creditedTo (key : String) (cs : List (String × ℚ)) : List ℚ := (cs.filter (·.1 = key)).map (·.2)

theorem max?_snoc (l : List ℚ) (x : ℚ) : (l ++ [x]).max? = some (l.max?.elim x (max · x)) := by
  cases l with
  | nil => rfl
  | cons y l => rw [List.cons_append, List.max?_cons', List.max?_cons', List.foldl_append, List.foldl_cons, List.foldl_nil,
      Option.elim_some]

theorem lookup_credit (d : Dict ℚ) (c : String × ℚ) (hnonneg : 0 ≤ c.2) : (credit d c).lookup key =
    if key = c.1 then some ((d.lookup key).elim c.2 (max · c.2)) else d.lookup key := by
  unfold credit
  split_ifs with hless hkey hkey
  · rw [Dict.lookup_set, if_pos hkey, hkey]
    cases hd : d.lookup c.1 with
    | none => rfl
    | some ms =>
      rw [hd, Option.getD_some] at hless
      rw [Option.elim_some, max_eq_right hless.le]
  · rw [Dict.lookup_set, if_neg hkey]
  · rw [hkey]
    cases hd : d.lookup c.1 with
    | none =>
      rw [hd, Option.getD_none] at hless
      linarith
    | some ms =>
      rw [hd, Option.getD_some, not_lt] at hless
      rw [Option.elim_some, max_eq_left hless]
  · rfl

/-- **The longest time.** -/
theorem lookup_credits (hnonneg : ∀ c ∈ cs, 0 ≤ c.2) : (cs.foldl credit []).lookup key = (creditedTo key cs).max? := by
  induction cs using List.reverseRecOn with
  | nil => rfl
  | append_singleton cs c ih =>
    have hc : 0 ≤ c.2 := hnonneg c (List.mem_append_right cs List.mem_cons_self)
    rw [List.foldl_append, List.foldl_cons, List.foldl_nil, lookup_credit _ c hc,
      ih fun c hc => hnonneg c (List.mem_append_left _ hc)]
    by_cases hkey : key = c.1
    · have hcredited : creditedTo key (cs ++ [c]) = creditedTo key cs ++ [c.2] := by
        simp [creditedTo, hkey]
      rw [if_pos hkey, hcredited, max?_snoc]
    · have hcredited : creditedTo key (cs ++ [c]) = creditedTo key cs := by
        simp [creditedTo, Ne.symm hkey]
      rw [if_neg hkey, hcredited]

theorem credits_snd {q : QueryRow} {c : String × ℚ} (h : c ∈ credits cfg q) : q.queuedMs = some c.2 := by
  unfold credits at h
  split_ifs at h with hstate
  · cases h
  · cases hqueued : q.queuedMs with
    | none =>
      rw [hqueued] at h
      cases h
    | some waited =>
      rw [hqueued] at h
      obtain ⟨depth, -, rfl⟩ := List.mem_map.1 h
      rfl

theorem lookup_oldest {queries : List QueryRow} (hnonneg : ∀ q ∈ queries, ∀ ms, q.queuedMs = some ms → 0 ≤ ms) :
    (oldest cfg queries).lookup key = (creditedTo key (queries.flatMap (credits cfg))).max? := by
  refine lookup_credits fun c hc => ?_
  obtain ⟨q, hq, hc⟩ := List.mem_flatMap.1 hc
  exact hnonneg q hq c.2 (credits_snd hc)

end Oldest

end TrinoManagement.Workload
