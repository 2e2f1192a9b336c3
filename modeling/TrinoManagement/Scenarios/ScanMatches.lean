/-
A scan lists no machine twice: what it adds are machines apart, and none of them is in the list; what it leaves silent is
not in the answer; and what it writes is no duplicate.

The answer's hosts are normalised, the list's hosts and addresses are not, and an answer may repeat a host.
- `PlanSound`: what is claimed of a plan. `Matched`: the lists and answers with which it is so.
- `plan_sound`: exactly these. `listed_twice` has a machine that is reported twice, and one with a capital letter.
-/
import Mathlib.Tactic
import TrinoManagement.Fleet.Machines
import TrinoManagement.Scenarios.InventoryRoundTrip

namespace TrinoManagement.Nodes

open TrinoManagement.Guard

section Plan

variable (lib : Library) (cluster : String) (existing : NodeList) (found : List Found)

/-- the writes of a plan -/
def applyPlan (seenAt : ℤ) (plan : Plan) : NodeM Unit := do
  addAll cluster seenAt plan.added
  touchAll cluster seenAt plan.touched

/-- the answer has a row's machine -/
def Answers (row : NodeRow) : Prop := ∃ node ∈ found, node.host ∈ names lib row

structure PlanSound : Prop where
  distinct : ((planRefresh existing.rows found).added.map (·.host)).Nodup
  unlisted : ∀ node ∈ (planRefresh existing.rows found).added, ∀ row ∈ existing.rows, node.host ∉ names lib row
  silent : ∀ row ∈ existing.rows, row ∈ (planRefresh existing.rows found).silent ↔ ¬Answers lib found row
  applies : ∀ collate seenAt (w : NodeWorld), (∀ row ∈ w.rows, row.cluster = cluster → row ∈ existing.rows) →
    Post (serveNodes collate) (fun _ => True) (applyPlan cluster seenAt (planRefresh existing.rows found))
      (fun x _ => ∀ m, x ≠ .error (duplicateNode m)) w

/-- a host that is no row's host or address as it stands -/
def Foreign (host : String) : Prop := ∀ row ∈ existing.rows, row.host ≠ host ∧ row.at ≠ host

instance (host : String) : Decidable (Foreign existing host) :=
  inferInstanceAs (Decidable (∀ row ∈ existing.rows, row.host ≠ host ∧ row.at ≠ host))

/-- a row's own host; or its address, if no row has that host and no row before it that address -/
def Found.isOf (node : Found) (row : NodeRow) : Prop :=
  node.host = row.host ∨ (∀ r ∈ existing.rows, r.host ≠ node.host) ∧
    ∃ before after, existing.rows = before ++ row :: after ∧ row.at = node.host ∧ ∀ r ∈ before, r.at ≠ node.host

/-- the lists and answers that go together -/
structure Matched : Prop where
  /-- no foreign host is reported twice -/
  once : ((found.map (·.host)).filter fun host => Foreign existing host).Nodup
  /-- no foreign host is a row's once that is normalised -/
  apart : ∀ node ∈ found, Foreign existing node.host → ∀ row ∈ existing.rows, node.host ∉ names lib row
  /-- a row whose machine is reported is reported by its own host, or by its address -/
  own : ∀ row ∈ existing.rows, Answers lib found row → ∃ node ∈ found, node.isOf existing row

end Plan

section Sound

variable {lib : Library} {cluster : String} {existing : NodeList} {found : List Found} {row : NodeRow} {node : Found}

theorem foreign_iff {host : String} : Foreign existing host ↔ resolve existing.rows host = none := resolve_eq_none.symm

/-- what a host resolves to, said of the list -/
theorem isOf_iff (hrow : row ∈ existing.rows) : node.isOf existing row ↔ resolve existing.rows node.host = some row := by
  rw [resolve, Option.or_eq_some_iff]
  refine or_congr ?_ (and_congr ?_ ?_)
  · constructor
    · intro hhost
      obtain ⟨r, hr⟩ : ∃ r, existing.rows.find? (fun r => r.host == node.host) = some r := by
        rw [← Option.isSome_iff_exists, List.find?_isSome]
        exact ⟨row, hrow, by simp [hhost]⟩
      have hsame : r.host = node.host := by simpa using List.find?_some hr
      rw [hr, eq_of_host existing.keyed (List.mem_of_find?_eq_some hr) hrow (hsame.trans hhost)]
    · intro hfind
      have hhost : row.host = node.host := by simpa using List.find?_some hfind
      exact hhost.symm
  · simp only [List.find?_eq_none, beq_iff_eq, ne_eq]
  · simp only [List.find?_eq_some_iff_append, beq_iff_eq, Bool.not_eq_true', beq_eq_false_iff_ne, ne_eq]
    constructor
    · rintro ⟨before, after, hsplit, hat, hbefore⟩
      exact ⟨hat, before, after, hsplit, hbefore⟩
    · rintro ⟨hat, before, after, hsplit, hbefore⟩
      exact ⟨before, after, hsplit, hat, hbefore⟩

theorem added_hosts : (planRefresh existing.rows found).added.map (·.host) =
    (found.map (·.host)).filter fun host => Foreign existing host := by
  rw [added_planRefresh existing.keyed, List.filter_map]
  congr 1
  refine List.filter_congr ?_
  intro node _
  simp only [Function.comp_apply, foreign_iff]

theorem mem_added : node ∈ (planRefresh existing.rows found).added ↔ node ∈ found ∧ Foreign existing node.host := by
  rw [added_planRefresh existing.keyed, List.mem_filter, decide_eq_true_eq, foreign_iff]

/-- the writes of a plan whose additions are apart, over the table it was made from -/
theorem applyPlan_keeps (hdistinct : ((planRefresh existing.rows found).added.map (·.host)).Nodup)
    (collate : String → String → Bool) (seenAt : ℤ) (w : NodeWorld)
    (hw : ∀ row ∈ w.rows, row.cluster = cluster → row ∈ existing.rows) :
    Post (serveNodes collate) (fun _ => True) (applyPlan cluster seenAt (planRefresh existing.rows found))
      (fun x _ => ∀ m, x ≠ .error (duplicateNode m)) w := by
  have hnew : ∀ node ∈ (planRefresh existing.rows found).added, ∀ row ∈ w.rows, row.cluster = cluster →
      row.host ≠ node.host := by
    intro node hnode row hrow hcluster
    exact ((mem_added.1 hnode).2 row (hw row hrow hcluster)).1
  refine post_bind (post_mono (addAll_keeps hdistinct hnew) ?_)
  intro x w' hx
  cases x with
  | error e => exact hx
  | ok _ => exact touchAll_keeps

/-- **A scan lists no machine twice** exactly if list and answer go together. -/
theorem plan_sound : PlanSound lib cluster existing found ↔ Matched lib existing found := by
  constructor
  · intro h
    refine ⟨added_hosts ▸ h.distinct, ?_, ?_⟩
    · intro node hnode hforeign
      exact h.unlisted node (mem_added.2 ⟨hnode, hforeign⟩)
    · intro row hrow hanswers
      by_contra hnone
      have hsilent : row ∈ (planRefresh existing.rows found).silent := by
        rw [mem_silent existing.keyed]
        refine ⟨hrow, ?_⟩
        intro node hnode hresolve
        exact hnone ⟨node, hnode, (isOf_iff hrow).2 hresolve⟩
      exact (h.silent row hrow).1 hsilent hanswers
  · intro h
    have hdistinct : ((planRefresh existing.rows found).added.map (·.host)).Nodup := added_hosts ▸ h.once
    refine ⟨hdistinct, ?_, ?_, fun collate seenAt w hw => applyPlan_keeps hdistinct collate seenAt w hw⟩
    · intro node hnode row hrow
      obtain ⟨hfound, hforeign⟩ := mem_added.1 hnode
      exact h.apart node hfound hforeign row hrow
    · intro row hrow
      rw [mem_silent existing.keyed, and_iff_right hrow]
      constructor
      · intro hnone hanswers
        obtain ⟨node, hnode, hof⟩ := h.own row hrow hanswers
        exact hnone node hnode ((isOf_iff hrow).1 hof)
      · intro hnot node hnode hresolve
        exact hnot ⟨node, hnode, mem_names_of_resolve lib hresolve⟩

end Sound

/-! ### A machine twice, and a capital letter -/

namespace Sample

/-- with `str.lower` -/
def asciiLib : Library := { lib with lower := fun s => String.ofList (s.toList.map Char.toLower) }

/-- one machine behind two ports -/
def twice : List Value := [node "http://10.0.0.2:8080" false, node "http://10.0.0.2:8081" false]

def noRows : NodeList := ⟨[], List.nodup_nil⟩

/-- typed in as `W1` -/
def capital : NodeList := ⟨[⟨"a", "W1", "W1", .worker, .manual, some "down", "kim", none, none, none⟩], List.nodup_singleton _⟩

end Sample

theorem listed_twice :
    (∃ found, fromDiscovery Sample.asciiLib Sample.twice "a" = .ok found ∧
        (planRefresh [] found).added.map (·.host) = ["10.0.0.2", "10.0.0.2"] ∧
        (Prog.run (handle (serveNodes Sample.collate)) [] (applyPlan "a" 7 (planRefresh [] found))
          ⟨⟨[], 0, fun _ => none⟩, []⟩).1 =
            .error (duplicateNode "that host is already listed for this cluster") ∧
        ¬PlanSound Sample.asciiLib "a" Sample.noRows found) ∧
      ∃ found, fromDiscovery Sample.asciiLib [Sample.node "http://w1:8080" false] "a" = .ok found ∧
        (planRefresh Sample.capital.rows found).added.map (·.host) = ["w1"] ∧
        (planRefresh Sample.capital.rows found).silent.map (·.host) = ["W1"] ∧
        ¬PlanSound Sample.asciiLib "a" Sample.capital found := by
  constructor
  · refine ⟨[⟨"a", "10.0.0.2", "10.0.0.2", .worker, none, none, none⟩, ⟨"a", "10.0.0.2", "10.0.0.2", .worker, none, none, none⟩],
      by decide +kernel, by decide +kernel, by decide +kernel, ?_⟩
    intro h
    exact absurd h.distinct (by decide +kernel)
  · refine ⟨[⟨"a", "w1", "w1", .worker, none, none, none⟩], by decide +kernel, by decide +kernel, by decide +kernel, ?_⟩
    intro h
    have hadded : (⟨"a", "w1", "w1", .worker, none, none, none⟩ : Found) ∈
        (planRefresh Sample.capital.rows [⟨"a", "w1", "w1", .worker, none, none, none⟩]).added := by decide +kernel
    refine h.unlisted _ hadded _ List.mem_cons_self ?_
    decide +kernel

end TrinoManagement.Nodes
