/-
How a benchmark run ends: what it records, and in which state, whatever the SQL client does at each execution and whenever
an abort is asked for.

A run without anything to execute is not a failed one: `executed and failures == executed` asks for an execution.
- `Accounted`: the results are those of the executions that came back, in order, and exactly one state is recorded.
- `run_accounted`: it holds of every run.
- `empty_run_succeeds`: what does not hold is that a run without a success fails, or that an execution that raised has a
  result.
-/
import Mathlib.Tactic
import TrinoManagement.Bench.Runner

namespace TrinoManagement.Bench

/-! ## What a run meets -/

section Meets

variable (beyond : Char → List Char) (repr : String → String) (world : ℕ → Turn) (opened : Except PyError Unit)
  (all : List (ℕ × Query))

/-- turn `k` is reached: the client is open, nothing was asked before it, and every execution before it came back -/
def Reached (k : ℕ) : Prop :=
  opened = .ok () ∧ k < all.length ∧
    ∀ j < k, (world j).abort = false ∧ ∃ w o, all[j]? = some w ∧ outcomeAt beyond repr world j w = .ok o

/-- there is an execution at turn `k` -/
def Executes (k : ℕ) : Prop := Reached beyond repr world opened all k ∧ (world k).abort = false

/-- an abort is seen before a remaining execution -/
def AbortSeen : Prop := ∃ k, Reached beyond repr world opened all k ∧ (world k).abort = true

/-- an execution ends in an exception that is none of the client's errors -/
def Raises : Prop :=
  ∃ k w e, Executes beyond repr world opened all k ∧ all[k]? = some w ∧ outcomeAt beyond repr world k w = .error e

def Succeeds : Prop :=
  ∃ k w o, Executes beyond repr world opened all k ∧ all[k]? = some w ∧ outcomeAt beyond repr world k w = .ok o ∧
    o.state = .succeeded

/-- the results follow the work, from its beginning -/
def InOrder (r : RunRecord) : Prop :=
  (r.results.map fun o => (o.iteration, o.queryName)) <+: all.map fun w => (w.1, w.2.name)

/-- every execution leaves a result -/
def EachRecorded (r : RunRecord) : Prop := ∀ k, Executes beyond repr world opened all k → ∃ o, r.results[k]? = some o

/-- the outcome as it is claimed: a run fails if no execution succeeded -/
structure ClaimedOutcome (r : RunRecord) : Prop where
  inOrder : InOrder all r
  recorded : EachRecorded beyond repr world opened all r
  aborted : AbortSeen beyond repr world opened all → r.finished.map Prod.fst = [.aborted]
  failed : ¬AbortSeen beyond repr world opened all →
    ((∃ e, opened = .error e) ∨ Raises beyond repr world opened all ∨ ¬Succeeds beyond repr world opened all) →
    r.finished.map Prod.fst = [.failed]
  succeeded : ¬AbortSeen beyond repr world opened all →
    ¬((∃ e, opened = .error e) ∨ Raises beyond repr world opened all ∨ ¬Succeeds beyond repr world opened all) →
    r.finished.map Prod.fst = [.succeeded]

/-- no abort ended it, and it failed: the client, an exception, or executions without a success -/
def Fails : Prop :=
  (∃ e, opened = .error e) ∨ Raises beyond repr world opened all ∨
    (∃ k, Executes beyond repr world opened all k) ∧ ¬Succeeds beyond repr world opened all

/-- the outcome as it is: executions that came back leave a result each, and a run without executions succeeds -/
structure Accounted (r : RunRecord) : Prop where
  inOrder : InOrder all r
  recorded : ∀ k o, r.results[k]? = some o ↔
    ∃ w, all[k]? = some w ∧ Executes beyond repr world opened all k ∧ outcomeAt beyond repr world k w = .ok o
  aborted : AbortSeen beyond repr world opened all → r.finished.map Prod.fst = [.aborted]
  failed : ¬AbortSeen beyond repr world opened all → Fails beyond repr world opened all →
    r.finished.map Prod.fst = [.failed]
  succeeded : ¬AbortSeen beyond repr world opened all → ¬Fails beyond repr world opened all →
    r.finished.map Prod.fst = [.succeeded]

end Meets

/-! ## Every run -/

section Runs

variable {beyond : Char → List Char} {repr : String → String} {world : ℕ → Turn} {all : List (ℕ × Query)} {p : Progress}

/-- turns are reached one after another -/
theorem Reached.le {opened : Except PyError Unit} {j k : ℕ} (h : Reached beyond repr world opened all k) (hj : j ≤ k) :
    Reached beyond repr world opened all j :=
  ⟨h.1, hj.trans_lt h.2.1, fun i hi => h.2.2 i (hi.trans_le hj)⟩

/-- the turns that left a result came back -/
theorem Kept.came_back (h : Kept beyond repr world all p) {j : ℕ} (hj : j < p.executed) : (world j).abort = false ∧
    ∃ w o, all[j]? = some w ∧ outcomeAt beyond repr world j w = .ok o ∧ p.record.results[j]? = some o := by
  have hlt : j < p.record.results.length := by rwa [h.length]
  have hget := List.getElem?_eq_getElem hlt
  obtain ⟨habort, w, hw, hout⟩ := h.results j _ hget
  exact ⟨habort, w, _, hw, hout, hget⟩

theorem Kept.reached (h : Kept beyond repr world all p) {k : ℕ} (hk : k ≤ p.executed) (hall : k < all.length) :
    Reached beyond repr world (.ok ()) all k := by
  refine ⟨rfl, hall, ?_⟩
  intro j hj
  obtain ⟨habort, w, o, hw, hout, -⟩ := h.came_back (hj.trans_le hk)
  exact ⟨habort, w, o, hw, hout⟩

theorem Kept.inOrder (h : Kept beyond repr world all p) : InOrder all p.record := by
  rw [InOrder, List.prefix_iff_eq_take, List.length_map, h.length]
  refine List.ext_getElem? ?_
  intro k
  by_cases hk : k < p.executed
  · obtain ⟨-, w, o, hw, hout, hresult⟩ := h.came_back hk
    obtain ⟨hiteration, hname⟩ := outcomeAt_names hout
    rw [List.getElem?_take_of_lt hk, List.getElem?_map, List.getElem?_map, hresult, hw]
    simp [hiteration, hname]
  · have hnone : p.record.results[k]? = none := List.getElem?_eq_none (by rw [h.length]; omega)
    rw [List.getElem?_map, hnone, List.getElem?_take_eq_none (not_lt.1 hk)]
    rfl

/-- a record whose results are those of the turns before `p.executed`, where turn `p.executed` left none -/
theorem Kept.recorded (h : Kept beyond repr world all p)
    (hstop : ∀ w, all[p.executed]? = some w → (world p.executed).abort = false →
      ∀ o, outcomeAt beyond repr world p.executed w ≠ .ok o) (k : ℕ) (o : QueryOutcome) :
    p.record.results[k]? = some o ↔
      ∃ w, all[k]? = some w ∧ Executes beyond repr world (.ok ()) all k ∧ outcomeAt beyond repr world k w = .ok o := by
  constructor
  · intro hk
    obtain ⟨habort, w, hw, hout⟩ := h.results k o hk
    have hlt : k < p.executed := by
      rw [← h.length]
      exact (List.getElem?_eq_some_iff.1 hk).1
    exact ⟨w, hw, ⟨h.reached hlt.le (List.getElem?_eq_some_iff.1 hw).1, habort⟩, hout⟩
  · intro hk
    obtain ⟨w, hw, ⟨⟨-, hall, hbefore⟩, habort⟩, hout⟩ := hk
    rcases lt_trichotomy k p.executed with hlt | rfl | hgt
    · obtain ⟨-, w', o', hw', hout', hresult⟩ := h.came_back hlt
      obtain rfl := Option.some.inj (hw.symm.trans hw')
      obtain rfl := Except.ok.inj (hout.symm.trans hout')
      exact hresult
    · exact absurd hout (hstop w hw habort o)
    · obtain ⟨habort', w', o', hw', hout'⟩ := hbefore _ hgt
      exact absurd hout' (hstop w' hw' habort' o')

/-- a record of results less what it is finished with -/
theorem Accounted.of_kept (state : RunState) {opened : Except PyError Unit} {r : RunRecord} (hresults : r.results = p.record.results)
    (hin : InOrder all p.record)
    (hrecorded : ∀ k o, p.record.results[k]? = some o ↔
      ∃ w, all[k]? = some w ∧ Executes beyond repr world opened all k ∧ outcomeAt beyond repr world k w = .ok o)
    (hstate : r.finished.map Prod.fst = [state])
    (haborted : AbortSeen beyond repr world opened all → state = .aborted)
    (hfailed : ¬AbortSeen beyond repr world opened all → Fails beyond repr world opened all → state = .failed)
    (hsucceeded : ¬AbortSeen beyond repr world opened all → ¬Fails beyond repr world opened all → state = .succeeded) :
    Accounted beyond repr world opened all r where
  inOrder := by
    rw [InOrder, hresults]
    exact hin
  recorded := by
    rw [hresults]
    exact hrecorded
  aborted := by
    intro h
    rw [hstate, haborted h]
  failed := by
    intro h hfails
    rw [hstate, hfailed h hfails]
  succeeded := by
    intro h hfails
    rw [hstate, hsucceeded h hfails]

/-- every turn was taken: the run failed exactly when there were executions and none succeeded -/
theorem Kept.fails_iff (h : Kept beyond repr world all p) (hend : p.executed = all.length) :
    Fails beyond repr world (.ok ()) all ↔ p.executed ≠ 0 ∧ p.failures = p.executed := by
  have hlt : ∀ {k}, Reached beyond repr world (.ok ()) all k → k < p.executed := by
    intro k hk
    rw [hend]
    exact hk.2.1
  have hall : p.failures = p.executed ↔ ∀ o ∈ p.record.results, o.state = .failed := by
    rw [h.failures, ← h.length, List.countP_eq_length]
    simp
  rw [hall]
  constructor
  · intro hfails
    rcases hfails with ⟨e, he⟩ | ⟨k, w, e, hk, hw, hout⟩ | ⟨⟨k, hk⟩, hnone⟩
    · cases he
    · obtain ⟨-, w', o, hw', hout', -⟩ := h.came_back (hlt hk.1)
      obtain rfl := Option.some.inj (hw.symm.trans hw')
      rw [hout] at hout'
      cases hout'
    · refine ⟨by have := hlt hk.1; omega, ?_⟩
      intro o ho
      obtain ⟨j, hj⟩ := List.mem_iff_getElem?.1 ho
      obtain ⟨habort, w, hw, hout⟩ := h.results j o hj
      have hjlt : j < p.executed := by
        rw [← h.length]
        exact (List.getElem?_eq_some_iff.1 hj).1
      cases hstate : o.state with
      | failed => rfl
      | succeeded =>
        have hreached := h.reached hjlt.le (by rw [← hend]; exact hjlt)
        exact absurd ⟨j, w, o, ⟨hreached, habort⟩, hw, hout, hstate⟩ hnone
  · intro hboth
    obtain ⟨hne, hfailed⟩ := hboth
    have hpos : 0 < p.executed := Nat.pos_of_ne_zero hne
    refine .inr (.inr ⟨⟨0, h.reached hpos.le (by rw [← hend]; exact hpos), (h.came_back hpos).1⟩, ?_⟩)
    intro hsuccess
    obtain ⟨k, w, o, hk, hw, hout, hstate⟩ := hsuccess
    obtain ⟨-, w', o', hw', hout', hresult⟩ := h.came_back (hlt hk.1)
    obtain rfl := Option.some.inj (hw.symm.trans hw')
    obtain rfl := Except.ok.inj (hout.symm.trans hout')
    rw [hfailed o (List.mem_of_getElem? hresult)] at hstate
    cases hstate

/-- the loops were walked to their end -/
theorem accounted_complete (h : Kept beyond repr world all p) (hend : p.executed = all.length) :
    Accounted beyond repr world (.ok ()) all
      (if p.executed ≠ 0 ∧ p.failures = p.executed then
        p.record.finish .failed (some "Every query failed. See the results for why.")
      else p.record.finish .succeeded none) := by
  have hstop : ∀ w, all[p.executed]? = some w → (world p.executed).abort = false →
      ∀ o, outcomeAt beyond repr world p.executed w ≠ .ok o := by
    intro w hw
    rw [hend, List.getElem?_eq_none le_rfl] at hw
    cases hw
  have hnoabort : ¬AbortSeen beyond repr world (.ok ()) all := by
    intro hseen
    obtain ⟨k, hk, habort⟩ := hseen
    have hback := (h.came_back (by rw [hend]; exact hk.2.1 : k < p.executed)).1
    rw [habort] at hback
    cases hback
  have hfails := h.fails_iff hend
  split_ifs with hcounts
  · refine Accounted.of_kept .failed rfl h.inOrder (h.recorded hstop) ?_ ?_ ?_ ?_
    · simp [RunRecord.finish, h.unfinished]
    · exact fun hseen => absurd hseen hnoabort
    · exact fun _ _ => rfl
    · exact fun _ hnot => absurd (hfails.2 hcounts) hnot
  · refine Accounted.of_kept .succeeded rfl h.inOrder (h.recorded hstop) ?_ ?_ ?_ ?_
    · simp [RunRecord.finish, h.unfinished]
    · exact fun hseen => absurd hseen hnoabort
    · exact fun _ hyes => absurd (hfails.1 hyes) hcounts
    · exact fun _ _ => rfl

/-- an abort was seen -/
theorem accounted_aborted (h : Kept beyond repr world all p) (hlt : p.executed < all.length)
    (habort : (world p.executed).abort = true) (error : Option String) :
    Accounted beyond repr world (.ok ()) all (p.record.finish .aborted error) := by
  have hstop : ∀ w, all[p.executed]? = some w → (world p.executed).abort = false →
      ∀ o, outcomeAt beyond repr world p.executed w ≠ .ok o := by
    intro w _ hnot
    rw [habort] at hnot
    cases hnot
  have hseen : AbortSeen beyond repr world (.ok ()) all := ⟨p.executed, h.reached le_rfl hlt, habort⟩
  refine Accounted.of_kept .aborted rfl h.inOrder (h.recorded hstop) ?_ ?_ ?_ ?_
  · simp [RunRecord.finish, h.unfinished]
  · exact fun _ => rfl
  · exact fun hnot => absurd hseen hnot
  · exact fun hnot => absurd hseen hnot

/-- an execution raised -/
theorem accounted_raised (h : Kept beyond repr world all p) {w : ℕ × Query} {e : PyError}
    (hw : all[p.executed]? = some w) (habort : (world p.executed).abort = false)
    (hout : outcomeAt beyond repr world p.executed w = .error e) (error : Option String) :
    Accounted beyond repr world (.ok ()) all (p.record.finish .failed error) := by
  have hstop : ∀ w', all[p.executed]? = some w' → (world p.executed).abort = false →
      ∀ o, outcomeAt beyond repr world p.executed w' ≠ .ok o := by
    intro w' hw' _ o
    obtain rfl := Option.some.inj (hw.symm.trans hw')
    rw [hout]
    exact fun hok => by cases hok
  have hfails : Fails beyond repr world (.ok ()) all :=
    .inr (.inl ⟨p.executed, w, e, ⟨h.reached le_rfl (List.getElem?_eq_some_iff.1 hw).1, habort⟩, hw, hout⟩)
  have hnoabort : ¬AbortSeen beyond repr world (.ok ()) all := by
    intro hseen
    obtain ⟨k, hk, hkabort⟩ := hseen
    rcases lt_trichotomy k p.executed with hlt | rfl | hgt
    · rw [(h.came_back hlt).1] at hkabort
      cases hkabort
    · rw [habort] at hkabort
      cases hkabort
    · obtain ⟨-, w', o, hw', hout'⟩ := hk.2.2 _ hgt
      exact hstop w' hw' habort o hout'
  refine Accounted.of_kept .failed rfl h.inOrder (h.recorded hstop) ?_ ?_ ?_ ?_
  · simp [RunRecord.finish, h.unfinished]
  · exact fun hseen => absurd hseen hnoabort
  · exact fun _ _ => rfl
  · exact fun _ hnot => absurd hfails hnot

/-- the client could not be opened -/
theorem accounted_unopened (e : PyError) (error : Option String) :
    Accounted beyond repr world (.error e) all (RunRecord.finish ⟨[], []⟩ .failed error) := by
  have hunreached : ∀ k, ¬Reached beyond repr world (.error e) all k := by
    intro k hk
    cases hk.1
  refine ⟨List.nil_prefix, ?_, ?_, fun _ _ => rfl, ?_⟩
  · intro k o
    constructor
    · intro hk
      cases hk
    · intro hk
      obtain ⟨w, -, hexec, -⟩ := hk
      exact absurd hexec.1 (hunreached k)
  · intro hseen
    obtain ⟨k, hk, -⟩ := hseen
    exact absurd hk (hunreached k)
  · exact fun _ hnot => absurd (.inl ⟨e, rfl⟩) hnot

/-- **How a run ends.** For every query set, repetition count, client and moment of an abort. -/
theorem run_accounted (beyond : Char → List Char) (repr : String → String) (world : ℕ → Turn)
    (opened : Except PyError Unit) (queries : List Query) (repetitions : ℤ) :
    Accounted beyond repr world opened (work queries repetitions)
      (runBenchmark beyond repr world opened queries repetitions) := by
  cases opened with
  | error e => exact accounted_unopened e _
  | ok u =>
    have hstart : Kept beyond repr world (work queries repetitions) ⟨0, 0, ⟨[], []⟩⟩ := ⟨rfl, by simp, rfl, rfl⟩
    obtain ⟨p, hp, ⟨hend, hwalk⟩ | ⟨hlt, habort, hwalk⟩ | ⟨w, e, hw, habort, hout, hwalk⟩⟩ :=
      walk_cases (work queries repetitions) hstart rfl
    · simp only [runBenchmark, loops_eq, hwalk]
      exact accounted_complete hp hend
    · simp only [runBenchmark, loops_eq, hwalk]
      exact accounted_aborted hp hlt habort _
    · simp only [runBenchmark, loops_eq, hwalk]
      exact accounted_raised hp hw habort hout _

end Runs

/-! ## Where the claim goes further -/

/-- nobody asks for an abort, and the client has lost its connection -/
def brokenWorld : ℕ → Turn := fun _ => ⟨false, fun _ => .raised ⟨"ConnectionError", "reset by peer"⟩, 0⟩

def selectOne : Query := ⟨"one", "SELECT 1".toList⟩

/-- **Not failed, not recorded.** A run of an empty set succeeds without a success; an execution that raises leaves no
result. -/
theorem empty_run_succeeds :
    ¬ClaimedOutcome (fun c => [c]) id brokenWorld (.ok ()) (work [] 1)
      (runBenchmark (fun c => [c]) id brokenWorld (.ok ()) [] 1) ∧
    ¬EachRecorded (fun c => [c]) id brokenWorld (.ok ()) (work [selectOne] 1)
      (runBenchmark (fun c => [c]) id brokenWorld (.ok ()) [selectOne] 1) := by
  constructor
  · intro h
    have hunreached : ∀ k, ¬Reached (fun c => [c]) id brokenWorld (.ok ()) (work [] 1) k := by
      intro k hk
      exact absurd hk.2.1 (Nat.not_lt_zero k)
    have hstate := h.failed (fun hseen => by
      obtain ⟨k, hk, -⟩ := hseen
      exact hunreached k hk) (.inr (.inr fun hsuccess => by
      obtain ⟨k, -, -, hk, -⟩ := hsuccess
      exact hunreached k hk.1))
    revert hstate
    decide
  · intro h
    obtain ⟨o, ho⟩ := h 0 ⟨⟨rfl, by decide, by simp⟩, rfl⟩
    have hnone : (runBenchmark (fun c => [c]) id brokenWorld (.ok ()) [selectOne] 1).results[0]? = none := by
      decide +kernel
    rw [hnone] at ho
    cases ho

end TrinoManagement.Bench
