/-
Runs in progress, after any operations on the table of runs: are they what the Postgres store calls active, and is every edit
of their query sets refused?

- `readsOnly`: an edit that asks for the active runs, and otherwise only reads; `editsRefused_of_active`: it is refused if one
  of them is of its set.
- `refused_run`: a refused program raises in every run.
- `active_runs_iff`: all of it holds iff fewer than fifty runs started after each run in progress.
- `hidden_run`: fifty runs on another cluster hide the one in progress, and its set is deleted.
- `postgresActive_eq_active`: where runs start in the order of their keys, this is what the service is served; `edits_raise`:
  so no edit of the set of a run in progress goes through, where each has fewer than fifty after it.
-/
import Mathlib.Tactic
import TrinoManagement.Bench.RunStore
import TrinoManagement.Core.Run

namespace TrinoManagement.Bench

open TrinoManagement.Audit TrinoManagement.Guard
open TrinoManagement.Prog (Spec wp)
open TrinoManagement.Run (run)
open TrinoManagement.Service (Exn)

/-! ## Edits -/

/-- the active runs are these, anything else that is read may be anything, and nothing is written -/
def readsOnly (active : List BenchRun) : Spec (Act BenchAct) (Guard.Answer BenchAct.Answer) Unit
  | .op .active, K, s => K (.ok active) s
  | .op (.getSet _), K, s => ∀ found, K found s
  | _, _, _ => False

/-- whatever else is read, the program ends in an error, and has written nothing -/
def Refused {α : Type} (active : List BenchRun) (p : BenchM α) : Prop :=
  wp (readsOnly active) p (fun x _ => ∃ e, x = .error e) ()

/-- **Adequacy.** A refused program raises in every run in which the active runs are those, whatever it reads. -/
theorem refused_run {α O S : Type} [Inhabited O] {H : O → (e : Act BenchAct) → S → Guard.Answer BenchAct.Answer e × S}
    {active : List BenchRun} {A : O → Prop} {I : S → Prop}
    (hactive : ∀ o s, A o → I s → (H o (.op .active) s).1 = .ok active ∧ I (H o (.op .active) s).2)
    (hread : ∀ o key s, A o → I s → I (H o (.op (.getSet key)) s).2) {p : BenchM α} (hp : Refused active p) (hd : A default)
    {os : List O} (hos : ∀ o ∈ os, A o) {s : S} (hs : I s) : ∃ e, (Prog.run H os p s).1 = .error e := by
  unfold Refused at hp
  induction p generalizing os s with
  | ret a =>
    obtain ⟨e, he⟩ := hp
    cases he
  | raise e => exact ⟨e, rfl⟩
  | act e k ih =>
    have hhead : A (os.headD default) := by
      cases os with
      | nil => exact hd
      | cons o os => exact hos o List.mem_cons_self
    have htail : ∀ o ∈ os.tail, A o := fun o ho => hos o (List.mem_of_mem_tail ho)
    cases e with
    | writable => cases hp
    | write entry => cases hp
    | op e =>
      cases e with
      | active =>
        obtain ⟨hanswer, hkept⟩ := hactive _ s hhead hs
        refine ih _ ?_ htail hkept
        rw [hanswer]
        exact hp
      | getSet key => exact ih _ (hp _) htail (hread _ key s hhead hs)
      | _ => cases hp

/-- an edit of a set, or its deletion, is refused -/
structure EditsRefused (key : String) (active : List BenchRun) : Prop where
  saveSet : ∀ lib principal title description reason,
    Refused active (saveSet lib principal key title description reason)
  deleteSet : ∀ lib principal reason, Refused active (deleteSet lib principal key reason)
  saveQuery : ∀ lib principal name title statement reason position originalName,
    Refused active (saveQuery lib principal key name title statement reason position originalName)
  deleteQuery : ∀ lib principal name reason, Refused active (deleteQuery lib principal key name reason)

section Edits

variable {lib : Lib} {key : String} {active : List BenchRun} {α β : Type}

theorem refused_refuse {o : Option Exn} {f : Unit → BenchM β} (hf : Refused active (f ())) :
    Refused active (refuse o >>= f) := by
  cases o with
  | none => exact hf
  | some e => exact ⟨e, rfl⟩

theorem refused_refuseQuery {name : String} {sql : List Char} {f : Unit → BenchM β} (hf : Refused active (f ())) :
    Refused active (refuseQuery lib name sql >>= f) := by
  unfold refuseQuery
  cases (refuseName lib.repr name "query name").map Exn.invalidRequest with
  | none => exact refused_refuse hf
  | some e => exact ⟨e, rfl⟩

theorem refused_setOr404 {f : QuerySet → BenchM β} (hf : ∀ found, Refused active (f found)) :
    Refused active (setOr404 lib key >>= f) := by
  intro found
  cases found with
  | error e => exact ⟨_, rfl⟩
  | ok found =>
    cases found with
    | none => exact ⟨_, rfl⟩
    | some found => exact hf found

/-- a run of the set is among them -/
theorem refused_notWhileRunning {f : Unit → BenchM β} (hrun : ∃ r ∈ active, r.querySet = key) :
    Refused active (notWhileRunning lib key >>= f) := by
  obtain ⟨r, hr, hkey⟩ := hrun
  have hrunning : active.filter (fun r => r.querySet = key) ≠ [] :=
    List.ne_nil_of_mem (List.mem_filter.2 ⟨hr, decide_eq_true hkey⟩)
  change wp (readsOnly active) (refuse (if active.filter (fun r => r.querySet = key) = [] then none else _) >>= f) _ ()
  rw [if_neg hrunning]
  exact ⟨_, rfl⟩

/-- **An edit is refused** if a run of its set is active. -/
theorem editsRefused_of_active (hrun : ∃ r ∈ active, r.querySet = key) : EditsRefused key active where
  saveSet lib principal title description reason := by
    exact refused_refuse (refused_refuse (refused_notWhileRunning hrun))
  deleteSet lib principal reason := by
    exact refused_refuse (refused_setOr404 fun _ => refused_notWhileRunning hrun)
  saveQuery lib principal name title statement reason position originalName := by
    refine refused_refuse (refused_setOr404 fun _ => refused_refuseQuery (refused_refuse ?_))
    exact refused_notWhileRunning hrun
  deleteQuery lib principal name reason := by
    exact refused_refuse (refused_setOr404 fun _ => refused_notWhileRunning hrun)

end Edits

/-! ## Every run in progress -/

/-- the active runs are all runs in progress, and an edit of the set of any of them is refused -/
structure ActiveAll (rows : List StoredRun) : Prop where
  same : (postgresActive rows none).Perm (memoryActive rows none)
  edits : ∀ key, (∃ r ∈ rows, r.running = true ∧ r.run.querySet = key) →
    EditsRefused key ((postgresActive rows none).map StoredRun.shown)

/-- **The active runs are all of them** iff fewer than fifty runs started after each run in progress, whatever was done to
the table before. -/
theorem active_runs_iff (ops : List RunOp) : ActiveAll (run runStep .empty ops).rows ↔
    ∀ r ∈ (run runStep .empty ops).rows, r.running = true → laterThan (run runStep .empty ops).rows r < 50 := by
  generalize run runStep RunTable.empty ops = t
  constructor
  · intro h
    exact (postgresActive_perm_iff t).1 h.same
  · intro hfew
    have hsame := (postgresActive_perm_iff t).2 hfew
    refine ⟨hsame, ?_⟩
    intro key hkey
    obtain ⟨r, hr, hrunning, hset⟩ := hkey
    have hmemory : r ∈ memoryActive t.rows none := List.mem_filter.2 ⟨hr, by simp [hrunning]⟩
    exact editsRefused_of_active ⟨r.shown, List.mem_map_of_mem (hsame.mem_iff.2 hmemory), hset⟩

/-! ## Fifty runs later -/

def started (cluster querySet : String) : BenchRun :=
  ⟨cluster, querySet, "ops", ["admin"], "capacity", 1, .none, none, [], none, true⟩

/-- a run on one cluster, and fifty on another, each of which has ended -/
def fiftyLater : List RunOp :=
  .create (started "c0" "s") 0 ::
    (List.range 50).flatMap fun (i : ℕ) => [.create (started "c1" "t") ((i : ℤ) + 1), .finish (i + 1) .succeeded]

def deletionLib : Lib := ⟨id, fun _ => []⟩

/-- the service over those runs, with the set of the first -/
def fiftyLaterSite : Site BenchWorld := ⟨⟨[("s", ⟨"S", "", []⟩)], (run runStep .empty fiftyLater).rows.map StoredRun.shown, []⟩, []⟩

/-- an administrator deletes that set -/
def deletion : Except Exn Unit × Site BenchWorld :=
  Prog.run (handle (serve .postgres)) [] (deleteSet deletionLib ⟨"ops", ["admin"]⟩ "s" (some "unused")) fiftyLaterSite

/-- **Fifty runs hide one**: it is in progress, Postgres calls no run active, and its set is deleted. -/
theorem hidden_run :
    (memoryActive (run runStep .empty fiftyLater).rows none).map (fun r => (r.id, r.run.querySet)) = [(0, "s")] ∧
      postgresActive (run runStep .empty fiftyLater).rows none = [] ∧
      deletion.1 = .ok () ∧ deletion.2.service.sets = [] ∧ ¬ActiveAll (run runStep .empty fiftyLater).rows := by
  have hmemory : (memoryActive (run runStep .empty fiftyLater).rows none).map (fun r => (r.id, r.run.querySet)) =
      [(0, "s")] := by decide +kernel
  have hpostgres : postgresActive (run runStep .empty fiftyLater).rows none = [] := by decide +kernel
  refine ⟨hmemory, hpostgres, by decide +kernel, by decide +kernel, ?_⟩
  intro h
  have hlen := (h.same.map fun r => (r.id, r.run.querySet)).length_eq
  rw [hmemory, hpostgres] at hlen
  cases hlen

/-! ## The service's own world -/

section Served

variable {t : RunTable} {α : Type}

/-- where runs start in the order of their keys, the page is that of the service's world -/
theorem postgresActive_eq_active (hclock : t.rows.Pairwise fun r s => r.rank < s.rank) (sets : Sets)
    (schedules : List Schedule) : (postgresActive t.rows none).map StoredRun.shown =
      BenchWorld.active .postgres ⟨sets, t.rows.map StoredRun.shown, schedules⟩ := by
  have hall : (t.rows.filter fun r => (none : Option String).all (fun c => c = "" ∨ r.run.cluster = c) &&
      (none : Option String).all fun q => q = "" ∨ r.run.querySet = q) = t.rows :=
    List.filter_eq_self.2 fun r _ => rfl
  have hsorted : (t.rows.insertionSort fun r s => notOlder r s = true) = t.rows.reverse := by
    refine List.Perm.eq_of_pairwise ?_ (pairwise_ordered t) (List.pairwise_reverse.2 hclock)
      ((List.perm_insertionSort _ _).trans (List.reverse_perm _).symm)
    intro r s _ _ hrs hsr
    exact absurd hsr hrs.not_gt
  rw [postgresActive, recentRows, hall, hsorted, BenchWorld.active, ← List.map_reverse, ← List.map_take, List.filter_map]
  rfl

/-- no statement fails, and no run ends meanwhile -/
def Calm (o : Oracle Weather) : Prop := o.inner.fault = .none ∧ o.inner.ended = []

theorem settle_nil (w : BenchWorld) : w.settle [] = w := by
  have hruns : w.runs.mapIdx (fun _ r => r) = w.runs := by rw [List.mapIdx_eq_zipIdx_map, List.zipIdx_map_fst]
  simp [BenchWorld.settle, hruns]

/-- a program that is refused by the page raises where the page is what the service is served -/
theorem refused_served (hclock : t.rows.Pairwise fun r s => r.rank < s.rank) {p : BenchM α}
    (hp : Refused ((postgresActive t.rows none).map StoredRun.shown) p) {os : List (Oracle Weather)}
    (hcalm : ∀ o ∈ os, Calm o) {site : Site BenchWorld} (hruns : site.service.runs = t.rows.map StoredRun.shown) :
    ∃ e, (Prog.run (handle (serve .postgres)) os p site).1 = .error e := by
  refine refused_run (A := Calm) (I := fun s => s.service.runs = t.rows.map StoredRun.shown) ?_ ?_ hp ⟨rfl, rfl⟩ hcalm hruns
  · rintro ⟨writable, weather⟩ ⟨w, log⟩ ⟨hfault, hended⟩ hruns
    obtain ⟨sets, runs, schedules⟩ := w
    dsimp only at hfault hended hruns
    subst hruns
    simp only [handle, serve, serveSettled, hfault, hended, settle_nil, Fault.strike, ← postgresActive_eq_active hclock,
      and_self]
  · rintro ⟨writable, weather⟩ key ⟨w, log⟩ ⟨hfault, hended⟩ hruns
    dsimp only at hfault hended hruns
    simpa only [handle, serve, serveSettled, hfault, hended, settle_nil, Fault.strike] using hruns

/-- **No edit of its set** while a run is in progress: saving the set or a query of it, or deleting either, raises. -/
theorem edits_raise (hclock : t.rows.Pairwise fun r s => r.rank < s.rank)
    (hfew : ∀ r ∈ t.rows, r.running = true → laterThan t.rows r < 50) {r : StoredRun} (hr : r ∈ t.rows)
    (hrunning : r.running = true) {os : List (Oracle Weather)} (hcalm : ∀ o ∈ os, Calm o) {site : Site BenchWorld}
    (hruns : site.service.runs = t.rows.map StoredRun.shown) (lib : Lib) (principal : Principal) (reason : Option String) :
    (∀ title description, ∃ e, (Prog.run (handle (serve .postgres)) os
        (saveSet lib principal r.run.querySet title description reason) site).1 = .error e) ∧
      (∃ e, (Prog.run (handle (serve .postgres)) os (deleteSet lib principal r.run.querySet reason) site).1 = .error e) ∧
      (∀ name title statement position originalName, ∃ e, (Prog.run (handle (serve .postgres)) os
        (saveQuery lib principal r.run.querySet name title statement reason position originalName) site).1 = .error e) ∧
      ∀ name, ∃ e, (Prog.run (handle (serve .postgres)) os (deleteQuery lib principal r.run.querySet name reason) site).1 =
        .error e := by
  have hmemory : r ∈ memoryActive t.rows none := List.mem_filter.2 ⟨hr, by simp [hrunning]⟩
  have hactive : r ∈ postgresActive t.rows none := ((postgresActive_perm_iff t).2 hfew).mem_iff.2 hmemory
  have hrefused : EditsRefused r.run.querySet ((postgresActive t.rows none).map StoredRun.shown) :=
    editsRefused_of_active ⟨r.shown, List.mem_map_of_mem hactive, rfl⟩
  refine ⟨?_, ?_, ?_, ?_⟩
  · exact fun title description => refused_served hclock (hrefused.saveSet _ _ _ _ _) hcalm hruns
  · exact refused_served hclock (hrefused.deleteSet _ _ _) hcalm hruns
  · exact fun name title statement position originalName =>
      refused_served hclock (hrefused.saveQuery _ _ _ _ _ _ _ _) hcalm hruns
  · exact fun name => refused_served hclock (hrefused.deleteQuery _ _ _ _) hcalm hruns

end Served

end TrinoManagement.Bench
