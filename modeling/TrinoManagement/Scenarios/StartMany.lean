/-
One query set started on several clusters at once, `start_many` of `tms/bench/service.py`. A refusal that is one cluster's
own does not keep the others from being tried; one that says that the request is wrong ends it.

- `startMany`: the checks, then one `start` a cluster, then the reply.
- `stored`: what was created, whatever has ended since. `OneLeaves`: what the start on one cluster leaves.
- `Attempt`: what became of one cluster. `EachLeaves`: the attempts account for the reply and for the runs that are stored.
- `every_cluster_tried`: every call, on every world, whatever fails.
-/
import Mathlib.Tactic
import TrinoManagement.Bench.ScheduleService
import TrinoManagement.Scenarios.ScheduleRuns

namespace TrinoManagement.Bench

open TrinoManagement.Audit TrinoManagement.Guard
open TrinoManagement.Service (Exn)

/-! ## The operation -/

/-- an entry of `refused` -/
structure Refusal where
  cluster : String
  message : String
deriving DecidableEq, Repr

/-- the reply -/
structure Batch where
  started : List BenchRun
  refused : List Refusal
deriving DecidableEq

/-- an `ApiError` other than the three that say that the request is wrong -/
def ofCluster : Exn → Bool
  | .invalidRequest _ | .upstreamUnavailable _ | .auditUnavailable _ => true
  | .client className _ => className == alreadyRunningClass
  | _ => false

theorem ofCluster_client {className message : String} (h : className ≠ alreadyRunningClass) :
    ofCluster (.client className message) = false := beq_false_of_ne h

section StartMany

variable (lib : Lib) (cfg : BenchConfig) (principal : Principal) (querySet : String) (reason : Option String)
  (repetitions : Value) (label : Option String)

/-- one round of the loop -/
def startOne (cluster : String) : BenchM (Except Refusal BenchRun) :=
  tryCatch
    (do
      let run ← start lib cfg principal cluster querySet reason repetitions label none
      pure (.ok run))
    fun e => if ofCluster e then pure (.error ⟨cluster, e.text⟩) else throw e

def startEach : List String → BenchM Batch
  | [] => pure ⟨[], []⟩
  | cluster :: rest => do
    let result ← startOne lib cfg principal querySet reason repetitions label cluster
    let others ← startEach rest
    match result with
    | .ok run => pure ⟨run :: others.started, others.refused⟩
    | .error refusal => pure ⟨others.started, refusal :: others.refused⟩

def allRefused (refused : List Refusal) : Exn :=
  .invalidRequest ("; ".intercalate (refused.map fun r => r.cluster ++ ": " ++ r.message))

/-- `start_many` -/
def startMany (clusters : List String) : BenchM Batch := do
  requireAdmin principal adminMessage
  refuse (if clusters = [] then some (.invalidRequest "Select at least one cluster.") else none)
  clustersOr404 cfg clusters
  let batch ← startEach lib cfg principal querySet reason repetitions label clusters
  refuse (if batch.started = [] ∧ batch.refused ≠ [] then some (allRefused batch.refused) else none)
  pure batch

end StartMany

/-! ## What was created -/

/-- the runs there are, as they were created -/
def BenchWorld.stored (w : BenchWorld) : List BenchRun := w.runs.map fun r => { r with running := true }

section Stored

variable {w : BenchWorld} {b : Backend} {o : Weather}

theorem stored_settle (ended : List ℕ) : (w.settle ended).stored = w.stored := by
  refine List.ext_getElem (by simp [BenchWorld.stored, BenchWorld.settle]) fun i h h' => ?_
  simp only [BenchWorld.stored, BenchWorld.settle, List.getElem_map, List.getElem_mapIdx]
  split_ifs <;> rfl

theorem stored_read {e : BenchAct} (he : OfStart e) (hread : ∀ run, e ≠ .createRun run) :
    (serve b o e w).2.stored = w.stored := by
  have hsame : (serve b o e w).2 = w.settle o.ended := by
    cases he with
    | getSet key => simp only [serve, serveSettled, strike_taken, ite_self]
    | guard cluster => rfl
    | createRun run => exact absurd rfl (hread run)
    | startRunner id => simp only [serve, serveSettled, strike_taken, ite_self]
  rw [hsame, stored_settle]

/-- what the store says of a new run, and what it holds then -/
inductive Created (w : BenchWorld) (run : BenchRun) : Except RunError ℕ × BenchWorld → Prop where
  | made (id : ℕ) (w' : BenchWorld) (hstored : w'.stored = w.stored ++ [run]) : Created w run (.ok id, w')
  | refused (e : RunError) (w' : BenchWorld) (hstored : w'.stored = w.stored) : Created w run (.error e, w')
  /-- the answer is lost -/
  | unheard (m : String) (w' : BenchWorld) (hstored : w'.stored = w.stored ++ [run]) :
      Created w run (.error (.unavailable m), w')

theorem created_createRun {run : BenchRun} (hrunning : run.running = true) : Created w run (w.createRun b run) := by
  unfold BenchWorld.createRun
  split_ifs
  · exact .refused _ _ rfl
  · exact .refused _ _ rfl
  · have hsame : { run with running := true } = run := by
      rw [← hrunning]
    refine .made _ _ ?_
    rw [BenchWorld.stored, List.map_append, List.map_singleton, hsame]
    rfl

theorem created_serve {run : BenchRun} (hrunning : run.running = true) : Created w run (serve b o (.createRun run) w) := by
  have hserved : Created w run ((w.settle o.ended).createRun b run) := by
    have hsettled := created_createRun (w := w.settle o.ended) (b := b) hrunning
    generalize (w.settle o.ended).createRun b run = answer at hsettled
    cases hsettled with
    | made id w' h => exact .made id w' (h.trans (by rw [stored_settle]))
    | refused e w' h => exact .refused e w' (h.trans (by rw [stored_settle]))
    | unheard m w' h => exact .unheard m w' (h.trans (by rw [stored_settle]))
  change Created w run (o.fault.strike RunError.unavailable (w.settle o.ended) ((w.settle o.ended).createRun b run))
  cases o.fault with
  | none => exact hserved
  | failed m => exact .refused _ _ (stored_settle _)
  | lost m =>
    change Created w run (.error (.unavailable m), ((w.settle o.ended).createRun b run).2)
    generalize (w.settle o.ended).createRun b run = answer at hserved
    cases hserved with
    | made id w' h => exact .unheard m w' h
    | refused e w' h => exact .refused _ w' h
    | unheard m' w' h => exact .unheard m w' h

end Stored

/-! ## One cluster -/

/-- what the start on one cluster leaves -/
inductive OneLeaves (w : BenchWorld) (cluster : String) : Except Exn BenchRun → BenchWorld → Prop where
  | started (run : BenchRun) (w' : BenchWorld) (hcluster : run.cluster = cluster) (hstored : w'.stored = w.stored ++ [run]) :
      OneLeaves w cluster (.ok run) w'
  | nothing (e : Exn) (w' : BenchWorld) (hstored : w'.stored = w.stored) : OneLeaves w cluster (.error e) w'
  /-- the store has not answered, or no thread could be started for it -/
  | unheard (run : BenchRun) (e : Exn) (w' : BenchWorld) (hcluster : run.cluster = cluster)
      (hstored : w'.stored = w.stored ++ [run])
      (he : ofCluster e = true → ∃ m, e = RunError.exn cluster (.unavailable m)) :
      OneLeaves w cluster (.error e) w'

section One

variable {lib : Lib} {cfg : BenchConfig} {principal : Principal} {b : Backend} {w s : BenchWorld} {cluster querySet : String}
  {reason label : Option String} {repetitions : Value} {id : Option ℕ}

theorem post_setOr404_stored (hs : s.stored = w.stored) :
    Post (serve b) (fun _ => True) (setOr404 lib querySet) (Leaving fun s => s.stored = w.stored) s := by
  refine post_bind_leaving (post_op fun o _ => ?_) ?_
  · exact (stored_read (e := .getSet querySet) (.getSet _) fun _ h => by cases h).trans hs
  intro answer s hs
  refine post_bind_leaving (post_lift (fun _ _ => hs) fun _ _ => hs) ?_
  intro found s hs
  cases found with
  | none => exact post_throw hs
  | some found => exact post_pure hs

/-- **One start.** A run that is returned is the one that is stored; a refusal of the cluster's own leaves none, unless it
says that the store was not heard. -/
theorem post_start : Post (serve b) (fun _ => True) (start lib cfg principal cluster querySet reason repetitions label id)
    (OneLeaves w cluster) w := by
  refine post_bind (post_refuse (fun _ => ?_) fun e _ => .nothing e _ rfl)
  refine post_bind (post_refuse (fun _ => ?_) fun e _ => .nothing e _ rfl)
  refine post_bind (post_mono (post_setOr404_stored rfl) ?_)
  intro declared s hs
  cases declared with
  | error e => exact .nothing e _ hs
  | ok declared =>
    refine post_bind (post_lift (fun n _ => ?_) fun e _ => .nothing _ _ hs)
    refine post_bind (post_op ?_)
    intro o _
    have hguard : (serve b o.inner (.guard cluster) s).2.stored = w.stored :=
      (stored_read (.guard _) fun _ h => by cases h).trans hs
    refine post_bind (post_lift (fun guard _ => ?_) fun e _ => .nothing _ _ hguard)
    refine post_audited (fun _ => .nothing _ _ hguard) (fun _ => .nothing _ _ hguard) ?_
    refine post_bind (post_op ?_)
    intro o' _
    generalize hrun : BenchRun.mk cluster querySet principal.username principal.roles (reason.getD "") n guard
      (label.filter (· ≠ "")) declared.queries id true = run
    have hcluster : run.cluster = cluster := by rw [← hrun]
    have hcreated : Created (serve b o.inner (.guard cluster) s).2 run
        (serve b o'.inner (.createRun run) (serve b o.inner (.guard cluster) s).2) := created_serve (by rw [← hrun])
    change Post (serve b) (fun _ => True) (do
      let i ← lift (RunError.exn cluster) (serve b o'.inner (.createRun run) (serve b o.inner (.guard cluster) s).2).1
      lift (.client "RuntimeError") (← op (.startRunner i))
      pure run) (OneLeaves w cluster) (serve b o'.inner (.createRun run) (serve b o.inner (.guard cluster) s).2).2
    generalize serve b o'.inner (.createRun run) (serve b o.inner (.guard cluster) s).2 = answer at hcreated
    cases hcreated with
    | refused e w' hstored => exact post_throw (.nothing _ _ (hstored.trans hguard))
    | unheard m w' hstored =>
      exact post_throw (.unheard run _ _ hcluster (hguard ▸ hstored) fun _ => ⟨_, rfl⟩)
    | made i w' hstored =>
      have hw' : w'.stored = w.stored ++ [run] := hguard ▸ hstored
      refine post_bind (post_lift (fun _ hi => ?_) fun e he => by cases he)
      obtain rfl := Except.ok.inj hi
      refine post_bind (post_op ?_)
      intro o'' _
      have hstarted : (serve b o''.inner (.startRunner i) w').2.stored = w.stored ++ [run] :=
        (stored_read (.startRunner _) fun _ h => by cases h).trans hw'
      refine post_bind (post_lift (fun _ _ => post_pure (.started run _ hcluster hstarted)) fun e _ => ?_)
      exact .unheard run _ _ hcluster hstarted fun h => by
        rw [ofCluster_client (by decide)] at h
        cases h

end One

/-! ## Every cluster -/

/-- what became of one cluster -/
inductive Attempt where
  | started (run : BenchRun)
  | refused (cluster message : String)
  /-- the run is stored, and the store was not heard -/
  | unheard (run : BenchRun) (detail : String)

namespace Attempt

def cluster : Attempt → String
  | started run => run.cluster
  | refused cluster _ => cluster
  | unheard run _ => run.cluster

def run? : Attempt → Option BenchRun
  | started run => some run
  | _ => none

def refusal? : Attempt → Option Refusal
  | started _ => none
  | refused cluster message => some ⟨cluster, message⟩
  | unheard run detail => some ⟨run.cluster, (RunError.exn run.cluster (.unavailable detail)).text⟩

/-- the run that is stored -/
def created? : Attempt → Option BenchRun
  | started run | unheard run _ => some run
  | refused _ _ => none

end Attempt

def batchOf (attempts : List Attempt) : Batch := ⟨attempts.filterMap Attempt.run?, attempts.filterMap Attempt.refusal?⟩

def createdBy (attempts : List Attempt) : List BenchRun := attempts.filterMap Attempt.created?

/-- how the clusters are looked up -/
inductive Checked (cfg : BenchConfig) (w : BenchWorld) (clusters : List String) : Except Exn Unit → BenchWorld → Prop where
  | known (h : ∀ c ∈ clusters, c ∈ cfg.clusters) : Checked cfg w clusters (.ok ()) w
  | unknown (e : Exn) (he : ofCluster e = false) : Checked cfg w clusters (.error e) w

/-- what one round of the loop leaves -/
inductive RoundLeaves (w : BenchWorld) (cluster : String) : Except Exn (Except Refusal BenchRun) → BenchWorld → Prop where
  | started (run : BenchRun) (w' : BenchWorld) (hcluster : run.cluster = cluster) (hstored : w'.stored = w.stored ++ [run]) :
      RoundLeaves w cluster (.ok (.ok run)) w'
  | refused (attempt : Attempt) (refusal : Refusal) (w' : BenchWorld) (hcluster : attempt.cluster = cluster)
      (hrun : attempt.run? = none) (hrefusal : attempt.refusal? = some refusal)
      (hstored : w'.stored = w.stored ++ attempt.created?.toList) : RoundLeaves w cluster (.ok (.error refusal)) w'
  | broken (last : Option BenchRun) (e : Exn) (w' : BenchWorld) (hlast : ∀ run ∈ last, run.cluster = cluster)
      (hstored : w'.stored = w.stored ++ last.toList) (he : ofCluster e = false) : RoundLeaves w cluster (.error e) w'

/-- what the loop leaves: all clusters were tried, or it ended at one whose answer is not the cluster's own -/
inductive EachLeaves (w : BenchWorld) (clusters : List String) : Except Exn Batch → BenchWorld → Prop where
  | all (attempts : List Attempt) (w' : BenchWorld) (hclusters : attempts.map Attempt.cluster = clusters)
      (hstored : w'.stored = w.stored ++ createdBy attempts) : EachLeaves w clusters (.ok (batchOf attempts)) w'
  | broken (attempts : List Attempt) (cluster : String) (rest : List String) (last : Option BenchRun) (e : Exn)
      (w' : BenchWorld) (hclusters : attempts.map Attempt.cluster ++ cluster :: rest = clusters)
      (hlast : ∀ run ∈ last, run.cluster = cluster)
      (hstored : w'.stored = w.stored ++ createdBy attempts ++ last.toList) (he : ofCluster e = false) :
      EachLeaves w clusters (.error e) w'

/-- how the call ends, and what it leaves -/
inductive ManyLeaves (cfg : BenchConfig) (principal : Principal) (w : BenchWorld) (clusters : List String) :
    Except Exn Batch → BenchWorld → Prop where
  /-- every cluster has been tried, and at least one was started -/
  | reported (attempts : List Attempt) (w' : BenchWorld) (hcan : principal.can manageHealth = true)
      (hknown : ∀ c ∈ clusters, c ∈ cfg.clusters) (hclusters : attempts.map Attempt.cluster = clusters)
      (hsome : (batchOf attempts).started ≠ []) (hstored : w'.stored = w.stored ++ createdBy attempts) :
      ManyLeaves cfg principal w clusters (.ok (batchOf attempts)) w'
  /-- every cluster has been tried, and none was started -/
  | refused (attempts : List Attempt) (w' : BenchWorld) (hclusters : attempts.map Attempt.cluster = clusters)
      (hnone : (batchOf attempts).started = []) (hsome : clusters ≠ [])
      (hstored : w'.stored = w.stored ++ createdBy attempts) :
      ManyLeaves cfg principal w clusters (.error (allRefused (batchOf attempts).refused)) w'
  | noCluster (w' : BenchWorld) (hnone : clusters = []) (hstored : w'.stored = w.stored) :
      ManyLeaves cfg principal w clusters (.error (.invalidRequest "Select at least one cluster.")) w'
  /-- the request is wrong, or something broke at the next cluster -/
  | wrong (attempts : List Attempt) (rest : List String) (last : Option BenchRun) (e : Exn) (w' : BenchWorld)
      (hclusters : attempts.map Attempt.cluster ++ rest = clusters) (hlast : ∀ run ∈ last, rest.head? = some run.cluster)
      (hstored : w'.stored = w.stored ++ createdBy attempts ++ last.toList) (he : ofCluster e = false) :
      ManyLeaves cfg principal w clusters (.error e) w'

theorem createdBy_cons (attempt : Attempt) (attempts : List Attempt) :
    createdBy (attempt :: attempts) = attempt.created?.toList ++ createdBy attempts := by
  rw [createdBy, List.filterMap_cons]
  cases attempt.created? <;> rfl

theorem batchOf_refused {attempt : Attempt} {refusal : Refusal} {attempts : List Attempt} (hrun : attempt.run? = none)
    (hrefusal : attempt.refusal? = some refusal) :
    batchOf (attempt :: attempts) = ⟨(batchOf attempts).started, refusal :: (batchOf attempts).refused⟩ := by
  rw [batchOf, List.filterMap_cons_none hrun, List.filterMap_cons_some hrefusal]
  rfl

/-- an attempt is reported one way or the other -/
theorem attempts_nil {attempts : List Attempt} (hstarted : (batchOf attempts).started = [])
    (hrefused : (batchOf attempts).refused = []) : attempts = [] := by
  cases attempts with
  | nil => rfl
  | cons attempt attempts =>
    cases attempt with
    | started run => cases hstarted
    | refused cluster message => cases hrefused
    | unheard run detail => cases hrefused

section Every

variable {lib : Lib} {cfg : BenchConfig} {principal : Principal} {b : Backend} {w : BenchWorld} {cluster querySet : String}
  {reason label : Option String} {repetitions : Value} {clusters : List String}

theorem post_startOne : Post (serve b) (fun _ => True)
    (startOne lib cfg principal querySet reason repetitions label cluster) (RoundLeaves w cluster) w := by
  refine post_tryCatch (post_bind (post_mono post_start ?_))
  intro x w' hx
  cases hx with
  | started run _ hcluster hstored =>
    intro _
    exact .started run _ hcluster hstored
  | nothing e _ hstored =>
    change Post (serve b) (fun _ => True) (if ofCluster e = true then _ else throw e) (RoundLeaves w cluster) w'
    by_cases he : ofCluster e = true
    · rw [if_pos he]
      exact post_pure (.refused (.refused cluster e.text) _ _ rfl rfl rfl (by rw [hstored]; exact (List.append_nil _).symm))
    · rw [if_neg he]
      exact post_throw (.broken none e _ (fun _ h => by cases h) (by rw [hstored]; exact (List.append_nil _).symm)
        (Bool.eq_false_iff.2 he))
  | unheard run e _ hcluster hstored hunheard =>
    change Post (serve b) (fun _ => True) (if ofCluster e = true then _ else throw e) (RoundLeaves w cluster) w'
    by_cases he : ofCluster e = true
    · rw [if_pos he]
      obtain ⟨detail, rfl⟩ := hunheard he
      subst hcluster
      exact post_pure (.refused (.unheard run detail) _ _ rfl rfl rfl hstored)
    · rw [if_neg he]
      exact post_throw (.broken (some run) e _ (fun _ h => by cases h; exact hcluster) hstored (Bool.eq_false_iff.2 he))

theorem post_clustersOr404_checked :
    Post (serve b) (fun _ => True) (clustersOr404 cfg clusters) (Checked cfg w clusters) w := by
  induction clusters with
  | nil => exact post_pure (.known fun _ h => absurd h List.not_mem_nil)
  | cons cluster clusters ih =>
    refine post_bind (post_refuse ?_ ?_)
    · intro hknown
      split_ifs at hknown with hcluster
      refine post_mono ih ?_
      intro x s hx
      cases hx with
      | known hrest => exact .known (List.forall_mem_cons.2 ⟨hcluster, hrest⟩)
      | unknown e he => exact .unknown e he
    · intro e he
      split_ifs at he
      obtain rfl := Option.some.inj he
      exact .unknown _ rfl

/-- **The loop.** -/
theorem post_startEach : Post (serve b) (fun _ => True)
    (startEach lib cfg principal querySet reason repetitions label clusters) (EachLeaves w clusters) w := by
  induction clusters generalizing w with
  | nil => exact post_pure (.all [] w rfl (List.append_nil _).symm)
  | cons cluster rest ih =>
    refine post_bind (post_mono post_startOne ?_)
    intro x w₁ hx
    cases hx with
    | started run _ hcluster hstored =>
      refine post_bind (post_mono ih ?_)
      intro y w₂ hy
      cases hy with
      | all attempts _ hclusters hstored' =>
        refine post_pure (.all (.started run :: attempts) w₂ (congrArg₂ List.cons hcluster hclusters) ?_)
        rw [hstored', hstored, List.append_assoc]
        rfl
      | broken attempts c rest' last e _ hclusters hlast hstored' he =>
        refine .broken (.started run :: attempts) c rest' last e w₂ (congrArg₂ List.cons hcluster hclusters) hlast ?_ he
        rw [hstored', hstored, List.append_assoc w.stored]
        rfl
    | refused attempt refusal _ hcluster hrun hrefusal hstored =>
      refine post_bind (post_mono ih ?_)
      intro y w₂ hy
      cases hy with
      | all attempts _ hclusters hstored' =>
        have hall : EachLeaves w (cluster :: rest) (.ok (batchOf (attempt :: attempts))) w₂ := by
          refine .all (attempt :: attempts) w₂ (congrArg₂ List.cons hcluster hclusters) ?_
          rw [hstored', hstored, createdBy_cons, List.append_assoc]
        rw [batchOf_refused hrun hrefusal] at hall
        exact post_pure hall
      | broken attempts c rest' last e _ hclusters hlast hstored' he =>
        refine .broken (attempt :: attempts) c rest' last e w₂ (congrArg₂ List.cons hcluster hclusters) hlast ?_ he
        rw [hstored', hstored, createdBy_cons, List.append_assoc w.stored]
    | broken last e _ hlast hstored he =>
      refine .broken [] cluster rest last e w₁ rfl hlast ?_ he
      rw [hstored]
      exact congrArg (· ++ last.toList) (List.append_nil _).symm

theorem post_startMany : Post (serve b) (fun _ => True)
    (startMany lib cfg principal querySet reason repetitions label clusters) (ManyLeaves cfg principal w clusters) w := by
  have hnothing : w.stored = w.stored ++ createdBy [] ++ (none : Option BenchRun).toList := by
    rw [createdBy, List.filterMap_nil, Option.toList_none, List.append_nil, List.append_nil]
  refine post_bind (post_refuse (fun hcan => ?_) fun e he => ?_)
  on_goal 2 =>
    split_ifs at he
    obtain rfl := Option.some.inj he
    exact .wrong [] clusters none _ w rfl (fun _ h => by cases h) hnothing rfl
  refine post_bind (post_refuse (fun hsome => ?_) fun e he => ?_)
  on_goal 2 =>
    split_ifs at he with hnone
    obtain rfl := Option.some.inj he
    exact .noCluster w hnone rfl
  refine post_bind (post_mono post_clustersOr404_checked ?_)
  intro x w₁ hx
  cases hx with
  | unknown e he => exact .wrong [] clusters none e w rfl (fun _ h => by cases h) hnothing he
  | known hknown =>
    refine post_bind (post_mono post_startEach ?_)
    intro y w₂ hy
    cases hy with
    | broken attempts c rest last e _ hclusters hlast hstored he =>
      exact .wrong attempts (c :: rest) last e w₂ hclusters (fun run h => congrArg some (hlast run h).symm) hstored he
    | all attempts _ hclusters hstored =>
      refine post_bind (post_refuse (fun hpass => post_pure ?_) fun e he => ?_)
      · split_ifs at hcan hsome hpass with hadmin hclusters' hrefused
        refine .reported attempts w₂ hadmin hknown hclusters (fun hstarted => ?_) hstored
        refine hrefused ⟨hstarted, fun hnone => hclusters' ?_⟩
        rw [← hclusters, attempts_nil hstarted hnone]
        rfl
      · split_ifs at hsome he with hclusters' hrefused
        obtain rfl := Option.some.inj he
        exact .refused attempts w₂ hclusters hrefused.1 hclusters' hstored

end Every

/-- **Every cluster is tried.** Whatever the stores, the guard and the audit log do, a call of `start_many` that reports does
so on each cluster it was given, in order and once each, and raises what it has to report if none could be started; else
it ends because the request itself is wrong or something broke. What it reports as started is stored, whatever is refused
elsewhere; a cluster it reports as refused has no new run, unless the refusal says that the store was not heard; and no
run is stored that belongs to no attempt. -/
theorem every_cluster_tried (lib : Lib) (cfg : BenchConfig) (b : Backend) (principal : Principal) (clusters : List String)
    (querySet : String) (reason : Option String) (repetitions : Value) (label : Option String) (os : List (Oracle Weather))
    (site : Site BenchWorld) :
    ManyLeaves cfg principal site.service clusters
      (Prog.run (handle (serve b)) os (startMany lib cfg principal querySet reason repetitions label clusters) site).1
      (Prog.run (handle (serve b)) os (startMany lib cfg principal querySet reason repetitions label clusters)
        site).2.service :=
  post_run trivial (fun _ _ => trivial) post_startMany

def twoClusters : BenchConfig := ⟨["c1", "c2"], 20, oneCluster.sane⟩

/-- a run is going on the first -/
def firstBusy : Site BenchWorld :=
  ⟨⟨[("s", ⟨"", "", []⟩)], [⟨"c1", "s", "ops", ["admin"], "nightly", 1, .none, none, [], none, true⟩], []⟩, []⟩

example : ((Prog.run (handle (serve .postgres)) []
    (startMany asciiLib twoClusters scheduler "s" (some "compare") (.int 1) none ["c1", "c2"]) firstBusy).1.toOption.map
      fun batch => (batch.started.map BenchRun.cluster, batch.refused.map Refusal.cluster)) = some (["c2"], ["c1"]) := by
  decide +kernel

end TrinoManagement.Bench
