/-
One job at a time: tms-api processes over one database, each starting up, launching jobs, recording how they end, or
crashing. At most one fleet playbook and at most one benchmark should be live per cluster, and a run that has ended should
not change again.

`reconcile_orphans` takes every RUNNING row for the row of a process that died. It cannot see the threads of another one.
And a playbook whose thread is ended by an exception, or whose process dies, may go on with nobody to watch it.
- `inv_step`: as long as no process reconciles while another has a job of that kind in hand, each job in hand has its own
  RUNNING row; `inHand_le_one` and `step_kept` follow from that and the unique index.
- `live_step`: if moreover no playbook starts beside an unwatched one, at most one is live.
- `one_job`: in a run of such steps both parts hold of every state.
- `second_job_live`: in a run with one start-up too many, both fail.
-/
import Mathlib.Tactic
import TrinoManagement.Core.Run
import TrinoManagement.Jobs.Runs

namespace TrinoManagement.Jobs

open TrinoManagement.Run (Meets run run_append run_inv meets_append)

/-! ## Processes, jobs and what they do -/

/-- a tms-api process; `build_app` reconciles before it serves -/
inductive Serving where
  | down | starting | serving
deriving DecidableEq, Repr

/-- a job in hand: its row is created, its thread runs, or the thread is about to record the outcome -/
inductive Phase where
  | created
  | live
  | ended (outcome : Outcome)
deriving DecidableEq

structure Job where
  process : ℕ
  kind : Kind
  id : ℕ
  cluster : String
  phase : Phase
deriving DecidableEq

def Job.key (j : Job) : Kind × ℕ := (j.kind, j.id)

/-- the database, the processes and the jobs in their hands -/
structure Site where
  tables : Kind → Table
  processes : ℕ → Serving
  jobs : List Job
  /-- fleet jobs whose playbook goes on without a thread -/
  unwatched : List Job

/-- `execute` of the INSERT, as the process sees it: an answer, an error before or an error after the row is stored -/
inductive Insert where
  | answered | failed | lost
deriving DecidableEq, Repr

/-- `runner.start`: a thread, the `JobError` of a fleet job, or any other exception -/
inductive Launch where
  | thread
  | refused (error : String)
  | raised
deriving DecidableEq, Repr

/-- `raise`: an exception ends the thread, with the playbook still running or not. `exit`: an unwatched playbook ends. A
process that crashes takes its playbooks with it or leaves them. -/
inductive Label where
  | boot (process : ℕ)
  | reconcile (process : ℕ) (kind : Kind) (applied : Bool)
  | serve (process : ℕ)
  | create (process : ℕ) (kind : Kind) (cluster what : String) (insert : Insert)
  | launch (kind : Kind) (id : ℕ) (result : Launch)
  | finish (kind : Kind) (id : ℕ) (outcome : Outcome)
  | raise (kind : Kind) (id : ℕ) (error : String) (running : Bool)
  | record (kind : Kind) (id : ℕ) (now : ℚ) (applied : Bool)
  | exit (id : ℕ)
  | crash (process : ℕ) (leaves : Bool)
deriving DecidableEq

namespace Site

variable (s : Site)

/-- a database with whatever rows it has, and no process yet -/
def init (tables : Kind → Table) : Site := ⟨tables, fun _ => .down, [], []⟩

def store (kind : Kind) (t : Table) : Site := { s with tables := Function.update s.tables kind t }

def become (process : ℕ) (now : Serving) : Site := { s with processes := Function.update s.processes process now }

/-- the job of the row goes on in another phase, or is dropped -/
def move (key : Kind × ℕ) (f : Phase → Option Phase) : Site :=
  { s with jobs := s.jobs.filterMap fun j => if j.key = key then (f j.phase).map fun ph => { j with phase := ph } else some j }

/-- `JobRunner.start`, `BenchmarkRunner.start` and what their callers do with an exception -/
def Launch.next (result : Launch) : Phase → Option Phase
  | .created =>
    match result with
    | .thread => some .live
    | .refused error => some (.ended ⟨.failed, by decide, none, some error⟩)
    | .raised => none
  | ph => some ph

/-- the playbooks of such jobs go on without their threads; a benchmark is its thread -/
def abandon (of : Job → Bool) : List Job :=
  (s.jobs.filter fun j => of j && decide (j.kind = .fleet ∧ j.phase = .live)) ++ s.unwatched

/-- the thread is done: `on_finish(outcome(result))` is next -/
def ending (outcome : Outcome) : Phase → Option Phase
  | .live => some (.ended outcome)
  | ph => some ph

/-- an exception in the thread: FAILED is next, whatever the playbook does -/
def raise (kind : Kind) (id : ℕ) (error : String) (running : Bool) : Site :=
  { s.move (kind, id) (ending ⟨.failed, by decide, none, some error⟩) with
    unwatched := if running then s.abandon fun j => decide (j.key = (kind, id)) else s.unwatched }

/-- `_start_job_audited` and `_start_audited`, up to the row -/
def create (process : ℕ) (kind : Kind) (cluster what : String) : Insert → Site
  | .failed => s
  | .lost =>
    match (s.tables kind).create cluster what with
    | none => s
    | some t => s.store kind t
  | .answered =>
    match (s.tables kind).create cluster what with
    | none => s
    | some t =>
      { s.store kind t with jobs := ⟨process, kind, (s.tables kind).rows.length, cluster, .created⟩ :: s.jobs }

/-- `finish`: an error is logged and the outcome forgotten -/
def record (kind : Kind) (id : ℕ) (now : ℚ) (applied : Bool) : Site :=
  match s.jobs.find? (fun j => j.key = (kind, id)) with
  | none => s
  | some j =>
    match j.phase with
    | .ended outcome =>
      let s' := s.move (kind, id) fun _ => none
      if applied then s'.store kind ((s.tables kind).finish id outcome now) else s'
    | _ => s

def step : Label → Site
  | .boot p => if s.processes p = .down then s.become p .starting else s
  | .reconcile p kind applied =>
    if s.processes p = .starting ∧ applied then s.store kind ((s.tables kind).reconcileOrphans kind) else s
  | .serve p => if s.processes p = .starting then s.become p .serving else s
  | .create p kind cluster what insert => if s.processes p = .serving then s.create p kind cluster what insert else s
  | .launch kind id result => s.move (kind, id) (Launch.next result)
  | .finish kind id outcome => s.move (kind, id) (ending outcome)
  | .raise kind id error running => s.raise kind id error running
  | .record kind id now applied => s.record kind id now applied
  | .exit id => { s with unwatched := s.unwatched.filter fun j => j.id ≠ id }
  | .crash p leaves =>
    { s.become p .down with
      jobs := s.jobs.filter fun j => j.process ≠ p
      unwatched := if leaves then s.abandon fun j => decide (j.process = p) else s.unwatched.filter fun j => j.process ≠ p }

end Site

/-! ## What is claimed, and the condition -/

def Job.liveOn (kind : Kind) (cluster : String) (j : Job) : Bool :=
  decide (j.kind = kind ∧ j.cluster = cluster ∧ j.phase = .live)

/-- the live jobs, watched or not -/
def Site.live (s : Site) (kind : Kind) (cluster : String) : List Job := (s.jobs ++ s.unwatched).filter (Job.liveOn kind cluster)

def OneLive (s : Site) : Prop := ∀ (kind : Kind) (cluster : String), (s.live kind cluster).length ≤ 1

/-- a row that has ended is the same row later -/
def Kept (s s' : Site) : Prop :=
  ∀ (kind : Kind) (id : ℕ) (row : RunRow), (s.tables kind).rows[id]? = some row → row.state.terminal = true →
    (s'.tables kind).rows[id]? = some row

/-- whoever reconciles, no other process has a job of that kind in hand; and where a playbook goes on unwatched, no job is
started -/
def Quiet (s : Site) : Label → Prop
  | .reconcile p kind true => ∀ j ∈ s.jobs, j.kind = kind → j.process = p
  | .launch kind id .thread => ∀ j ∈ s.jobs, j.key = (kind, id) → ∀ u ∈ s.unwatched, u.kind = kind → u.cluster ≠ j.cluster
  | _ => True

instance Quiet.decidable (s : Site) : ∀ l, Decidable (Quiet s l)
  | .reconcile p kind true => inferInstanceAs (Decidable (∀ j ∈ s.jobs, j.kind = kind → j.process = p))
  | .reconcile _ _ false => isTrue trivial
  | .boot _ => isTrue trivial
  | .serve _ => isTrue trivial
  | .create .. => isTrue trivial
  | .launch kind id .thread => inferInstanceAs (Decidable (∀ j ∈ s.jobs, j.key = (kind, id) → ∀ u ∈ s.unwatched,
      u.kind = kind → u.cluster ≠ j.cluster))
  | .launch _ _ (.refused _) => isTrue trivial
  | .launch _ _ .raised => isTrue trivial
  | .finish .. => isTrue trivial
  | .raise .. => isTrue trivial
  | .record .. => isTrue trivial
  | .exit _ => isTrue trivial
  | .crash .. => isTrue trivial

theorem Kept.refl (s : Site) : Kept s s := fun _ _ _ h _ => h

theorem Kept.trans {s s' s'' : Site} (h : Kept s s') (h' : Kept s' s'') : Kept s s'' :=
  fun kind id row hrow hend => h' kind id row (h kind id row hrow hend) hend

/-! ## What a step can do -/

/-- an INSERT stores nothing, or a row without a job, or a row with one -/
theorem create_cases (s : Site) (p : ℕ) (kind : Kind) (cluster what : String) (insert : Insert) :
    s.create p kind cluster what insert = s ∨
    ∃ t, (s.tables kind).create cluster what = some t ∧
      (s.create p kind cluster what insert = s.store kind t ∨
       s.create p kind cluster what insert =
        { s.store kind t with jobs := ⟨p, kind, (s.tables kind).rows.length, cluster, .created⟩ :: s.jobs }) := by
  cases insert with
  | failed => exact .inl rfl
  | lost =>
    cases ht : (s.tables kind).create cluster what with
    | none => exact .inl (by simp [Site.create, ht])
    | some t => exact .inr ⟨t, rfl, .inl (by simp [Site.create, ht])⟩
  | answered =>
    cases ht : (s.tables kind).create cluster what with
    | none => exact .inl (by simp [Site.create, ht])
    | some t => exact .inr ⟨t, rfl, .inr (by simp [Site.create, ht])⟩

/-- an outcome is recorded by whoever had the job in hand, or lost with it -/
theorem record_cases (s : Site) (kind : Kind) (id : ℕ) (now : ℚ) (applied : Bool) :
    s.record kind id now applied = s ∨
    s.record kind id now applied = s.move (kind, id) (fun _ => none) ∨
    ∃ j ∈ s.jobs, j.key = (kind, id) ∧ ∃ outcome,
      s.record kind id now applied = (s.move (kind, id) fun _ => none).store kind ((s.tables kind).finish id outcome now) := by
  cases hfind : s.jobs.find? (fun j => j.key = (kind, id)) with
  | none => exact .inl (by simp [Site.record, hfind])
  | some j =>
    cases hph : j.phase with
    | created => exact .inl (by simp [Site.record, hfind, hph])
    | live => exact .inl (by simp [Site.record, hfind, hph])
    | ended outcome =>
      cases applied with
      | false => exact .inr (.inl (by simp [Site.record, hfind, hph]))
      | true =>
        have hkey : j.key = (kind, id) := by simpa using List.find?_some hfind
        refine .inr (.inr ⟨j, List.mem_of_find?_eq_some hfind, hkey, outcome, ?_⟩)
        simp [Site.record, hfind, hph]

/-! ## The invariant -/

/-- each job in hand has a RUNNING row of its own, and a process that serves -/
structure JobInv (s : Site) : Prop where
  held : ∀ j ∈ s.jobs, ∃ row, (s.tables j.kind).rows[j.id]? = some row ∧ row.state = .running ∧ row.cluster = j.cluster
  distinct : (s.jobs.map Job.key).Nodup
  owned : ∀ j ∈ s.jobs, s.processes j.process = .serving

section Steps

variable {s : Site}

theorem inv_init (tables : Kind → Table) : JobInv (Site.init tables) where
  held := by
    intro j hj
    cases hj
  distinct := List.nodup_nil
  owned := by
    intro j hj
    cases hj

/-- what is left of the jobs is still held -/
theorem JobInv.sub (h : JobInv s) {jobs : List Job} (hsub : (jobs.map Job.key).Sublist (s.jobs.map Job.key))
    (hfrom : ∀ j ∈ jobs, ∃ j₀ ∈ s.jobs, j.key = j₀.key ∧ j.cluster = j₀.cluster ∧ j.process = j₀.process) :
    JobInv { s with jobs := jobs } where
  held := by
    intro j hj
    obtain ⟨j₀, hj₀, hkey, hcluster, -⟩ := hfrom j hj
    obtain ⟨row, hrow, hrun, hc⟩ := h.held j₀ hj₀
    have hkind : j.kind = j₀.kind := congrArg Prod.fst hkey
    have hid : j.id = j₀.id := congrArg Prod.snd hkey
    exact ⟨row, by rw [hkind, hid]; exact hrow, hrun, by rw [hcluster]; exact hc⟩
  distinct := h.distinct.sublist hsub
  owned := by
    intro j hj
    obtain ⟨j₀, hj₀, -, -, hprocess⟩ := hfrom j hj
    rw [hprocess]
    exact h.owned j₀ hj₀

/-- a moved job keeps its row, cluster and process -/
theorem JobInv.move (h : JobInv s) (key : Kind × ℕ) (f : Phase → Option Phase) : JobInv (s.move key f) := by
  have hkeep : ∀ j₀ j : Job, (if j₀.key = key then (f j₀.phase).map fun ph => { j₀ with phase := ph } else some j₀) = some j →
      j.key = j₀.key ∧ j.cluster = j₀.cluster ∧ j.process = j₀.process := by
    intro j₀ j hj
    split_ifs at hj
    · obtain ⟨ph, -, rfl⟩ := Option.map_eq_some_iff.1 hj
      exact ⟨rfl, rfl, rfl⟩
    · obtain rfl := Option.some.inj hj
      exact ⟨rfl, rfl, rfl⟩
  apply h.sub
  · generalize s.jobs = jobs
    induction jobs with
    | nil => exact List.Sublist.slnil
    | cons j₀ jobs ih =>
      rw [List.filterMap_cons]
      split
      · exact ih.trans (List.sublist_cons_self _ _)
      · rename_i j hj
        rw [List.map_cons, List.map_cons, (hkeep j₀ j hj).1]
        exact ih.cons_cons _
  · intro j hj
    obtain ⟨j₀, hj₀, heq⟩ := List.mem_filterMap.1 hj
    exact ⟨j₀, hj₀, hkeep j₀ j heq⟩

/-- a table in which the rows of the jobs in hand are what they were -/
theorem JobInv.store (h : JobInv s) (kind : Kind) (t : Table)
    (hrows : ∀ j ∈ s.jobs, j.kind = kind → t.rows[j.id]? = (s.tables kind).rows[j.id]?) : JobInv (s.store kind t) where
  held := by
    intro j hj
    obtain ⟨row, hrow, hrest⟩ := h.held j hj
    refine ⟨row, ?_, hrest⟩
    by_cases hk : j.kind = kind
    · have heq := hrows j hj hk
      subst hk
      simp only [Site.store, Function.update_self]
      rw [heq]
      exact hrow
    · simp only [Site.store, Function.update_of_ne hk]
      exact hrow
  distinct := h.distinct
  owned := h.owned

/-- a process that serves no job may become anything -/
theorem JobInv.become (h : JobInv s) {p : ℕ} (hp : s.processes p ≠ .serving) (now : Serving) : JobInv (s.become p now) where
  held := h.held
  distinct := h.distinct
  owned := by
    intro j hj
    have hne : j.process ≠ p := by
      rintro rfl
      exact hp (h.owned j hj)
    simp only [Site.become, Function.update_of_ne hne]
    exact h.owned j hj

theorem JobInv.create (h : JobInv s) {p : ℕ} (hp : s.processes p = .serving) (kind : Kind) (cluster what : String)
    (insert : Insert) : JobInv (s.create p kind cluster what insert) := by
  have stored : ∀ t, (s.tables kind).create cluster what = some t → JobInv (s.store kind t) := by
    intro t ht
    apply h.store
    intro j hj hk
    obtain ⟨row, hrow, -⟩ := h.held j hj
    rw [hk] at hrow
    rw [hrow]
    exact (Table.create_eq_some ht).1 j.id row hrow
  rcases create_cases s p kind cluster what insert with heq | ⟨t, ht, heq | heq⟩
  · rw [heq]
    exact h
  · rw [heq]
    exact stored t ht
  · rw [heq]
    have hs := stored t ht
    refine ⟨?_, ?_, ?_⟩
    · intro j hj
      rcases List.mem_cons.1 hj with rfl | hj
      · refine ⟨Table.newRow cluster what, ?_, rfl, rfl⟩
        simp only [Site.store, Function.update_self]
        exact (Table.create_eq_some ht).2
      · exact hs.held j hj
    · rw [List.map_cons, List.nodup_cons]
      refine ⟨?_, h.distinct⟩
      intro hmem
      obtain ⟨j, hj, hkey⟩ := List.mem_map.1 hmem
      obtain ⟨row, hrow, -⟩ := h.held j hj
      have hkind : j.kind = kind := congrArg Prod.fst hkey
      have hid : j.id = (s.tables kind).rows.length := congrArg Prod.snd hkey
      rw [hkind, hid, List.getElem?_eq_none le_rfl] at hrow
      cases hrow
    · intro j hj
      rcases List.mem_cons.1 hj with rfl | hj
      · exact hp
      · exact h.owned j hj

theorem not_mem_move {key : Kind × ℕ} {j : Job} (hj : j ∈ (s.move key fun _ => none).jobs) : j.key ≠ key := by
  obtain ⟨j₀, -, heq⟩ := List.mem_filterMap.1 hj
  split_ifs at heq with hkey
  · cases heq
  · obtain rfl := Option.some.inj heq
    exact hkey

/-- the row that is finished is the one of the job -/
theorem JobInv.record (h : JobInv s) (kind : Kind) (id : ℕ) (now : ℚ) (applied : Bool) :
    JobInv (s.record kind id now applied) := by
  rcases record_cases s kind id now applied with heq | heq | ⟨j, hj, hkey, outcome, heq⟩
  · rw [heq]
    exact h
  · rw [heq]
    exact h.move _ _
  · rw [heq]
    apply (h.move _ _).store
    intro j' hj' hk
    apply Table.finish_of_ne
    intro hid
    exact not_mem_move hj' (Prod.ext hk hid)

/-- an unwatched playbook is in nobody's hand -/
theorem JobInv.unwatch (h : JobInv s) (unwatched : List Job) : JobInv { s with unwatched := unwatched } :=
  ⟨h.held, h.distinct, h.owned⟩

/-- whoever dies takes its jobs with it -/
theorem JobInv.crash (h : JobInv s) (p : ℕ) (leaves : Bool) : JobInv (Site.step s (.crash p leaves)) := by
  have hsub : JobInv { s with jobs := s.jobs.filter fun j => j.process ≠ p } := by
    apply h.sub
    · exact List.filter_sublist.map _
    · intro j hj
      exact ⟨j, (List.mem_filter.1 hj).1, rfl, rfl, rfl⟩
  refine ⟨hsub.held, hsub.distinct, ?_⟩
  intro j hj
  have hne : j.process ≠ p := by simpa using (List.mem_filter.1 hj).2
  simp only [Site.step, Site.become, Function.update_of_ne hne]
  exact hsub.owned j hj

/-- **Step lemma.** A quiet step leaves every job in hand its row. -/
theorem inv_step {l : Label} (h : JobInv s) (hq : Quiet s l) : JobInv (s.step l) := by
  cases l with
  | boot p =>
    simp only [Site.step]
    split_ifs with hp
    · exact h.become (by simp [hp]) _
    · exact h
  | serve p =>
    simp only [Site.step]
    split_ifs with hp
    · exact h.become (by simp [hp]) _
    · exact h
  | reconcile p kind applied =>
    simp only [Site.step]
    split_ifs with hp
    · apply h.store
      intro j hj hk
      obtain ⟨hstarting, rfl⟩ := hp
      have howned := h.owned j hj
      rw [hq j hj hk, hstarting] at howned
      cases howned
    · exact h
  | create p kind cluster what insert =>
    simp only [Site.step]
    split_ifs with hp
    · exact h.create hp kind cluster what insert
    · exact h
  | launch kind id result => exact h.move _ _
  | finish kind id outcome => exact h.move _ _
  | raise kind id error running => exact (h.move _ _).unwatch _
  | record kind id now applied => exact h.record kind id now applied
  | exit id => exact h.unwatch _
  | crash p leaves => exact h.crash p leaves

/-- two live jobs of a kind on a cluster have RUNNING rows with one index entry -/
theorem inHand_le_one (h : JobInv s) (kind : Kind) (cluster : String) : s.jobs.countP (Job.liveOn kind cluster) ≤ 1 := by
  rw [List.countP_eq_length_filter]
  have hrow : ∀ j ∈ s.jobs.filter (Job.liveOn kind cluster), ∃ row, (s.tables kind).rows[j.id]? = some row ∧
      row.state = .running ∧ row.cluster = cluster := by
    intro j hj
    obtain ⟨hmem, hj'⟩ := List.mem_filter.1 hj
    obtain ⟨rfl, rfl, -⟩ := of_decide_eq_true hj'
    exact h.held j hmem
  have hkind : ∀ j ∈ s.jobs.filter (Job.liveOn kind cluster), j.kind = kind := by
    intro j hj
    exact (of_decide_eq_true (List.mem_filter.1 hj).2).1
  have hdistinct : ((s.jobs.filter (Job.liveOn kind cluster)).map Job.key).Nodup :=
    h.distinct.sublist (List.filter_sublist.map _)
  generalize s.jobs.filter (Job.liveOn kind cluster) = jobs at hrow hkind hdistinct
  match jobs with
  | [] => simp
  | [_] => simp
  | j :: j' :: rest =>
    have hj : j ∈ j :: j' :: rest := by simp
    have hj' : j' ∈ j :: j' :: rest := by simp
    obtain ⟨row, hrow₁, hrun, hc⟩ := hrow j hj
    obtain ⟨row', hrow₂, hrun', hc'⟩ := hrow j' hj'
    have hid := (s.tables kind).unique j.id j'.id row row' hrow₁ hrow₂ hrun hrun' (hc.trans hc'.symm)
    have hkey : j.key = j'.key := Prod.ext ((hkind j hj).trans (hkind j' hj').symm) hid
    simp [hkey] at hdistinct

/-- an UPDATE or INSERT of a quiet step touches no row that has ended -/
theorem step_kept {l : Label} (h : JobInv s) : Kept s (s.step l) := by
  have stored : ∀ (s : Site) (kind : Kind) (t : Table), (∀ (id : ℕ) (row : RunRow), (s.tables kind).rows[id]? = some row →
      row.state.terminal = true → t.rows[id]? = some row) → Kept s (s.store kind t) := by
    intro s kind t hrows kind' id row hrow hend
    by_cases hk : kind' = kind
    · subst hk
      simp only [Site.store, Function.update_self]
      exact hrows id row hrow hend
    · simp only [Site.store, Function.update_of_ne hk]
      exact hrow
  cases l with
  | boot p =>
    simp only [Site.step]
    split_ifs <;> exact Kept.refl s
  | serve p =>
    simp only [Site.step]
    split_ifs <;> exact Kept.refl s
  | reconcile p kind applied =>
    simp only [Site.step]
    split_ifs
    · apply stored
      intro id row hrow hend
      exact Table.reconcileOrphans_of_terminal hrow hend
    · exact Kept.refl s
  | create p kind cluster what insert =>
    simp only [Site.step]
    split_ifs
    · rcases create_cases s p kind cluster what insert with heq | ⟨t, ht, heq | heq⟩
      · rw [heq]
        exact Kept.refl s
      · rw [heq]
        exact stored s kind t fun id row hrow _ => (Table.create_eq_some ht).1 id row hrow
      · rw [heq]
        exact stored s kind t fun id row hrow _ => (Table.create_eq_some ht).1 id row hrow
    · exact Kept.refl s
  | launch kind id result => exact Kept.refl s
  | finish kind id outcome => exact Kept.refl s
  | raise kind id error running => exact Kept.refl s
  | record kind id now applied =>
    simp only [Site.step]
    rcases record_cases s kind id now applied with heq | heq | ⟨j, hj, hkey, outcome, heq⟩
    · rw [heq]
      exact Kept.refl s
    · rw [heq]
      exact Kept.refl s
    · rw [heq]
      apply stored (s.move (kind, id) fun _ => none)
      intro id' row hrow hend
      have hne : id' ≠ id := by
        rintro rfl
        obtain ⟨row', hrow', hrun, -⟩ := h.held j hj
        have hkind : j.kind = kind := congrArg Prod.fst hkey
        have hid : j.id = id' := congrArg Prod.snd hkey
        rw [hkind, hid] at hrow'
        obtain rfl := Option.some.inj (hrow.symm.trans hrow')
        simp [RunState.terminal, hrun] at hend
      exact (Table.finish_of_ne hne outcome now).trans hrow
  | exit id => exact Kept.refl s
  | crash p leaves => exact Kept.refl s

/-! ### How many are live -/

theorem live_length (s : Site) (kind : Kind) (cluster : String) : (s.live kind cluster).length =
    s.jobs.countP (Job.liveOn kind cluster) + s.unwatched.countP (Job.liveOn kind cluster) := by
  rw [Site.live, ← List.countP_eq_length_filter, List.countP_append]

/-- a move that makes no job of the cluster live adds none -/
theorem countP_move {kind : Kind} {cluster : String} {key : Kind × ℕ} {f : Phase → Option Phase}
    (hf : ∀ j ∈ s.jobs, j.key = key → j.kind = kind → j.cluster = cluster → f j.phase = some .live → j.phase = .live) :
    (s.move key f).jobs.countP (Job.liveOn kind cluster) ≤ s.jobs.countP (Job.liveOn kind cluster) := by
  unfold Site.move
  dsimp only
  rw [List.countP_filterMap]
  apply List.countP_mono_left
  intro j hj hlive
  split_ifs at hlive with hkey
  · cases hph : f j.phase with
    | none =>
      rw [hph] at hlive
      cases hlive
    | some ph =>
      rw [hph] at hlive
      obtain ⟨hkind, hcluster, rfl⟩ := of_decide_eq_true hlive
      exact decide_eq_true ⟨hkind, hcluster, hf j hj hkey hkind hcluster hph⟩
  · exact hlive

theorem countP_abandon (of : Job → Bool) (kind : Kind) (cluster : String) :
    (s.abandon of).countP (Job.liveOn kind cluster) ≤
      (s.jobs.filter of).countP (Job.liveOn kind cluster) + s.unwatched.countP (Job.liveOn kind cluster) := by
  rw [Site.abandon, List.countP_append, List.countP_filter, List.countP_filter]
  refine Nat.add_le_add_right (List.countP_mono_left fun j _ hj => ?_) _
  simp only [Bool.and_eq_true] at hj ⊢
  exact ⟨hj.1, hj.2.1⟩

/-- a job that ends is live no more -/
theorem countP_ending (outcome : Outcome) (key : Kind × ℕ) (kind : Kind) (cluster : String) :
    (s.move key (Site.ending outcome)).jobs.countP (Job.liveOn kind cluster) ≤
      (s.jobs.filter fun j => !decide (j.key = key)).countP (Job.liveOn kind cluster) := by
  unfold Site.move
  dsimp only
  rw [List.countP_filterMap, List.countP_filter]
  apply List.countP_mono_left
  intro j _ hlive
  split_ifs at hlive with hkey
  · cases hph : Site.ending outcome j.phase with
    | none =>
      rw [hph] at hlive
      cases hlive
    | some ph =>
      rw [hph] at hlive
      obtain ⟨-, -, rfl⟩ := of_decide_eq_true hlive
      cases hphase : j.phase <;> rw [hphase] at hph <;> cases hph
  · simpa [hkey] using hlive

/-- a launched job becomes live only where nothing unwatched is -/
theorem live_launch {kind on : Kind} {id : ℕ} {result : Launch} {cluster : String} (hq : Quiet s (.launch kind id result))
    (hhand : (s.step (.launch kind id result)).jobs.countP (Job.liveOn on cluster) ≤ 1)
    (hbefore : (s.live on cluster).length ≤ 1) : ((s.step (.launch kind id result)).live on cluster).length ≤ 1 := by
  have hsame : (s.step (.launch kind id result)).unwatched = s.unwatched := rfl
  rw [live_length] at hbefore ⊢
  rw [hsame]
  by_cases hun : s.unwatched.countP (Job.liveOn on cluster) = 0
  · rw [hun]
    exact hhand
  · obtain ⟨u, hu, hulive⟩ := List.countP_pos_iff.1 (Nat.pos_of_ne_zero hun)
    obtain ⟨hukind, hucluster, -⟩ := of_decide_eq_true hulive
    refine (Nat.add_le_add_right (countP_move ?_) _).trans hbefore
    intro j hj hkey hkind hcluster hnext
    cases hph : j.phase with
    | live => rfl
    | ended outcome =>
      rw [hph] at hnext
      cases hnext
    | created =>
      rw [hph] at hnext
      cases result with
      | thread =>
        have hjkind : j.kind = kind := congrArg Prod.fst hkey
        exact absurd (hucluster.trans hcluster.symm) (hq j hj hkey u hu (hukind.trans (hkind.symm.trans hjkind)))
      | refused error => cases hnext
      | raised => cases hnext

/-- a playbook whose thread ends by an exception is unwatched, or it is over -/
theorem live_raise (kind on : Kind) (id : ℕ) (error : String) (running : Bool) (cluster : String) :
    ((s.step (.raise kind id error running)).live on cluster).length ≤ (s.live on cluster).length := by
  have hmoved := @countP_ending s ⟨.failed, by decide, none, some error⟩ (kind, id) on cluster
  have hsplit := List.countP_eq_countP_filter_add s.jobs (Job.liveOn on cluster) fun j => decide (j.key = (kind, id))
  rw [live_length, live_length]
  cases running with
  | false =>
    refine (Nat.add_le_add_right hmoved _).trans ?_
    have hsame : (s.step (.raise kind id error false)).unwatched = s.unwatched := rfl
    rw [hsame]
    omega
  | true =>
    have hleft := @countP_abandon s (fun j => decide (j.key = (kind, id))) on cluster
    refine (Nat.add_le_add hmoved hleft).trans ?_
    omega

/-- so are those of a process that crashes -/
theorem live_crash (p : ℕ) (leaves : Bool) (on : Kind) (cluster : String) :
    ((s.step (.crash p leaves)).live on cluster).length ≤ (s.live on cluster).length := by
  have hsplit := List.countP_eq_countP_filter_add s.jobs (Job.liveOn on cluster) fun j => decide (j.process = p)
  rw [live_length, live_length]
  cases leaves with
  | false => exact Nat.add_le_add List.filter_sublist.countP_le List.filter_sublist.countP_le
  | true =>
    have hleft := @countP_abandon s (fun j => decide (j.process = p)) on cluster
    have hjobs : (s.step (.crash p true)).jobs = s.jobs.filter fun j => !decide (j.process = p) := by
      simp [Site.step, decide_not]
    have hunwatched : (s.step (.crash p true)).unwatched = s.abandon fun j => decide (j.process = p) := rfl
    rw [hjobs, hunwatched]
    omega

/-- **Step lemma.** A quiet step leaves at most one job live, watched or not. -/
theorem live_step {l : Label} (h : JobInv s) (hone : OneLive s) (hq : Quiet s l) : OneLive (s.step l) := by
  intro on cluster
  have hbefore := hone on cluster
  have hhand := inHand_le_one (inv_step h hq) on cluster
  cases l with
  | boot p =>
    simp only [Site.step]
    split_ifs <;> exact hbefore
  | serve p =>
    simp only [Site.step]
    split_ifs <;> exact hbefore
  | reconcile p kind applied =>
    simp only [Site.step]
    split_ifs <;> exact hbefore
  | create p kind on' what insert =>
    simp only [Site.step]
    split_ifs
    · rcases create_cases s p kind on' what insert with heq | ⟨t, -, heq | heq⟩
      · rw [heq]
        exact hbefore
      · rw [heq]
        exact hbefore
      · rw [heq, live_length]
        rw [live_length] at hbefore
        dsimp only [Site.store]
        rw [List.countP_cons_of_neg (by simp [Job.liveOn])]
        exact hbefore
    · exact hbefore
  | launch kind id result => exact live_launch hq hhand hbefore
  | finish kind id outcome =>
    rw [live_length] at hbefore ⊢
    refine (Nat.add_le_add_right (countP_move ?_) _).trans hbefore
    intro j _ _ _ _ hnext
    cases hph : j.phase <;> rw [hph] at hnext <;> cases hnext
  | raise kind id error running => exact (live_raise kind on id error running cluster).trans hbefore
  | record kind id now applied =>
    rw [live_length] at hbefore ⊢
    simp only [Site.step]
    have hmove := @countP_move s on cluster (kind, id) (fun _ => none) fun j _ _ _ _ hnext => by cases hnext
    rcases record_cases s kind id now applied with heq | heq | ⟨-, -, -, outcome, heq⟩
    · rw [heq]
      exact hbefore
    · rw [heq]
      exact (Nat.add_le_add_right hmove _).trans hbefore
    · rw [heq]
      exact (Nat.add_le_add_right hmove _).trans hbefore
  | exit id =>
    rw [live_length] at hbefore ⊢
    exact (Nat.add_le_add_left (List.filter_sublist.countP_le) _).trans hbefore
  | crash p leaves => exact (live_crash p leaves on cluster).trans hbefore

end Steps

/-! ## Runs -/

theorem run_inv_jobs {s : Site} {ls : List Label} (hs : JobInv s) (hone : OneLive s) (h : Meets Site.step Quiet s ls) :
    JobInv (run Site.step s ls) ∧ OneLive (run Site.step s ls) :=
  run_inv (fun s => JobInv s ∧ OneLive s) (fun _ _ hs hq => ⟨inv_step hs.1 hq, live_step hs.1 hs.2 hq⟩) h ⟨hs, hone⟩

/-- what has ended stays, along any quiet run -/
theorem run_kept {s : Site} {ls : List Label} (hs : JobInv s) (h : Meets Site.step Quiet s ls) :
    Kept s (run Site.step s ls) := by
  induction ls generalizing s with
  | nil => exact Kept.refl s
  | cons l ls ih => exact (step_kept hs).trans (ih (inv_step hs h.1) h.2)

/-- **One job at a time.** Whatever the database holds at first: in every run in which no process reconciles while another
has a job of that kind in hand, and no job starts on a cluster where a playbook goes on unwatched, at most one fleet playbook
and one benchmark are live per cluster at any time, and what has ended at any time stays as it is. -/
theorem one_job (tables : Kind → Table) (ls ls' : List Label)
    (h : Meets Site.step Quiet (Site.init tables) (ls ++ ls')) :
    OneLive (run Site.step (Site.init tables) ls) ∧
    Kept (run Site.step (Site.init tables) ls) (run Site.step (Site.init tables) (ls ++ ls')) := by
  rw [meets_append] at h
  have hnone : OneLive (Site.init tables) := fun _ _ => Nat.zero_le 1
  obtain ⟨hinv, hone⟩ := run_inv_jobs (inv_init tables) hnone h.1
  rw [run_append]
  exact ⟨hone, run_kept hinv h.2⟩

def Sample.start (process : ℕ) : List Label :=
  [.boot process, .reconcile process .fleet true, .reconcile process .benchmark true, .serve process]

def Sample.scaleOut (process id : ℕ) : List Label :=
  [.create process .fleet "prod-a" "scale_out" .answered, .launch .fleet id .thread]

def Sample.succeeded : Outcome := ⟨.succeeded, by decide, some 0, none⟩

/-- an exception ends the thread of the first playbook, and the second starts once that one has gone; the second process
starts when the first has no job in hand, and takes over after a crash -/
def Sample.handover : List Label :=
  start 0 ++ scaleOut 0 0 ++ [.raise .fleet 0 "invalid start byte" true, .record .fleet 0 60 true, .exit 0] ++
    start 1 ++ scaleOut 1 1

theorem Sample.handover_quiet :
    Meets Site.step Quiet (Site.init fun _ => .empty) (handover ++ ([.crash 1 false] ++ start 1)) := by
  decide +kernel

theorem one_job_handover :
    OneLive (run Site.step (Site.init fun _ => .empty) Sample.handover) ∧
    Kept (run Site.step (Site.init fun _ => .empty) Sample.handover)
      (run Site.step (Site.init fun _ => .empty) (Sample.handover ++ ([.crash 1 false] ++ Sample.start 1))) := by
  apply one_job
  exact Sample.handover_quiet

/-- the second process starts while the first one's playbook runs, and is asked for another -/
def Sample.overlap : List Label := start 0 ++ scaleOut 0 0 ++ start 1 ++ scaleOut 1 1

/-- **A start-up frees the index of a live job.** The second process takes the row for an orphan, so a second playbook
starts on the cluster; and the first one's outcome then overwrites UNKNOWN. -/
theorem second_job_live :
    ¬ OneLive (run Site.step (Site.init fun _ => .empty) Sample.overlap) ∧
    ¬ Kept (run Site.step (Site.init fun _ => .empty) Sample.overlap)
      (run Site.step (Site.init fun _ => .empty)
        (Sample.overlap ++ [.finish .fleet 0 Sample.succeeded, .record .fleet 0 60 true])) := by
  constructor
  · intro h
    have hlive := h .fleet "prod-a"
    revert hlive
    decide +kernel
  · intro h
    have hrow := h .fleet 0
      (Table.orphaned (Table.orphanMessage .fleet) (Table.newRow "prod-a" "scale_out")) (by decide +kernel) (by decide)
    revert hrow
    decide +kernel

-- one process is enough where an exception ends the thread and not the playbook
example : ¬ OneLive (run Site.step (Site.init fun _ => .empty) (Sample.start 0 ++ Sample.scaleOut 0 0 ++
    [.raise .fleet 0 "invalid start byte" true, .record .fleet 0 60 true] ++ Sample.scaleOut 0 1)) := by
  intro h
  have hlive := h .fleet "prod-a"
  revert hlive
  decide +kernel

end TrinoManagement.Jobs
