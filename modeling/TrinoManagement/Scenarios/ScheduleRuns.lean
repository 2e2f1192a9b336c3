/-
An accepted schedule when it fires: the start of each of its clusters against the validation of a manual start, with the set
and the clusters still there, the stores available and nothing else running.

A schedule may have up to fifty repetitions; a start has the configured ceiling, which is at most twenty. And the label of a
schedule is a text of any length, that of a run is not.
- `start_valid`, `start_over`, `start_unfit`: how a start ends within the ceiling, above it, and with a row that is too long.
- `scheduled_runs`: a fire starts every cluster, and refuses nothing but a cluster named twice, iff the repetitions are
  within the ceiling and the columns of the runs take what the schedule gives them.
- `thirty_repetitions_refused`: thirty are accepted, and refused at every fire.
-/
import Mathlib.Tactic
import TrinoManagement.Bench.Service

namespace TrinoManagement.Bench

open TrinoManagement.Audit TrinoManagement.Guard
open TrinoManagement.Prog (onOk)
open TrinoManagement.Service (Exn)
open TrinoManagement.Text (blank)

/-! ## Fair weather -/

/-- the stores are available, and the guard answers -/
def Fair (o : Oracle Weather) : Prop := o.writable = true ∧ o.inner.fault = .none ∧ ∃ v, o.inner.guard = .ok v

/-- something is running there -/
def Busy (w : BenchWorld) (cluster : String) : Prop := ∃ r ∈ w.runs, r.running = true ∧ r.cluster = cluster

section Weather

variable {lib : Lib} {cfg : BenchConfig} {principal : Principal} {b : Backend} {w : BenchWorld}

/-- what ends does not begin -/
theorem busy_settle {ended : List ℕ} {cluster : String} (h : Busy (w.settle ended) cluster) : Busy w cluster := by
  obtain ⟨r, hr, hrunning, hcluster⟩ := h
  obtain ⟨i, hi, rfl⟩ := List.mem_mapIdx.1 hr
  split_ifs at hrunning hcluster
  exact ⟨w.runs[i], List.getElem_mem hi, hrunning, hcluster⟩

theorem serve_fair {e : BenchAct} {o : Weather} (h : o.fault = .none) :
    serve b o e w = serveSettled b { o with fault := .none } e (w.settle o.ended) := by
  obtain ⟨ended, now, guard, fault⟩ := o
  subst h
  rfl

/-- the columns of `benchmark_run` take what a run of the cluster is given -/
def Columns (b : Backend) (cluster querySet actor : String) (label : Option String) : Prop :=
  b = .postgres → fitsVarchar 128 cluster = true ∧ fitsVarchar 64 querySet = true ∧ fitsVarchar 128 actor = true ∧
    ∀ l ∈ label, fitsVarchar 200 l = true

/-- the columns take what a run of the schedule is given -/
def Schedule.Columns (row : Schedule) (b : Backend) (cluster : String) : Prop :=
  Bench.Columns b cluster row.querySet row.createdBy row.label

theorem fits_iff {run : BenchRun} : run.fits = true ↔ fitsVarchar 128 run.cluster = true ∧ fitsVarchar 64 run.querySet = true ∧
    fitsVarchar 128 run.actor = true ∧ ∀ l ∈ run.label, fitsVarchar 200 l = true := by
  rw [BenchRun.fits, Bool.and_eq_true, Bool.and_eq_true, Bool.and_eq_true, Option.all_eq_true]
  tauto

/-- an empty label is none, and fits -/
theorem fits_filter {label : Option String} :
    (∀ l ∈ label.filter (· ≠ ""), fitsVarchar 200 l = true) ↔ ∀ l ∈ label, fitsVarchar 200 l = true := by
  cases label with
  | none => simp
  | some l =>
    by_cases hl : l = ""
    · subst hl
      simp [fitsVarchar]
    · simp [Option.filter, hl]

/-- a run is created unless the cluster is busy -/
theorem createRun_cases (run : BenchRun) (hreps : 1 ≤ run.repetitions ∧ run.repetitions ≤ 20)
    (hreason : reasonPresent run.reason = true) (hfits : b = .postgres → run.fits = true) :
    (∃ id, w.createRun b run = (.ok id, { w with runs := w.runs ++ [run] })) ∨
      w.createRun b run = (.error .activeRunExists, w) ∧ Busy w run.cluster := by
  have hnone : runRefusal run b = none := by
    cases b with
    | memory => rfl
    | postgres => simp [runRefusal, hfits rfl, hreps, hreason]
  unfold BenchWorld.createRun
  rw [if_neg (by rw [hnone]; decide)]
  split_ifs with hbusy
  · obtain ⟨r, hr, hbusy⟩ := List.any_eq_true.1 hbusy
    rw [Bool.and_eq_true, beq_iff_eq] at hbusy
    exact .inr ⟨rfl, r, hr, hbusy.1, hbusy.2⟩
  · exact .inl ⟨_, rfl⟩

/-! ## One start -/

/-- how a start ends that is within the ceiling -/
structure Started (w : BenchWorld) (cluster : String) (x : Except Exn BenchRun) (w' : BenchWorld) : Prop where
  sets : w'.sets = w.sets
  outcome : (∃ run, x = .ok run ∧ run.cluster = cluster) ∨
    x = .error (RunError.exn cluster .activeRunExists) ∧ Busy w cluster
  busy : ∀ c, Busy w' c → c = cluster ∨ Busy w c

/-- the set is found, in fair weather -/
theorem post_setOr404_fair {key : String} {Q : Except Exn QuerySet → BenchWorld → Prop}
    (hset : (b.get w.sets key).isSome = true)
    (hok : ∀ found ended, b.get w.sets key = some found → Q (.ok found) (w.settle ended)) :
    Post (serve b) Fair (setOr404 lib key) Q w := by
  obtain ⟨found, hfound⟩ := Option.isSome_iff_exists.1 hset
  refine post_bind (post_op ?_)
  intro o ho
  rw [serve_fair ho.2.1]
  change Post (serve b) Fair (lift SetError.audited (.ok (b.get w.sets key)) >>= _) Q (w.settle o.inner.ended)
  rw [hfound]
  change Post (serve b) Fair (pure found : BenchM QuerySet) Q (w.settle o.inner.ended)
  exact post_pure (hok found _ hfound)

variable {row : Schedule} {cluster : String}

/-- the checks a start makes before its repetitions -/
theorem post_before_repetitions {α : Type} {f : QuerySet → BenchM α} {Q : Except Exn α → BenchWorld → Prop}
    (hcan : principal.can manageHealth = true) (hcluster : cluster ∈ cfg.clusters) {key : String}
    (hset : (b.get w.sets key).isSome = true)
    (hf : ∀ found ended, Post (serve b) Fair (f found) Q (w.settle ended)) :
    Post (serve b) Fair (do
      requireAdmin principal adminMessage
      clusterOr404 cfg cluster
      f (← setOr404 lib key)) Q w := by
  refine post_bind (post_pass (if_pos hcan) ?_)
  refine post_bind (post_pass (if_pos hcluster) ?_)
  refine post_bind (post_setOr404_fair hset ?_)
  intro found ended _
  exact hf found ended

/-- **Within the ceiling** a start creates its run, unless one is going on its cluster. -/
theorem start_valid {reason : Option String} {repetitions : ℤ} {label : Option String} {key : String} {id : Option ℕ}
    (hcan : principal.can manageHealth = true) (hcluster : cluster ∈ cfg.clusters)
    (hset : (b.get w.sets key).isSome = true) (hreps : 1 ≤ repetitions ∧ repetitions ≤ cfg.maxRepetitions)
    (hreason : blank (reason.getD "") = false) (hfits : Columns b cluster key principal.username label) :
    Post (serve b) Fair (start lib cfg principal cluster key reason (.int repetitions) label id) (Started w cluster) w := by
  refine post_before_repetitions hcan hcluster hset ?_
  intro found ended
  have hn : startRepetitions cfg (.int repetitions) = .ok repetitions := by
    simp [startRepetitions, Value.toInt, hreps]
  rw [hn]
  refine post_bind (post_lift ?_ ?_)
  on_goal 2 =>
    intro e he
    cases he
  intro n hn'
  obtain rfl := Except.ok.inj hn'
  refine post_bind (post_op ?_)
  intro o ho
  obtain ⟨v, hv⟩ := ho.2.2
  refine post_bind (post_lift ?_ ?_)
  on_goal 2 =>
    intro e he
    change o.inner.guard = .error e at he
    rw [hv] at he
    cases he
  intro guard _
  refine post_audited ?_ ?_ ?_
  · intro hnone
    have hsome := normaliseReason_isSome (reason.getD "")
    rw [hnone, hreason] at hsome
    cases hsome
  · intro hdown
    obtain ⟨o', ho', hoff⟩ := hdown
    rw [ho'.1] at hoff
    cases hoff
  refine post_bind (post_op ?_)
  intro o' ho'
  rw [serve_fair ho'.2.1]
  set w' := ((w.settle ended).settle o.inner.ended).settle o'.inner.ended with hw'
  have hbusy : ∀ c, Busy w' c → Busy w c := fun c hc => busy_settle (busy_settle (busy_settle hc))
  set run : BenchRun := ⟨cluster, key, principal.username, principal.roles, reason.getD "", repetitions, guard,
    label.filter (· ≠ ""), found.queries, id, true⟩ with hrun
  change Post (serve b) Fair (do
    let id ← lift (RunError.exn cluster) (w'.createRun b run).1
    lift (.client "RuntimeError") (← op (.startRunner id))
    pure run) (Started w cluster) (w'.createRun b run).2
  have hrow : b = .postgres → run.fits = true := by
    intro hb
    obtain ⟨hcluster', hkey, hactor, hlabel⟩ := hfits hb
    exact fits_iff.2 ⟨hcluster', hkey, hactor, fits_filter.2 hlabel⟩
  rcases createRun_cases (b := b) (w := w') run ⟨hreps.1, hreps.2.trans cfg.sane.2⟩
    (reasonPresent_of_not_blank hreason) hrow with hcreated | hrefused
  · obtain ⟨i, hcreated⟩ := hcreated
    rw [hcreated]
    change Post (serve b) Fair (do
      lift (.client "RuntimeError") (← op (.startRunner i))
      pure run) (Started w cluster) { w' with runs := w'.runs ++ [run] }
    refine post_bind (post_bind (post_op ?_))
    intro o'' ho''
    rw [serve_fair ho''.2.1]
    refine post_pure (post_pure ⟨rfl, .inl ⟨run, rfl, rfl⟩, ?_⟩)
    intro c hc
    obtain ⟨r, hr, hrunning, hcluster'⟩ := busy_settle hc
    rcases List.mem_append.1 hr with hr | hr
    · exact .inr (hbusy c ⟨r, hr, hrunning, hcluster'⟩)
    · rw [List.mem_singleton.1 hr] at hcluster'
      exact .inl hcluster'.symm
  · obtain ⟨hrefused, hthere⟩ := hrefused
    rw [hrefused]
    exact post_throw ⟨rfl, .inr ⟨rfl, hbusy _ hthere⟩, fun c hc => .inr (hbusy c hc)⟩

/-- **Above the ceiling** it is refused before anything is written. -/
theorem start_over {reason : Option String} {repetitions : ℤ} {label : Option String} {key : String} {id : Option ℕ}
    (hcan : principal.can manageHealth = true) (hcluster : cluster ∈ cfg.clusters)
    (hset : (b.get w.sets key).isSome = true) (hreps : ¬(1 ≤ repetitions ∧ repetitions ≤ cfg.maxRepetitions)) :
    Post (serve b) Fair (start lib cfg principal cluster key reason (.int repetitions) label id)
      (fun x w' => w'.sets = w.sets ∧ ∃ m, x = .error (.invalidRequest m)) w := by
  refine post_before_repetitions hcan hcluster hset ?_
  intro found ended
  have hn : startRepetitions cfg (.int repetitions) =
      .error ("Repetitions must be between 1 and " ++ toString cfg.maxRepetitions ++ ".") := by
    simp only [startRepetitions, Value.toInt]
    rw [if_neg hreps]
  rw [hn]
  exact post_throw ⟨rfl, _, rfl⟩

theorem post_setOr404_any {key : String} {Q : Except Exn QuerySet → BenchWorld → Prop}
    (hok : ∀ found w', Q (.ok found) w') (herror : ∀ e w', Q (.error e) w') :
    Post (serve b) (fun _ => True) (setOr404 lib key) Q w := by
  refine post_bind (post_op ?_)
  intro o _
  refine post_bind (post_lift ?_ ?_)
  · intro found _
    cases found with
    | none => exact post_throw (herror _ _)
    | some found => exact post_pure (hok _ _)
  · intro e _
    exact herror _ _

/-- a run that was returned fits -/
def Fitted (b : Backend) (cluster querySet actor : String) (label : Option String) (x : Except Exn BenchRun) (_ : BenchWorld) :
    Prop := ∀ run, x = .ok run → run.cluster = cluster ∧ Columns b cluster querySet actor label

theorem fitted_error {key actor : String} {label : Option String} (e : Exn) (w : BenchWorld) :
    Fitted b cluster key actor label (.error e) w := by
  intro run hrun
  cases hrun

theorem served_fits {run : BenchRun} {o : Weather} {id : ℕ} (h : (serve b o (.createRun run) w).1 = .ok id)
    (hb : b = .postgres) : run.fits = true := by
  subst hb
  have hcreated : ((w.settle o.ended).createRun .postgres run).1 = .ok id := strike_ok h
  unfold BenchWorld.createRun at hcreated
  split_ifs at hcreated with hrefused
  by_contra hfits
  apply hrefused
  rw [runRefusal, if_pos (Bool.eq_false_of_not_eq_true hfits)]
  rfl

/-- **A row that is too long** is no run, whatever the weather. -/
theorem start_unfit {reason : Option String} {repetitions : Value} {label : Option String} {key : String} {id : Option ℕ} :
    Post (serve b) (fun _ => True) (start lib cfg principal cluster key reason repetitions label id)
      (Fitted b cluster key principal.username label) w := by
  refine post_bind (post_refuse (fun _ => ?_) fun e _ => fitted_error e w)
  refine post_bind (post_refuse (fun _ => ?_) fun e _ => fitted_error e w)
  refine post_bind (post_setOr404_any ?_ fun e w' => fitted_error e w')
  intro found w'
  refine post_bind (post_lift ?_ fun e _ => fitted_error _ w')
  intro n _
  refine post_bind (post_op ?_)
  intro o _
  refine post_bind (post_lift ?_ fun e _ => fitted_error _ (serve b o.inner (.guard cluster) w').2)
  intro guard _
  refine post_audited (fun _ => fitted_error _ _) (fun _ => fitted_error _ _) (post_bind (post_op ?_))
  intro o' _
  refine post_bind (post_lift ?_ fun e _ => fitted_error _ w')
  intro i hi
  refine post_bind (post_op ?_)
  intro o'' _
  refine post_bind (post_lift ?_ fun e _ => fitted_error _ w')
  intro _ _
  refine post_pure ?_
  intro run hrun
  obtain rfl := Except.ok.inj hrun
  refine ⟨rfl, fun hb => ?_⟩
  obtain ⟨hcluster, hkey, hactor, hlabel⟩ := fits_iff.1 (served_fits hi hb)
  exact ⟨hcluster, hkey, hactor, fits_filter.1 hlabel⟩

/-! ## One turn -/

/-- a schedule starts as an administrator -/
theorem scheduled_can (row : Schedule) : (⟨row.createdBy, ["admin"]⟩ : Principal).can manageHealth = true := by
  change ["admin"].any (fun role => manageHealth ∈ roleCapabilities role) = true
  decide

/-- what a schedule needs to start its clusters -/
structure Ready (b : Backend) (cfg : BenchConfig) (row : Schedule) (clusters : List String) (w : BenchWorld) : Prop where
  present : (b.get w.sets row.querySet).isSome = true
  known : ∀ c ∈ clusters, c ∈ cfg.clusters
  reason : blank row.reason = false

theorem Ready.next {clusters : List String} {w' : BenchWorld} (h : Ready b cfg row (cluster :: clusters) w)
    (hsets : w'.sets = w.sets) : Ready b cfg row clusters w' :=
  ⟨hsets ▸ h.present, fun c hc => h.known c (List.mem_cons_of_mem _ hc), h.reason⟩

/-- how the turn of one cluster ends, within the ceiling -/
structure TurnTaken (w : BenchWorld) (cluster : String) (x : Except Exn (Except NotStarted String)) (w' : BenchWorld) :
    Prop where
  sets : w'.sets = w.sets
  outcome : x = .ok (.ok cluster) ∨ (∃ m, x = .ok (.error ⟨cluster, m, true⟩)) ∧ Busy w cluster
  busy : ∀ c, Busy w' c → c = cluster ∨ Busy w c

theorem startScheduled_valid {clusters : List String} (h : Ready b cfg row (cluster :: clusters) w)
    (hreps : row.repetitions ≤ cfg.maxRepetitions) (hfits : row.Columns b cluster) :
    Post (serve b) Fair (startScheduled lib cfg row cluster) (TurnTaken w cluster) w := by
  have hstart : Post (serve b) Fair (start lib cfg ⟨row.createdBy, ["admin"]⟩ cluster row.querySet (some row.reason)
      (.int row.repetitions) row.label (some row.id)) (Started w cluster) w :=
    start_valid (scheduled_can row) (h.known cluster List.mem_cons_self) h.present ⟨row.repetitions_sane.1, hreps⟩ h.reason
      hfits
  refine post_tryCatch (post_bind (post_mono hstart ?_))
  intro x w' hx
  obtain ⟨hsets, hrun | hbusy, hother⟩ := hx
  · obtain ⟨run, rfl, hcluster⟩ := hrun
    intro _
    exact ⟨hsets, .inl (by rw [hcluster]), hother⟩
  · obtain ⟨rfl, hthere⟩ := hbusy
    exact post_pure ⟨hsets, .inr ⟨⟨_, rfl⟩, hthere⟩, hother⟩

theorem startScheduled_over {clusters : List String} (h : Ready b cfg row (cluster :: clusters) w)
    (hreps : cfg.maxRepetitions < row.repetitions) :
    Post (serve b) Fair (startScheduled lib cfg row cluster)
      (fun x w' => w'.sets = w.sets ∧ ∃ m, x = .ok (.error ⟨cluster, m, false⟩)) w := by
  have hstart : Post (serve b) Fair (start lib cfg ⟨row.createdBy, ["admin"]⟩ cluster row.querySet (some row.reason)
      (.int row.repetitions) row.label (some row.id))
      (fun x w' => w'.sets = w.sets ∧ ∃ m, x = .error (.invalidRequest m)) w :=
    start_over (scheduled_can row) (h.known cluster List.mem_cons_self) h.present
      (fun hboth => absurd hboth.2 (not_le.2 hreps))
  refine post_tryCatch (post_bind (post_mono hstart ?_))
  intro x w' hx
  obtain ⟨hsets, m, rfl⟩ := hx
  intro _
  exact ⟨hsets, m, rfl⟩

/-- the clusters that were not busy are started, and the others are skipped -/
structure AllTaken (busy : String → Prop) (clusters : List String) (w : BenchWorld)
    (x : Except Exn (List String × List NotStarted)) (w' : BenchWorld) : Prop where
  sets : w'.sets = w.sets
  outcome : ∃ started refused, x = .ok (started, refused) ∧ (∀ c ∈ clusters, ¬busy c → c ∈ started) ∧
    ∀ n ∈ refused, n.skipped = true

theorem startAll_valid {clusters : List String} (busy : String → Prop) (h : Ready b cfg row clusters w)
    (hreps : row.repetitions ≤ cfg.maxRepetitions) (hfits : ∀ c ∈ clusters, row.Columns b c)
    (hbusy : ∀ c, Busy w c → busy c) :
    Post (serve b) Fair (startAll lib cfg row clusters) (AllTaken busy clusters w) w := by
  induction clusters generalizing w busy with
  | nil => exact post_pure ⟨rfl, [], [], rfl, by simp, by simp⟩
  | cons cluster clusters ih =>
    refine post_bind (post_mono (startScheduled_valid h hreps (hfits cluster List.mem_cons_self)) ?_)
    intro x w' hx
    obtain ⟨hsets, houtcome, hother⟩ := hx
    -- from here on this cluster may be busy too
    have hbusy' : ∀ c, Busy w' c → c = cluster ∨ busy c := by
      intro c hc
      exact (hother c hc).imp id (hbusy c)
    have hrest : Post (serve b) Fair (startAll lib cfg row clusters) (AllTaken (fun c => c = cluster ∨ busy c) clusters w') w' :=
      ih (fun c => c = cluster ∨ busy c) (h.next hsets) (fun c hc => hfits c (List.mem_cons_of_mem _ hc)) hbusy'
    rcases houtcome with rfl | hskipped
    · refine post_bind (post_mono hrest ?_)
      intro y w'' hy
      obtain ⟨hsets', started, refused, rfl, hstarted, hrefused⟩ := hy
      refine post_pure ⟨hsets'.trans hsets, _, _, rfl, ?_, hrefused⟩
      intro c hc hfree
      rcases List.mem_cons.1 hc with rfl | hc
      · exact List.mem_cons_self
      · by_cases hcluster : c = cluster
        · exact hcluster ▸ List.mem_cons_self
        · exact List.mem_cons_of_mem _ (hstarted c hc (not_or.2 ⟨hcluster, hfree⟩))
    · obtain ⟨⟨m, rfl⟩, hthere⟩ := hskipped
      refine post_bind (post_mono hrest ?_)
      intro y w'' hy
      obtain ⟨hsets', started, refused, rfl, hstarted, hrefused⟩ := hy
      refine post_pure ⟨hsets'.trans hsets, _, _, rfl, ?_, ?_⟩
      · intro c hc hfree
        have hcluster : c ≠ cluster := fun heq => hfree (heq ▸ hbusy cluster hthere)
        rcases List.mem_cons.1 hc with heq | hc
        · exact absurd heq hcluster
        · exact hstarted c hc (not_or.2 ⟨hcluster, hfree⟩)
      · intro n hn
        rcases List.mem_cons.1 hn with rfl | hn
        · rfl
        · exact hrefused n hn

/-- nothing is started, and every cluster is a failure -/
structure AllRefused (clusters : List String) (w : BenchWorld) (x : Except Exn (List String × List NotStarted))
    (w' : BenchWorld) : Prop where
  sets : w'.sets = w.sets
  outcome : ∃ refused, x = .ok ([], refused) ∧ refused.map NotStarted.cluster = clusters ∧
    ∀ n ∈ refused, n.skipped = false

theorem startAll_over {clusters : List String} (h : Ready b cfg row clusters w)
    (hreps : cfg.maxRepetitions < row.repetitions) :
    Post (serve b) Fair (startAll lib cfg row clusters) (AllRefused clusters w) w := by
  induction clusters generalizing w with
  | nil => exact post_pure ⟨rfl, [], rfl, rfl, by simp⟩
  | cons cluster clusters ih =>
    refine post_bind (post_mono (startScheduled_over h hreps) ?_)
    intro x w' hx
    obtain ⟨hsets, m, rfl⟩ := hx
    refine post_bind (post_mono (ih (h.next hsets)) ?_)
    intro y w'' hy
    obtain ⟨hsets', refused, rfl, hclusters, hrefused⟩ := hy
    refine post_pure ⟨hsets'.trans hsets, _, rfl, by rw [List.map_cons, hclusters], ?_⟩
    intro n hn
    rcases List.mem_cons.1 hn with rfl | hn
    · rfl
    · exact hrefused n hn

theorem startScheduled_fits : Post (serve b) (fun _ => True) (startScheduled lib cfg row cluster)
    (fun x _ => ∀ c, x = .ok (.ok c) → c = cluster ∧ row.Columns b cluster) w := by
  refine post_tryCatch (post_bind (post_mono start_unfit ?_))
  intro x w' hx
  cases x with
  | error e =>
    intro _ c hc
    cases hc
  | ok run =>
    obtain ⟨hcluster, hfits⟩ := hx run rfl
    intro _ c hc
    cases hc
    exact ⟨hcluster, hfits⟩

/-- whatever was started fits -/
def AllFit (b : Backend) (row : Schedule) (x : Except Exn (List String × List NotStarted)) (_ : BenchWorld) : Prop :=
  ∀ result, x = .ok result → ∀ c ∈ result.1, row.Columns b c

theorem startAll_fits {clusters : List String} :
    Post (serve b) (fun _ => True) (startAll lib cfg row clusters) (AllFit b row) w := by
  induction clusters generalizing w with
  | nil =>
    refine post_pure ?_
    intro result hresult c hc
    obtain rfl := Except.ok.inj hresult
    cases hc
  | cons cluster clusters ih =>
    refine post_bind (post_mono startScheduled_fits ?_)
    intro x w' hx
    cases x with
    | error e =>
      intro result hresult
      cases hresult
    | ok x =>
      refine post_bind (post_mono ih ?_)
      intro y w'' hy
      cases y with
      | error e =>
        intro result hresult
        cases hresult
      | ok others =>
        cases x with
        | error refused =>
          refine post_pure ?_
          intro result hresult
          obtain rfl := Except.ok.inj hresult
          exact hy others rfl
        | ok started =>
          refine post_pure ?_
          intro result hresult c hc
          obtain rfl := Except.ok.inj hresult
          obtain ⟨rfl, hfits⟩ := hx started rfl
          rcases List.mem_cons.1 hc with rfl | hc
          · exact hfits
          · exact hy others rfl c hc

/-! ## What is accepted -/

/-- what `create_schedule` makes sure of -/
structure AcceptedRow (cfg : BenchConfig) (row : Schedule) : Prop where
  some_cluster : row.clusters ≠ []
  known : ∀ c ∈ row.clusters, c ∈ cfg.clusters
  reason : blank row.reason = false

/-- if a row is created, it is one to accept -/
def Accepts (cfg : BenchConfig) (x : Except Exn Schedule) (_ : BenchWorld) : Prop := ∀ row, x = .ok row → AcceptedRow cfg row

theorem accepts_error (e : Exn) (w : BenchWorld) : Accepts cfg (.error e) w := by
  intro row hrow
  cases hrow

theorem row_fields {new : NewSchedule} {id : ℕ} (h : new.row id = some row) :
    row.clusters = new.fields.clusters ∧ row.reason = new.fields.reason := by
  unfold NewSchedule.row at h
  split_ifs at h
  obtain rfl := Option.some.inj h
  exact ⟨rfl, rfl⟩

theorem served_row {new : NewSchedule} {o : Weather} (h : (serve b o (.createSchedule new) w).1 = .ok row) :
    ∃ id, new.row id = some row := by
  have hserved : ((w.settle o.ended).createSchedule b new).1 = .ok row := strike_ok h
  unfold BenchWorld.createSchedule at hserved
  split_ifs at hserved
  split at hserved
  · rename_i row' hrow'
    obtain rfl := Except.ok.inj hserved
    exact ⟨_, hrow'⟩
  · cases hserved

theorem post_clustersOr404 {clusters : List String} {Q : Except Exn Unit → BenchWorld → Prop}
    (hok : (∀ c ∈ clusters, c ∈ cfg.clusters) → Q (.ok ()) w) (herror : ∀ e, Q (.error e) w) :
    Post (serve b) (fun _ => True) (clustersOr404 cfg clusters) Q w := by
  induction clusters with
  | nil => exact post_pure (hok (by simp))
  | cons cluster clusters ih =>
    refine post_bind (post_refuse ?_ ?_)
    · intro hnone
      split_ifs at hnone with hcluster
      refine ih ?_
      intro hrest
      exact hok (List.forall_mem_cons.2 ⟨hcluster, hrest⟩)
    · intro e _
      exact herror e

/-- **What is accepted** names known clusters, at least one, and a reason. -/
theorem createSchedule_accepts {name querySet : String} {clusters : List String} {intervalMinutes repetitions : Value}
    {reason label : Option String} {startsAt : Option ℤ} :
    Post (serve b) (fun _ => True)
      (createSchedule lib cfg principal name querySet clusters intervalMinutes reason repetitions label startsAt)
      (Accepts cfg) w := by
  refine post_bind (post_refuse ?_ fun e _ => accepts_error e w)
  intro _
  refine post_bind (post_lift ?_ fun e _ => accepts_error _ w)
  intro fields hfields
  obtain ⟨-, -, hreason, hsome, -⟩ := validate_sane hfields
  refine post_bind (post_setOr404_any ?_ fun e w' => accepts_error e w')
  intro _ w'
  refine post_bind (post_clustersOr404 ?_ fun e => accepts_error e w')
  intro hknown
  refine post_bind (post_op ?_)
  intro o _
  refine post_audited (fun _ => accepts_error _ _) (fun _ => accepts_error _ _) (post_bind (post_op ?_))
  intro o' _
  refine post_lift ?_ (fun e _ => accepts_error _ _)
  intro row hrow row' heq
  obtain rfl := Except.ok.inj heq
  obtain ⟨id, hid⟩ := served_row hrow
  obtain ⟨hclusters, hreason'⟩ := row_fields hid
  exact ⟨hclusters ▸ hsome, hclusters ▸ hknown, hreason' ▸ hreason⟩

/-! ## When it fires -/

/-- a fire that passes: every cluster is started, nothing is refused but what is already running, and the row says so -/
structure Passes (row : Schedule) (x : Except Exn Fired) (w : BenchWorld) : Prop where
  started : ∃ fired, x = .ok fired ∧ (∀ c ∈ row.clusters, c ∈ fired.started) ∧ ∀ n ∈ fired.refused, n.skipped = true
  recorded : ∀ r ∈ w.schedules, r.id = row.id → r.lastOutcome = some "started"

/-- the row after the outcome of a fire is written -/
theorem recorded_outcome {outcome : FireOutcome} {o : Weather} (hfault : o.fault = .none) :
    ∀ r ∈ (serve b o (.updateSchedule row.id outcome) w).2.schedules, r.id = row.id →
      r.lastOutcome = some outcome.lastOutcome := by
  rw [serve_fair hfault]
  intro r hr hid
  obtain ⟨r', -, rfl⟩ := List.mem_map.1 hr
  split_ifs at hid ⊢ with heq
  · rfl
  · exact absurd hid heq

theorem fire_valid (h : Ready b cfg row row.clusters w) (hsome : row.clusters ≠ []) (hidle : ∀ c, ¬Busy w c)
    (hreps : row.repetitions ≤ cfg.maxRepetitions) (hfits : ∀ c ∈ row.clusters, row.Columns b c) :
    Post (serve b) Fair (fire lib cfg row) (Passes row) w := by
  refine post_bind (post_mono (startAll_valid (fun _ => False) h hreps hfits hidle) ?_)
  intro x w' hx
  obtain ⟨-, started, refused, rfl, hstarted, hrefused⟩ := hx
  refine post_bind (post_op ?_)
  intro o _
  refine post_bind (post_op ?_)
  intro o' ho'
  have hall : ∀ c ∈ row.clusters, c ∈ started := fun c hc => hstarted c hc id
  obtain ⟨c, hc⟩ := List.exists_mem_of_ne_nil _ hsome
  refine post_pure ⟨⟨_, rfl, hall, hrefused⟩, ?_⟩
  intro r hr hid
  rw [recorded_outcome ho'.2.1 r hr hid, outcomeOf, if_pos (List.ne_nil_of_mem (hall c hc))]

def NotPassed (row : Schedule) (x : Except Exn Fired) (w : BenchWorld) : Prop := ¬Passes row x w

/-- above the ceiling no fire passes -/
theorem fire_over (h : Ready b cfg row row.clusters w) (hsome : row.clusters ≠ [])
    (hreps : cfg.maxRepetitions < row.repetitions) :
    Post (serve b) Fair (fire lib cfg row) (NotPassed row) w := by
  refine post_bind (post_mono (startAll_over h hreps) ?_)
  intro x w' hx
  obtain ⟨-, refused, rfl, hclusters, hrefused⟩ := hx
  refine post_bind (post_op ?_)
  intro o _
  refine post_bind (post_op ?_)
  intro o' _
  refine post_pure ?_
  intro hpasses
  obtain ⟨c, hc⟩ := List.exists_mem_of_ne_nil _ hsome
  obtain ⟨⟨fired, heq, hstarted, -⟩, -⟩ := hpasses
  obtain rfl := Except.ok.inj heq
  exact absurd (hstarted c hc) List.not_mem_nil

/-- no fire passes that has a run too long for its row -/
theorem fire_unfit {c : String} (hc : c ∈ row.clusters) (hlong : ¬row.Columns b c) :
    Post (serve b) (fun _ => True) (fire lib cfg row) (NotPassed row) w := by
  refine post_bind (post_mono startAll_fits ?_)
  intro x w' hx
  cases x with
  | error e =>
    intro hpasses
    obtain ⟨⟨fired, heq, -, -⟩, -⟩ := hpasses
    cases heq
  | ok result =>
    refine post_bind (post_op ?_)
    intro o _
    refine post_bind (post_op ?_)
    intro o' _
    refine post_pure ?_
    intro hpasses
    obtain ⟨⟨fired, heq, hstarted, -⟩, -⟩ := hpasses
    obtain rfl := Except.ok.inj heq
    exact hlong (hx result rfl c (hstarted c hc))

end Weather

/-! ## From the request to the fire -/

/-- what a start reads of a row, which claims and fires leave alone -/
structure SameStart (row row' : Schedule) : Prop where
  clusters : row'.clusters = row.clusters
  querySet : row'.querySet = row.querySet
  repetitions : row'.repetitions = row.repetitions
  reason : row'.reason = row.reason
  label : row'.label = row.label
  createdBy : row'.createdBy = row.createdBy

/-- **An accepted schedule runs iff its repetitions are within the ceiling, and its runs fit their columns.** -/
theorem scheduled_runs {lib : Lib} {cfg : BenchConfig} {b : Backend} {principal : Principal} {name querySet : String}
    {clusters : List String} {intervalMinutes repetitions : Value} {reason label : Option String} {startsAt : Option ℤ}
    {os os' : List (Oracle Weather)} {site site' : Site BenchWorld} {row row' : Schedule}
    (haccepted : (Prog.run (handle (serve b)) os (createSchedule lib cfg principal name querySet clusters intervalMinutes
      reason repetitions label startsAt) site).1 = .ok row)
    (hsame : SameStart row row') (hfair : ∀ o ∈ os', Fair o)
    (hset : (b.get site'.service.sets row'.querySet).isSome = true) (hidle : ∀ r ∈ site'.service.runs, r.running = false) :
    Passes row' (Prog.run (handle (serve b)) os' (fire lib cfg row') site').1
        (Prog.run (handle (serve b)) os' (fire lib cfg row') site').2.service ↔
      row.repetitions ≤ cfg.maxRepetitions ∧ ∀ c ∈ row.clusters, row.Columns b c := by
  have hdefault : Fair default := ⟨rfl, rfl, _, rfl⟩
  obtain ⟨hclusters, hquery, hreps, hreason, hlabel, hcreator⟩ := hsame
  obtain ⟨hsome, hknown, hgiven⟩ :=
    post_run (A := fun _ => True) trivial (fun _ _ => trivial) createSchedule_accepts row haccepted
  rw [← hclusters] at hsome hknown
  rw [← hreason] at hgiven
  have hready : Ready b cfg row' row'.clusters site'.service := ⟨hset, hknown, hgiven⟩
  have hnone : ∀ c, ¬Busy site'.service c := by
    intro c hbusy
    obtain ⟨r, hr, hrunning, -⟩ := hbusy
    rw [hidle r hr] at hrunning
    cases hrunning
  have hcolumns : ∀ c, row'.Columns b c ↔ row.Columns b c := by
    intro c
    unfold Schedule.Columns
    rw [hquery, hcreator, hlabel]
  rw [← hreps, ← hclusters]
  constructor
  · intro hpasses
    constructor
    · by_contra hover
      exact post_run hdefault hfair (fire_over hready hsome (not_le.1 hover)) hpasses
    · intro c hc
      by_contra hlong
      exact post_run (A := fun _ => True) trivial (fun _ _ => trivial)
        (fire_unfit hc fun hfits => hlong ((hcolumns c).1 hfits)) hpasses
  · rintro ⟨hwithin, hfits⟩
    exact post_run hdefault hfair (fire_valid hready hsome hnone hwithin fun c hc => (hcolumns c).2 (hfits c hc))

/-! ## Thirty repetitions -/

/-- one cluster, and the default ceiling -/
def oneCluster : BenchConfig := ⟨["c1"], 20, by decide⟩

def asciiLib : Lib := ⟨id, fun _ => []⟩

def scheduler : Principal := ⟨"ops", ["admin"]⟩

def oneSet : Site BenchWorld := ⟨⟨[("s", ⟨"", "", []⟩)], [], []⟩, []⟩

/-- a nightly run with so many repetitions -/
def nightly (repetitions : ℤ) : BenchM Schedule :=
  createSchedule asciiLib oneCluster scheduler "nightly" "s" ["c1"] (.int 1440) (some "capacity") (.int repetitions) none none

def nightlyRow (repetitions : ℤ) (h : 1 ≤ repetitions ∧ repetitions ≤ 50) : Schedule :=
  ⟨0, "nightly", "s", ["c1"], repetitions, none, "capacity", 1440, 0, true, none, 0, none, none, "ops", by decide, h, by decide⟩

theorem nightly_accepted (b : Backend) :
    (Prog.run (handle (serve b)) [] (nightly 3) oneSet).1 = .ok (nightlyRow 3 (by decide)) := by
  cases b <;> decide +kernel

theorem thirty_accepted :
    (Prog.run (handle (serve .postgres)) [] (nightly 30) oneSet).1 = .ok (nightlyRow 30 (by decide)) := by
  decide +kernel

theorem nightly_columns : ∀ c ∈ (nightlyRow 3 (by decide)).clusters, (nightlyRow 3 (by decide)).Columns .postgres c := by
  intro c hc
  obtain rfl := List.mem_singleton.1 hc
  intro _
  exact ⟨by decide, by decide, by decide, fun l hl => by cases hl⟩

theorem scheduled_runs_nightly :
    Passes (nightlyRow 3 (by decide))
      (Prog.run (handle (serve .postgres)) [] (fire asciiLib oneCluster (nightlyRow 3 (by decide))) oneSet).1
      (Prog.run (handle (serve .postgres)) [] (fire asciiLib oneCluster (nightlyRow 3 (by decide))) oneSet).2.service :=
  (scheduled_runs (nightly_accepted .postgres) ⟨rfl, rfl, rfl, rfl, rfl, rfl⟩ (List.forall_mem_nil _) (by decide +kernel)
    (List.forall_mem_nil _)).2 ⟨by decide, nightly_columns⟩

/-- **Thirty repetitions** are accepted, and the fire records their refusal. -/
theorem thirty_repetitions_refused :
    (Prog.run (handle (serve .postgres)) [] (nightly 30) oneSet).1 = .ok (nightlyRow 30 (by decide)) ∧
      (Prog.run (handle (serve .postgres)) [] (fire asciiLib oneCluster (nightlyRow 30 (by decide))) oneSet).1 =
        .ok ⟨"nightly", [], [⟨"c1", "Repetitions must be between 1 and 20.", false⟩]⟩ :=
  ⟨thirty_accepted, by decide +kernel⟩

end TrinoManagement.Bench
