/-
Playbook output in the record of a restart, while the playbook thread writes and any number of people watch.

A refresh counts the output lines of the copy it loaded, asks the executor for the lines beyond them, asks how the
playbook stands, and saves. Nothing ties these four together.

- `watchers`: refreshes of one sequence as threads, the playbook thread outside. `Tape`: what one refresh has read.
Every statement of a save goes through here: a save is one step, all of it. `SaveAtomic` has the saves that break off.

- `output_recorded`: over every interleaving in which no save brings lines while others were stored since it loaded, and
  no line comes between the lines read and a success, what is stored reads back as a prefix of the executor's lines, and
  as all of them once the sequence has moved on.
- `output_not_recorded`: two watchers store one line twice; a playbook that ends between the two readings leaves its
  last line out for good.
-/
import Mathlib.Tactic
import TrinoManagement.Core.Pool
import TrinoManagement.Ops.Conforms
import TrinoManagement.Ops.Executor
import TrinoManagement.Ops.History
import TrinoManagement.Ops.Serving
import TrinoManagement.Scenarios.Evidence

namespace TrinoManagement.Service

open TrinoManagement.Collector TrinoManagement.Repository TrinoManagement.Sequence
open TrinoManagement.Prog
open TrinoManagement.Run (Meets run)

/-! ## What a refresh has read -/

/-- the readings of one refresh, from its load to its save -/
structure Tape where
  loaded : Option StoredSequence
  /-- the clock, oldest reading first -/
  stamps : List ℚ
  lines : Option (List String)
  /-- the first state read after the lines -/
  status : Option ExecState

/-- nothing read -/
def Tape.blank : Tape := ⟨none, [], none, none⟩

def Tape.after (g : Tape) : (e : Act) → e.Answer → Tape
  | .load _, .ok (some stored) => { Tape.blank with loaded := some stored }
  | .load _, _ => .blank
  | .now, t => { g with stamps := g.stamps ++ [t] }
  | .linesSince .., ls => { g with lines := some ls }
  | .execStatus .., status => if g.lines.isSome ∧ g.status = none then { g with status := some status } else g
  | .save .., _ => .blank
  | _, _ => g

/-- the object in hand is the one loaded with lines logged since, one reading of the clock a line; those of the playbook
are `out` -/
structure Extends (out : List String) (stamps : List ℚ) (loaded stored : StoredSequence) : Prop where
  id : stored.id = loaded.id
  persisted : stored.persistedEvents = loaded.persistedEvents
  news : ∃ news, stored.sequence.history = loaded.sequence.history ++ news ∧ outputLines news = out ∧
    ((outputEvents news).map (·.at_)).Sublist stamps

/-- the states a refresh saves: the one loaded, or VERIFYING once it has read the lines and then a success -/
def Tape.Reaches (g : Tape) (st st' : State) : Prop :=
  st' = st ∨ st = .draining ∨ (st = .restarting ∧ st' = .verifying ∧ g.lines.isSome ∧ g.status = some .succeeded)

/-- what a refresh of `id` may do -/
def Tape.Permits (id : ℕ) (g : Tape) : Act → Prop
  | .load i => i = id
  | .linesSince i shown => g.lines = none ∧ g.status = none ∧
      ∃ loaded ∈ g.loaded, i = loaded.id ∧ shown = outputs loaded.sequence.history
  | .execStatus _ i => ∀ loaded ∈ g.loaded, i = loaded.id
  | .save stored _ => ∃ loaded ∈ g.loaded, Extends (g.lines.getD []) g.stamps loaded stored ∧
      g.Reaches loaded.sequence.state stored.sequence.state
  | .insert .. | .setActive .. | .execStart .. => False
  | _ => True

def recording (id : ℕ) : Protocol Act Act.Answer Tape := ⟨Tape.Permits id, Tape.after⟩

/-! ## Every refresh keeps to it -/

section Walk

variable {id : ℕ} {g : Tape} {loaded stored : StoredSequence} {α β : Type}

/-- the program keeps to the protocol; if it returns, it ends as `K` says -/
abbrev Records (id : ℕ) {α : Type} (p : M α) (K : α → Tape → Prop) (g : Tape) : Prop :=
  Yields (protocol (recording id)) (fun _ => True) p K g

theorem records_bind {p : M α} {f : α → M β} {K : β → Tape → Prop} :
    Records id (p >>= f) K g ↔ Records id p (fun a g' => Records id (f a) K g') g := yields_bind

/-- an effect: it is permitted, and the rest follows whatever the answer -/
theorem records_act {e : Act} {f : e.Answer → M β} {K : β → Tape → Prop} (hp : g.Permits id e)
    (hf : ∀ r, Records id (f r) K (g.after e r)) : Records id (perform e >>= f) K g :=
  records_bind.2 ⟨hp, hf⟩

theorem records_lift {r : Except Exn α} {f : α → M β} {K : β → Tape → Prop}
    (hf : ∀ a, r = .ok a → Records id (f a) K g) : Records id (lift r >>= f) K g := by
  rcases r with e | a
  · exact trivial
  · exact hf a rfl

/-- the clock is read before every method -/
theorem records_invoke {method : RestartSequence → ℚ → Outcome} {K : StoredSequence → Tape → Prop}
    (h : ∀ t sq, method stored.sequence t = (sq, .ok ()) →
      K { stored with sequence := sq } { g with stamps := g.stamps ++ [t] }) :
    Records id (invoke stored method) K g := by
  rw [invoke, records_bind, attempt]
  refine records_act trivial ?_
  intro t
  rcases hm : method stored.sequence t with ⟨sq, _ | ⟨⟩⟩
  · trivial
  · exact h t sq hm

variable {out : List String} {stamps : List ℚ}

theorem Extends.refl (loaded : StoredSequence) : Extends [] [] loaded loaded :=
  ⟨rfl, rfl, [], (List.append_nil _).symm, rfl, List.Sublist.refl _⟩

theorem Extends.counts (h : Extends out stamps loaded stored) :
    outputs stored.sequence.history = outputs loaded.sequence.history + out.length := by
  obtain ⟨news, hhist, hout, -⟩ := h.news
  rw [hhist, outputs_append, ← hout, length_outputLines]

/-- a method that logs nothing of the playbook -/
theorem Extends.note (h : Extends out stamps loaded stored) {sq : RestartSequence} {news : List Entry} (t : ℚ)
    (hsq : sq.history = stored.sequence.history ++ news) (hnews : outputs news = 0) :
    Extends out (stamps ++ [t]) loaded { stored with sequence := sq } := by
  obtain ⟨before, hbefore, hout, hstamps⟩ := h.news
  refine ⟨h.id, h.persisted, before ++ news, ?_, ?_, ?_⟩
  · change sq.history = _
    rw [hsq, hbefore, List.append_assoc]
  · rw [outputLines_append, hout, outputLines_eq_nil hnews, List.append_nil]
  · rw [outputEvents_append, outputEvents_eq_nil hnews, List.append_nil]
    exact hstamps.trans (List.sublist_append_left _ _)

/-- one line of the playbook -/
theorem Extends.line (h : Extends out stamps loaded stored) (t : ℚ) (line : String) {sq : RestartSequence}
    (hsq : sq.history = stored.sequence.history ++ [⟨t, stored.sequence.state, levelOutput, line⟩]) :
    Extends (out ++ [line]) (stamps ++ [t]) loaded { stored with sequence := sq } := by
  obtain ⟨before, hbefore, hout, hstamps⟩ := h.news
  refine ⟨h.id, h.persisted, before ++ [⟨t, stored.sequence.state, levelOutput, line⟩], ?_, ?_, ?_⟩
  · change sq.history = _
    rw [hsq, hbefore, List.append_assoc]
  · rw [outputLines_append, hout]
    rfl
  · rw [outputEvents_append, List.map_append]
    exact hstamps.append (List.Sublist.refl _)

/-- one line a reading, in the order of the lines -/
theorem records_recordLines {lines : List String} {K : StoredSequence → Tape → Prop}
    (h : Extends out g.stamps loaded stored)
    (hK : ∀ stored' stamps, Extends (out ++ lines) stamps loaded stored' →
      stored'.sequence.state = stored.sequence.state → K stored' { g with stamps := stamps }) :
    Records id (recordLines stored lines) K g := by
  induction lines generalizing g out stored with
  | nil => exact hK stored g.stamps (by simpa using h) rfl
  | cons line rest ih =>
    rw [recordLines, records_bind]
    refine records_invoke ?_
    intro t sq hlog
    rw [stored.sequence.log_of_allowed t line (by decide)] at hlog
    obtain rfl := (Prod.mk.inj hlog).1
    refine ih (h.line t line rfl) fun stored' stamps' hext hst => hK stored' stamps' ?_ hst
    rwa [List.append_assoc] at hext

/-- the resource group store adds nothing of the playbook -/
theorem records_observeConfigStore {cfg : Config} {K : StoredSequence → Tape → Prop}
    (h : Extends out g.stamps loaded stored)
    (hK : ∀ stored' stamps, Extends out stamps loaded stored' → stored'.sequence.state = stored.sequence.state →
      K stored' { g with stamps := stamps }) : Records id (observeConfigStore cfg stored) K g := by
  have skip : K stored g := hK stored g.stamps h rfl
  unfold observeConfigStore
  refine yields_ite (fun _ => skip) fun _ => yields_ite (fun _ => skip) ?_
  intro _
  cases cfg.cluster stored.sequence.cluster with
  | none => exact skip
  | some cluster =>
    refine records_act trivial fun probe => records_invoke ?_
    intro t sq hprobe
    obtain ⟨news, hsq, hnews, -⟩ := observeConfigStore_news stored.sequence t probe.1 probe.2
    rw [hsq] at hprobe
    obtain rfl := (Prod.mk.inj hprobe).1
    exact hK _ _ (h.note t rfl hnews) rfl

theorem records_observe {cfg : Config} {K : StoredSequence → Tape → Prop} (h : Extends out g.stamps loaded stored)
    (hK : ∀ stored' stamps running, Extends out stamps loaded stored' →
      stored'.sequence.state = drainedAfter running stored.sequence.state → K stored' { g with stamps := stamps }) :
    Records id (observe cfg stored) K g := by
  refine records_act trivial fun q => records_lift ?_
  intro queries _
  refine records_act trivial fun r => records_lift ?_
  intro health _
  rw [records_bind]
  refine records_invoke ?_
  intro t sq hread
  obtain ⟨news, hsq, hnews, -⟩ := takeReading_news (observedRunning queries) (observedHealth health) stored.sequence t
  rw [hsq] at hread
  obtain rfl := (Prod.mk.inj hread).1
  refine records_observeConfigStore (h.note t rfl hnews) ?_
  intro stored' stamps' hext hst
  exact hK stored' stamps' _ hext hst

/-- what a poll of the executor leaves on the tape -/
theorem records_pollExecutor {cfg : Config} {K : StoredSequence → Tape → Prop} (hlines : g.lines = none)
    (hstatus : g.status = none) (hloaded : g.loaded = some loaded) (h : Extends [] g.stamps loaded stored)
    (hK : ∀ stored' g', g'.loaded = some loaded → Extends (g'.lines.getD []) g'.stamps loaded stored' →
      g'.Reaches stored.sequence.state stored'.sequence.state → K stored' g') :
    Records id (pollExecutor cfg stored) K g := by
  unfold pollExecutor
  refine yields_ite (fun _ => ?_) fun hgo => ?_
  · exact hK stored g hloaded (by rwa [hlines]) (.inl rfl)
  push Not at hgo
  refine records_act ⟨hlines, hstatus, loaded, hloaded, h.id, h.counts⟩ ?_
  intro lines
  rw [records_bind]
  refine records_recordLines h ?_
  intro stored' stamps hext hst
  have hown : ∀ l ∈ g.loaded, stored'.id = l.id := by
    rintro l hl
    rw [hloaded] at hl
    obtain rfl := Option.some.inj hl
    exact hext.id
  refine records_act hown ?_
  intro status
  have hst' : stored'.sequence.state = .restarting := hst.trans hgo.1
  -- the tape now holds the lines and the state
  set g' : Tape := { g with stamps := stamps, lines := some lines, status := some status } with hg'
  have htape : Tape.after
      { g.after (.linesSince stored.id (outputs stored.sequence.history)) lines with stamps := stamps }
      (.execStatus stored'.sequence.cluster stored'.id) status = g' := by
    simp [Tape.after, hstatus, hg']
  change Records id _ K (Tape.after { g.after (.linesSince stored.id (outputs stored.sequence.history)) lines with
    stamps := stamps } (.execStatus stored'.sequence.cluster stored'.id) status)
  rw [htape]
  -- a remark that leaves the state alone
  have remark : ∀ (message : RestartSequence → String) (level : String), level ∈ allowedLevels → level ≠ levelOutput →
      Records id (invoke stored' fun s t => s.log t (message s) level) K g' := by
    intro message level hlevel hne
    refine records_invoke ?_
    intro t sq hlog
    rw [stored'.sequence.log_of_allowed t _ hlevel] at hlog
    obtain rfl := (Prod.mk.inj hlog).1
    exact hK _ { g' with stamps := stamps ++ [t] } hloaded (hext.note t rfl (by simp [outputs, hne])) (.inl hst)
  cases status with
  | succeeded =>
    rw [records_bind]
    refine records_invoke ?_
    intro t sq hlog
    rw [RestartSequence.log_info] at hlog
    obtain rfl := (Prod.mk.inj hlog).1
    refine records_invoke ?_
    intro t' sq' hmark
    have hmarked : ∀ sq : RestartSequence, sq.state = .restarting → sq.markRestarted t' = ({ sq with
        state := .verifying
        history := sq.history ++ [⟨t', .verifying, levelInfo, sq.cluster ++
          " restarted. Checking health before restoring traffic."⟩] }, .ok ()) := by
      intro sq hsq
      simp [RestartSequence.markRestarted, hsq, RestartSequence.record_eq]
    dsimp only at hmark
    rw [hmarked (stored'.sequence.append t _ levelInfo) hst'] at hmark
    obtain rfl := (Prod.mk.inj hmark).1
    have hnoted : Extends lines (stamps ++ [t]) loaded
        { stored' with sequence := stored'.sequence.append t "Playbook finished successfully." levelInfo } :=
      hext.note t rfl (by simp [outputs, levelInfo, levelOutput])
    refine hK _ { g' with stamps := stamps ++ [t] ++ [t'] } hloaded (hnoted.note t' rfl ?_)
      (.inr (.inr ⟨hgo.1, rfl, rfl, rfl⟩))
    simp [outputs, levelInfo, levelOutput]
  | failed => exact records_act trivial fun detail => remark _ _ (by decide) (by decide)
  | unknown => exact remark _ _ (by decide) (by decide)
  | pendingOperator => exact hK stored' g' hloaded hext (.inl hst)
  | running => exact hK stored' g' hloaded hext (.inl hst)

theorem records_loadOr404 {K : StoredSequence → Tape → Prop}
    (hK : ∀ loaded, K loaded { Tape.blank with loaded := some loaded }) : Records id (loadOr404 id) K g := by
  unfold loadOr404
  refine records_act rfl fun r => records_lift ?_
  intro found hr
  subst hr
  cases found with
  | none => trivial
  | some loaded => exact hK loaded

theorem records_view {cfg : Config} (hown : ∀ l ∈ g.loaded, stored.id = l.id) :
    Records id (view cfg stored) (fun _ _ => True) g := by
  unfold view
  split_ifs
  · rw [records_bind]
    exact records_act hown fun _ => records_act trivial fun _ => trivial
  · exact records_act trivial fun _ => trivial

/-- **Every refresh keeps to the protocol.** -/
theorem records_refresh (cfg : Config) (id : ℕ) : Records id (refresh cfg id) (fun _ _ => True) Tape.blank := by
  rw [refresh, records_bind]
  refine records_loadOr404 ?_
  intro loaded
  dsimp only
  rw [records_bind]
  refine records_observe (Extends.refl loaded) ?_
  intro seen stamps running hseen hst
  rw [records_bind]
  refine records_pollExecutor rfl rfl rfl hseen ?_
  intro polled g hloaded hpolled hreach
  have hown : ∀ l ∈ g.loaded, polled.id = l.id := by
    intro l hl
    rw [hloaded] at hl
    obtain rfl := Option.some.inj hl
    exact hpolled.id
  have hreaches : g.Reaches loaded.sequence.state polled.sequence.state := by
    rcases drainedAfter_cases running loaded.sequence.state with h | ⟨h, -, -⟩
    · rwa [hst, h] at hreach
    · exact .inr (.inl h)
  refine yields_ite (fun _ => ?_) fun _ => records_view hown
  rw [yields_bind, save, yields_bind]
  refine ⟨⟨loaded, hloaded, hpolled, hreaches⟩, fun r => records_lift fun _ _ => ?_⟩
  exact records_view fun l hl => by cases hl

end Walk

/-! ## Watchers and the playbook thread -/

/-- what happens beside the refreshes -/
inductive Beat where
  /-- the playbook prints a line -/
  | line (text : String)
  /-- the runner returns -/
  | done (timeoutSeconds : ℚ) (result : PlaybookResult)
  /-- the resource group store changes its mind -/
  | store (answers : String → Option Bool × String)
  /-- the clock goes on, the collector stores a snapshot, somebody edits the Gateway -/
  | world (l : Label)

/-- the playbook thread ends with its run -/
def Site.whileRunning (id : ℕ) (f : PlaybookRun → PlaybookRun) (s : Site) : Site :=
  { s with runs := fun i =>
      if i = id then (s.runs i).map fun run => if run.state = .running then f run else run else s.runs i }

def Beat.apply (env : Env) (id : ℕ) : Beat → Site → Site
  | .line text, s => s.whileRunning id fun run => run.collect text
  | .done timeoutSeconds result, s => s.whileRunning id fun run => run.finish timeoutSeconds result
  | .store answers, s => { s with stores := answers }
  | .world (.call ..), s => s
  | .world (.clock t), s => { s with world := { s.world with now := max s.world.now t } }
  | .world l, s => { s with world := step env s.world l }

/-- any number of refreshes of one sequence; the site answers by itself -/
def watchers (env : Env) (id : ℕ) : Pool.System Unit Act Act.Answer Exn View Unit Beat Site Tape where
  program _ := refresh env.toConfig id
  protocol _ := recording id
  fresh := .blank
  handle _ e s := serve env e s
  spawned _ s := { s with world := s.world.called (.refresh id) }
  outside beat s := beat.apply env id s

abbrev Watch := List (Pool.Move Unit Unit Beat)

/-- the end of an interleaving -/
def watched (env : Env) (id : ℕ) (s : Site) (moves : Watch) : Site :=
  (run (Pool.step (watchers env id)) ⟨s, []⟩ moves).shared

/-- the playbook was just launched, and nothing of it is stored -/
def JustLaunched (s : Site) (id : ℕ) : Prop :=
  ∃ row ∈ s.world.rows[id]?, row.state = .restarting ∧ outputs row.events = 0 ∧ s.runs id = some .launched

instance (s : Site) (id : ℕ) : Decidable (JustLaunched s id) := by unfold JustLaunched; infer_instance

/-- what is stored reads back as a prefix of the executor's lines; past RESTARTING, as all of them, and the playbook has
succeeded -/
def Transcribed (env : Env) (s : Site) (id : ℕ) : Prop :=
  ∃ row ∈ s.world.rows[id]?, ∃ run ∈ s.runs id,
    outputLines (env.storage.readEvents row.events) <+: run.lines ∧
    (row.state = .restarting ∨
      run.state = .succeeded ∧ outputLines (env.storage.readEvents row.events) = run.lines)

instance (env : Env) (s : Site) (id : ℕ) : Decidable (Transcribed env s id) := by unfold Transcribed; infer_instance

/-- the condition on an effect: no output was stored since the load under a save that brings lines, and the lines read
are still all of them when a success is read after them -/
def Uninterrupted (id : ℕ) (_ : Unit) (s : Site) (g : Tape) : Act → Prop
  | .save .. => g.lines.getD [] ≠ [] →
      ∀ row ∈ s.world.rows[id]?, ∀ loaded ∈ g.loaded, outputs row.events = outputs loaded.sequence.history
  | .execStatus .. => execStatus s.runs id = .succeeded → g.status = none →
      ∀ ls ∈ g.lines, ∀ loaded ∈ g.loaded, linesSince s.runs id (outputs loaded.sequence.history) = ls
  | _ => True

instance (id : ℕ) (u : Unit) (s : Site) (g : Tape) : DecidablePred (Uninterrupted id u s g)
  | .save .. => inferInstanceAs (Decidable (g.lines.getD [] ≠ [] → ∀ row ∈ s.world.rows[id]?, ∀ loaded ∈ g.loaded,
      outputs row.events = outputs loaded.sequence.history))
  | .execStatus .. => inferInstanceAs (Decidable (execStatus s.runs id = .succeeded → g.status = none → ∀ ls ∈ g.lines,
      ∀ loaded ∈ g.loaded, linesSince s.runs id (outputs loaded.sequence.history) = ls))
  | .now | .load _ | .insert .. | .loadQueries _ | .loadHealth _ | .loadGateway | .probe _ | .auditWritable
  | .auditWrite _ | .preflight _ | .setActive .. | .execStart .. | .linesSince .. | .execResult _ =>
    inferInstanceAs (Decidable True)

/-! ## What holds of the store, and what a refresh knows -/

/-- nothing stored is newer than the clock, none of the output is out of order, and past RESTARTING all is there -/
structure InOrder (now : ℚ) (row : Row) (run : PlaybookRun) : Prop where
  lines : outputLines row.events <+: run.lines
  state : row.state = .restarting ∨
    (row.state = .verifying ∧ run.state = .succeeded ∧ outputLines row.events = run.lines)
  sorted : (outputEvents row.events).Pairwise fun a b => a.at_ ≤ b.at_
  past : ∀ e ∈ outputEvents row.events, e.at_ ≤ now

/-- what a refresh knows of row and run by what it has read -/
structure Knows (id : ℕ) (now : ℚ) (g : Tape) (loaded : StoredSequence) (row : Row) (run : PlaybookRun) : Prop where
  id : loaded.id = id
  persisted : loaded.persistedEvents = loaded.sequence.history.length
  stored : outputEvents loaded.sequence.history <+: outputEvents row.events
  lines : ∀ ls ∈ g.lines, outputLines loaded.sequence.history ++ ls <+: run.lines
  status : g.status = some .succeeded →
    run.state = .succeeded ∧ outputLines loaded.sequence.history ++ g.lines.getD [] = run.lines
  state : loaded.sequence.state = .restarting ∨
    (loaded.sequence.state = .verifying ∧ run.state = .succeeded ∧ outputLines loaded.sequence.history = run.lines)
  past : ∀ e ∈ outputEvents loaded.sequence.history, e.at_ ≤ now ∧ ∀ t ∈ g.stamps, e.at_ ≤ t
  clock : g.stamps.Pairwise (· ≤ ·)
  now : ∀ t ∈ g.stamps, t ≤ now

/-- of a site -/
def InOrderAt (id : ℕ) (s : Site) : Prop :=
  ∃ row run, s.world.rows[id]? = some row ∧ s.runs id = some run ∧ InOrder s.world.now row run

def KnowsAt (id : ℕ) (s : Site) (g : Tape) : Prop := ∀ loaded ∈ g.loaded,
  ∃ row run, s.world.rows[id]? = some row ∧ s.runs id = some run ∧ Knows id s.world.now g loaded row run

/-- the clock goes on, output and lines are only added, and a run that has succeeded stays as it is -/
structure Onward (id : ℕ) (s s' : Site) : Prop where
  now : s.world.now ≤ s'.world.now
  row : ∀ row, s.world.rows[id]? = some row →
    ∃ row', s'.world.rows[id]? = some row' ∧ outputEvents row.events <+: outputEvents row'.events
  run : ∀ run, s.runs id = some run →
    ∃ run', s'.runs id = some run' ∧ run.lines <+: run'.lines ∧ (run.state = .succeeded → run' = run)

section Facts

variable {env : Env} {id : ℕ} {s s' : Site} {g : Tape} {loaded stored : StoredSequence} {row : Row} {run : PlaybookRun}

theorem Onward.same (hnow : s'.world.now = s.world.now) (hrows : s'.world.rows = s.world.rows)
    (hruns : s'.runs = s.runs) : Onward id s s' := by
  refine ⟨hnow.ge, fun row hrow => ⟨row, hrows ▸ hrow, List.prefix_rfl⟩, fun run hrun => ⟨run, hruns ▸ hrun, ?_⟩⟩
  exact ⟨List.prefix_rfl, fun _ => rfl⟩

/-- what a refresh knows stays true whatever the others do -/
theorem knowsAt_stable (h : Onward id s s') (hg : KnowsAt id s g) : KnowsAt id s' g := by
  intro loaded hloaded
  obtain ⟨row, run, hrow, hrun, hk⟩ := hg loaded hloaded
  obtain ⟨row', hrow', hevents⟩ := h.row row hrow
  obtain ⟨run', hrun', hlines, hdone⟩ := h.run run hrun
  have keep : run.state = .succeeded → run' = run := hdone
  refine ⟨row', run', hrow', hrun', hk.id, hk.persisted, hk.stored.trans hevents, fun ls hls => ?_, fun hst => ?_, ?_,
    fun e he => ⟨(hk.past e he).1.trans h.now, (hk.past e he).2⟩, hk.clock, fun t ht => (hk.now t ht).trans h.now⟩
  · exact (hk.lines ls hls).trans hlines
  · have hs := hk.status hst
    rw [keep hs.1]
    exact hs
  · rcases hk.state with hr | hv
    · exact .inl hr
    · rw [keep hv.2.1]
      exact .inr hv

theorem inOrderAt_same (hnow : s'.world.now = s.world.now) (hrows : s'.world.rows = s.world.rows)
    (hruns : s'.runs = s.runs) (h : InOrderAt id s) : InOrderAt id s' := by
  obtain ⟨row, run, hrow, hrun, hI⟩ := h
  exact ⟨row, run, hrows ▸ hrow, hruns ▸ hrun, hnow ▸ hI⟩

/-! ### The playbook thread and the rest of the world -/

theorem onward_whileRunning {f : PlaybookRun → PlaybookRun} (hf : ∀ run, run.lines <+: (f run).lines) :
    Onward id s (s.whileRunning id f) := by
  refine ⟨le_rfl, fun row hrow => ⟨row, hrow, List.prefix_rfl⟩, fun run hrun => ?_⟩
  refine ⟨if run.state = .running then f run else run, by simp [Site.whileRunning, hrun], ?_, fun hst => ?_⟩
  · split_ifs
    · exact hf run
    · exact List.prefix_rfl
  · rw [if_neg (by rw [hst]; decide)]

theorem inOrderAt_whileRunning {f : PlaybookRun → PlaybookRun} (hf : ∀ run, run.lines <+: (f run).lines)
    (h : InOrderAt id s) : InOrderAt id (s.whileRunning id f) := by
  obtain ⟨row, run, hrow, hrun, hI⟩ := h
  refine ⟨row, if run.state = .running then f run else run, hrow, by simp [Site.whileRunning, hrun], ?_⟩
  split_ifs with hr
  · refine ⟨hI.lines.trans (hf run), hI.state.imp_right fun hv => ?_, hI.sorted, hI.past⟩
    rw [hv.2.1] at hr
    cases hr
  · exact hI

theorem lines_finish (timeoutSeconds : ℚ) (run : PlaybookRun) (result : PlaybookResult) :
    (run.finish timeoutSeconds result).lines = run.lines ++ result.trailing := by
  unfold PlaybookRun.finish
  dsimp only
  split_ifs <;> rfl

theorem onward_beat (beat : Beat) (h : InOrderAt id s) :
    Onward id s (beat.apply env id s) ∧ InOrderAt id (beat.apply env id s) := by
  cases beat with
  | line text =>
    have hf : ∀ run : PlaybookRun, run.lines <+: (run.collect text).lines := fun run => List.prefix_append ..
    exact ⟨onward_whileRunning hf, inOrderAt_whileRunning hf h⟩
  | done timeoutSeconds result =>
    have hf : ∀ run : PlaybookRun, run.lines <+: (run.finish timeoutSeconds result).lines := fun run => by
      rw [lines_finish]
      exact List.prefix_append ..
    exact ⟨onward_whileRunning hf, inOrderAt_whileRunning hf h⟩
  | store answers => exact ⟨.same rfl rfl rfl, inOrderAt_same rfl rfl rfl h⟩
  | world l =>
    cases l with
    | clock t =>
      have hnow : s.world.now ≤ max s.world.now t := le_max_left _ _
      refine ⟨⟨hnow, fun row hrow => ⟨row, hrow, List.prefix_rfl⟩, fun run hrun => ⟨run, hrun, List.prefix_rfl,
        fun _ => rfl⟩⟩, ?_⟩
      obtain ⟨row, run, hrow, hrun, hI⟩ := h
      exact ⟨row, run, hrow, hrun, hI.lines, hI.state, hI.sorted, fun e he => (hI.past e he).trans hnow⟩
    | _ => exact ⟨.same rfl rfl rfl, inOrderAt_same rfl rfl rfl h⟩

/-! ### One effect of a refresh -/

theorem knows_load {now : ℚ} (k : Storage) (hI : InOrder now row run) :
    Knows id now { Tape.blank with loaded := some (loadRow k id row) } (loadRow k id row) row run := by
  have hout : outputEvents (k.readEvents row.events) = outputEvents row.events := outputEvents_readEvents k hI.sorted
  have hlines : outputLines (k.readEvents row.events) = outputLines row.events := congrArg (List.map Entry.message) hout
  refine ⟨rfl, rfl, ?_, fun ls hls => (by cases hls), fun hst => (by cases hst), ?_, ?_, List.Pairwise.nil,
    fun t ht => (by cases ht)⟩
  · change outputEvents (k.readEvents row.events) <+: _
    rw [hout]
  · change row.state = _ ∨ _ ∧ _ ∧ outputLines (k.readEvents row.events) = _
    rw [hlines]
    exact hI.state
  · change ∀ e ∈ outputEvents (k.readEvents row.events), _
    rw [hout]
    exact fun e he => ⟨hI.past e he, fun t ht => (by cases ht)⟩

theorem knows_now {now : ℚ} (hk : Knows id now g loaded row run) :
    Knows id now { g with stamps := g.stamps ++ [now] } loaded row run := by
  refine { hk with past := fun e he => ⟨(hk.past e he).1, fun t ht => ?_⟩, clock := ?_, now := fun t ht => ?_ }
  · rcases List.mem_append.1 ht with ht | ht
    · exact (hk.past e he).2 t ht
    · rw [List.mem_singleton.1 ht]
      exact (hk.past e he).1
  · refine List.pairwise_append.2 ⟨hk.clock, List.pairwise_singleton .., fun t ht t' ht' => ?_⟩
    rw [List.mem_singleton.1 ht']
    exact hk.now t ht
  · rcases List.mem_append.1 ht with ht | ht
    · exact hk.now t ht
    · exact (List.mem_singleton.1 ht).le

/-- the lines beyond the stored ones continue them -/
theorem knows_lines {now : ℚ} (hI : InOrder now row run) (hk : Knows id now g loaded row run)
    (hstatus : g.status = none) :
    Knows id now { g with lines := some (run.lines.drop (outputs loaded.sequence.history)) } loaded row run := by
  have hbegins : outputLines loaded.sequence.history <+: run.lines := (hk.stored.map _).trans hI.lines
  refine { hk with lines := fun ls hls => ?_, status := fun hst => ?_ }
  · obtain rfl := Option.some.inj hls
    obtain ⟨rest, hrest⟩ := hbegins
    rw [← hrest, ← length_outputLines, List.drop_left]
  · rw [hstatus] at hst
    cases hst

theorem knows_status {now : ℚ} {ls : List String} (hk : Knows id now g loaded row run) (hls : g.lines = some ls)
    (hall : run.state = .succeeded → run.lines.drop (outputs loaded.sequence.history) = ls) :
    Knows id now { g with status := some run.state } loaded row run := by
  refine { hk with status := fun hst => ?_ }
  have hsucceeded : run.state = .succeeded := Option.some.inj hst
  obtain ⟨rest, hrest⟩ := hk.lines ls hls
  have hdrop := hall hsucceeded
  rw [← hrest, List.append_assoc, ← length_outputLines, List.drop_left] at hdrop
  refine ⟨hsucceeded, ?_⟩
  change outputLines loaded.sequence.history ++ g.lines.getD [] = run.lines
  rw [hls, ← hrest, List.append_assoc, hdrop]
  rfl

/-- lines read from where a log ended continue the log it has become, if nothing came in between -/
theorem prefix_resumed {α : Type} {counted stored lines all : List α} (hstored : counted <+: stored)
    (hall : stored <+: all) (hlines : counted ++ lines <+: all) (hsame : lines ≠ [] → stored = counted) :
    stored ++ lines <+: all ∧ (counted ++ lines = all → stored ++ lines = all) := by
  by_cases h : lines = []
  · subst h
    simp only [List.append_nil] at hlines ⊢
    refine ⟨hall, fun heq => ?_⟩
    subst heq
    exact hall.eq_of_length (le_antisymm hall.length_le hstored.length_le)
  · rw [hsame h]
    exact ⟨hlines, fun heq => heq⟩

/-- **A save** that brings lines no other save has brought keeps the store in order. -/
theorem inOrder_save {now : ℚ} {k : Storage} {forceReason : Option String} (hI : InOrder now row run)
    (hk : Knows id now g loaded row run) (hext : Extends (g.lines.getD []) g.stamps loaded stored)
    (hreach : g.Reaches loaded.sequence.state stored.sequence.state)
    (hok : g.lines.getD [] ≠ [] → outputs row.events = outputs loaded.sequence.history) :
    InOrder now (row.written k now stored forceReason stored.pendingEvents.length) run ∧
      outputEvents row.events <+:
        outputEvents (row.written k now stored forceReason stored.pendingEvents.length).events := by
  obtain ⟨news, hhist, hout, hstamps⟩ := hext.news
  have hevents : (row.written k now stored forceReason stored.pendingEvents.length).events = row.events ++ news := by
    simp [Row.written, StoredSequence.pendingEvents, hhist, hext.persisted, hk.persisted]
  -- nothing was stored in between, if there is something to add
  have hsame : g.lines.getD [] ≠ [] → outputEvents row.events = outputEvents loaded.sequence.history := fun h =>
    (hk.stored.eq_of_length (by rw [length_outputEvents, length_outputEvents, hok h])).symm
  have hlines : outputLines loaded.sequence.history ++ g.lines.getD [] <+: run.lines := by
    cases hls : g.lines with
    | none =>
      rw [Option.getD_none, List.append_nil]
      exact (hk.stored.map _).trans hI.lines
    | some ls => exact hk.lines ls hls
  obtain ⟨hbegins, hwhole⟩ := prefix_resumed (hk.stored.map _) hI.lines hlines
    fun h => congrArg (List.map Entry.message) (hsame h)
  have houtput : outputLines (row.events ++ news) = outputLines row.events ++ g.lines.getD [] := by
    rw [outputLines_append, hout]
  have hquiet : g.lines.getD [] = [] → outputEvents news = [] := fun h => by
    rw [h] at hout
    exact List.map_eq_nil_iff.1 hout
  -- each line added was logged at a reading of the clock
  have hread : ∀ e ∈ outputEvents news, e.at_ ∈ g.stamps := fun e he => hstamps.subset (List.mem_map_of_mem he)
  refine ⟨⟨?_, ?_, ?_, ?_⟩, ?_⟩
  · rw [hevents, houtput]
    exact hbegins
  · rw [hevents, houtput]
    change stored.sequence.state = _ ∨ stored.sequence.state = _ ∧ _
    rcases hreach with hst | hst | ⟨-, hst, -, hstatus⟩
    · rw [hst]
      rcases hk.state with hr | ⟨hv, hsucc, hdone⟩
      · exact .inl hr
      · refine .inr ⟨hv, hsucc, hwhole ?_⟩
        -- there was nothing left to read
        refine hlines.eq_of_length (le_antisymm hlines.length_le ?_)
        rw [List.length_append, hdone]
        exact Nat.le_add_right ..
    · rcases hk.state with hr | ⟨hv, -⟩
      · rw [hst] at hr; cases hr
      · rw [hst] at hv; cases hv
    · obtain ⟨hsucc, hdone⟩ := hk.status hstatus
      exact .inr ⟨hst, hsucc, hwhole hdone⟩
  · rw [hevents, outputEvents_append]
    refine List.pairwise_append.2 ⟨hI.sorted, ?_, fun e he e' he' => ?_⟩
    · exact List.pairwise_map.1 (hk.clock.sublist hstamps)
    · by_cases h : g.lines.getD [] = []
      · rw [hquiet h] at he'
        cases he'
      · rw [hsame h] at he
        exact (hk.past e he).2 _ (hread e' he')
  · rw [hevents, outputEvents_append]
    intro e he
    rcases List.mem_append.1 he with he | he
    · exact hI.past e he
    · exact hk.now _ (hread e he)
  · rw [hevents, outputEvents_append]
    exact List.prefix_append ..

/-- nothing fails at a site, so a save writes all or nothing -/
theorem serve_save {forceReason : Option String} :
    (∃ e, serve env (.save stored forceReason) s = (.error e, s)) ∨
    ∃ row t, s.world.rows[stored.id]? = some row ∧ serve env (.save stored forceReason) s = (.ok (),
      { s with world := { s.world with
          rows := s.world.rows.set stored.id
            (row.written env.storage s.world.now stored forceReason stored.pendingEvents.length)
          trace := t } }) := by
  simp only [serve, handle, saveSequence]
  rcases @saveRow_whole env.storage s.world.now s.world.rows stored forceReason with ⟨text, he⟩ | ⟨row, hrow, he⟩
  · exact .inl ⟨_, by simp only [Oracle.serves, he]; rfl⟩
  · exact .inr ⟨row, _, hrow, by simp only [Oracle.serves, he]; rfl⟩

/-- **One effect** of a refresh, uninterrupted: it goes onward, keeps the store in order, and leaves the refresh with
what it has read. -/
theorem records_serve (u : Unit) (e : Act) (hI : InOrderAt id s) (hk : KnowsAt id s g) (hp : g.Permits id e)
    (hok : Uninterrupted id u s g e) :
    Onward id s (serve env e s).2 ∧ InOrderAt id (serve env e s).2 ∧
      KnowsAt id (serve env e s).2 (g.after e (serve env e s).1) := by
  -- most effects leave everything here as it is, and add nothing to what is known
  have quiet : ∀ s' : Site, s'.world.now = s.world.now → s'.world.rows = s.world.rows → s'.runs = s.runs →
      Onward id s s' ∧ InOrderAt id s' ∧ KnowsAt id s' g := fun s' hnow hrows hruns =>
    ⟨.same hnow hrows hruns, inOrderAt_same hnow hrows hruns hI, knowsAt_stable (.same hnow hrows hruns) hk⟩
  have same := quiet s rfl rfl rfl
  obtain ⟨row, run, hrow, hrun, hI'⟩ := hI
  cases e with
  | now =>
    refine ⟨same.1, same.2.1, fun loaded hloaded => ?_⟩
    obtain ⟨row, run, hrow, hrun, hknows⟩ := hk loaded hloaded
    exact ⟨row, run, hrow, hrun, knows_now hknows⟩
  | load i =>
    obtain rfl : i = id := hp
    have hanswer : (serve env (.load i) s).1 = .ok (some (loadRow env.storage i row)) := by
      simp only [serve, handle, readStore_serves (show Oracle.serves.fault = none from rfl), load, hrow,
        Option.map_some]
    refine ⟨same.1, same.2.1, ?_⟩
    rw [hanswer]
    intro loaded hloaded
    obtain rfl := Option.some.inj hloaded
    exact ⟨row, run, hrow, hrun, knows_load env.storage hI'⟩
  | linesSince i shown =>
    obtain ⟨-, hstatus, loaded, hloaded, rfl, rfl⟩ := hp
    refine ⟨same.1, same.2.1, fun loaded' hloaded' => ?_⟩
    obtain rfl := Option.some.inj (hloaded.symm.trans hloaded')
    obtain ⟨row', run', hrow', hrun', hknows⟩ := hk loaded hloaded
    obtain rfl := Option.some.inj (hrow.symm.trans hrow')
    obtain rfl := Option.some.inj (hrun.symm.trans hrun')
    refine ⟨row, run, hrow, hrun, ?_⟩
    have hlines := knows_lines hI' hknows hstatus
    simp only [serve, Tape.after, linesSince, hknows.id, hrun, Option.elim_some]
    exact hlines
  | execStatus cluster i =>
    refine ⟨same.1, same.2.1, fun loaded hloaded => ?_⟩
    have hloaded' : loaded ∈ g.loaded := by
      simp only [Tape.after] at hloaded
      split_ifs at hloaded <;> exact hloaded
    obtain ⟨row', run', hrow', hrun', hknows⟩ := hk loaded hloaded'
    obtain rfl := Option.some.inj (hrun.symm.trans hrun')
    refine ⟨row', run, hrow', hrun, ?_⟩
    have hi : i = id := (hp loaded hloaded').trans hknows.id
    simp only [serve, Tape.after, execStatus, hi, hrun, Option.elim_some]
    split_ifs with hread
    · obtain ⟨ls, hls⟩ := Option.isSome_iff_exists.1 hread.1
      refine knows_status hknows hls ?_
      intro hsucc
      have := hok (by simp [execStatus, hrun, hsucc]) hread.2 ls hls loaded hloaded'
      simpa [linesSince, hrun] using this
    · exact hknows
  | save stored forceReason =>
    obtain ⟨loaded, hloaded, hext, hreach⟩ := hp
    obtain ⟨row', run', hrow', hrun', hknows⟩ := hk loaded hloaded
    obtain rfl := Option.some.inj (hrow.symm.trans hrow')
    obtain rfl := Option.some.inj (hrun.symm.trans hrun')
    have forgotten : ∀ s', KnowsAt id s' .blank := fun s' loaded hloaded => by cases hloaded
    rcases @serve_save env s stored forceReason with ⟨e, he⟩ | ⟨row', t, hrow', he⟩
    · rw [he]
      exact ⟨same.1, same.2.1, forgotten _⟩
    · rw [he]
      have hid : stored.id = id := hext.id.trans hknows.id
      rw [hid] at hrow' ⊢
      obtain rfl := Option.some.inj (hrow.symm.trans hrow')
      obtain ⟨horder, hadded⟩ := @inOrder_save id g loaded stored row run s.world.now env.storage forceReason hI' hknows
        hext hreach fun hne => hok hne row hrow loaded hloaded
      refine ⟨⟨le_rfl, fun r hr => ?_, fun r hr => ⟨r, hr, List.prefix_rfl, fun _ => rfl⟩⟩,
        ⟨_, run, getElem?_written hrow, hrun, horder⟩, forgotten _⟩
      obtain rfl := Option.some.inj (hrow.symm.trans hr)
      exact ⟨_, getElem?_written hrow, hadded⟩
  | insert _ _ => exact hp.elim
  | setActive _ _ => exact hp.elim
  | execStart _ _ => exact hp.elim
  | auditWrite record => exact quiet _ rfl rfl rfl
  | _ => exact same

end Facts

/-! ## Every interleaving -/

/-- **Playbook output is recorded.** In every interleaving of a playbook thread with any number of refreshes of its
sequence, none of which is interrupted and each of whose saves goes through, what is stored reads back as a prefix of the
executor's lines, and as all of them once the sequence has left RESTARTING. -/
theorem output_recorded (env : Env) (id : ℕ) (s : Site) (moves : Watch) (hlaunched : JustLaunched s id)
    (h : Meets (Pool.step (watchers env id)) (Pool.Fits (Uninterrupted id)) ⟨s, []⟩ moves) :
    Transcribed env (watched env id s moves) id := by
  have hstart : InOrderAt id s := by
    obtain ⟨row, hrow, hst, hout, hrun⟩ := hlaunched
    have hnone : outputEvents row.events = [] := outputEvents_eq_nil hout
    refine ⟨row, .launched, hrow, hrun, ?_, .inl hst, ?_, ?_⟩
    · rw [outputLines_eq_nil hout]
      exact List.nil_prefix
    · rw [hnone]
      exact List.Pairwise.nil
    · rw [hnone]
      exact fun e he => by cases he
  obtain ⟨row, run, hrow, hrun, hI⟩ := Pool.pool_rely (watchers env id) (InOrderAt id) (fun _ s g => KnowsAt id s g)
    (Onward id) (fun _ => wp_mono protocol_mono (fun _ _ _ => trivial) (records_refresh env.toConfig id))
    (fun _ _ _ _ hG hk => knowsAt_stable hG hk)
    (fun _ s hs => ⟨.same rfl rfl rfl, inOrderAt_same rfl rfl rfl hs, fun _ h => by cases h⟩)
    (fun beat s hs => onward_beat beat hs)
    (fun u _ e s g hs hk hp hok => records_serve u e hs hk hp hok) h (fun _ hth => by cases hth)
    (fun _ hth => by cases hth) hstart
  have hread : outputLines (env.storage.readEvents row.events) = outputLines row.events :=
    congrArg (List.map Entry.message) (outputEvents_readEvents env.storage hI.sorted)
  refine ⟨row, hrow, run, hrun, hread ▸ hI.lines, ?_⟩
  rw [hread]
  exact hI.state.imp_right fun h => h.2

/-! ## Two ways it is not -/

/-- the deployment with a playbook to run -/
def Sample.playbook : Env := { Sample.env with automated := true }

/-- a restart whose playbook was just launched -/
def Sample.launched : Site :=
  (Site.request Sample.playbook ⟨run (step Sample.playbook) (World.init 0 [Sample.backend])
      [.pollGateway true, .storeQueries (Sample.queries 5 0 0), .call (.start Sample.admin "prod-a" "upgrade") []],
    fun _ => none, fun _ => (none, "")⟩ (.restart Sample.admin 0)).2

/-- the next `n` effects of the refresh at `i` -/
def polls (i n : ℕ) : Watch := List.replicate n (.act i ())

/-- the end of a playbook that went well -/
def Sample.recap : Beat := .done 60 ⟨some 0, false, none, []⟩

/-- a refresh while the playbook runs, and one after it -/
def watchedOut : Watch :=
  [.outside (.line "TASK [restart]"), .spawn ()] ++ polls 0 20 ++
    [.outside (.line "PLAY RECAP"), .outside Sample.recap, .spawn ()] ++ polls 1 20

theorem output_recorded_twice : Transcribed Sample.playbook (watched Sample.playbook 0 Sample.launched watchedOut) 0 :=
  output_recorded Sample.playbook 0 Sample.launched watchedOut (by decide +kernel) (by decide +kernel)

/-- two refreshes read the same line before either saves -/
def watchedTwice : Watch :=
  [.outside (.line "TASK [restart]"), .spawn (), .spawn ()] ++ polls 0 6 ++ polls 1 6 ++ polls 0 14 ++ polls 1 14

/-- the playbook prints its last line and ends after a refresh has read its lines and before it reads its state -/
def cutShort : Watch :=
  [.outside (.line "TASK [restart]"), .spawn ()] ++ polls 0 6 ++
    [.outside (.line "PLAY RECAP"), .outside Sample.recap] ++ polls 0 14 ++ [.spawn ()] ++ polls 1 20

/-- **One line is stored twice, and one never.** -/
theorem output_not_recorded :
    JustLaunched Sample.launched 0 ∧
    ¬ Transcribed Sample.playbook (watched Sample.playbook 0 Sample.launched watchedTwice) 0 ∧
    ¬ Transcribed Sample.playbook (watched Sample.playbook 0 Sample.launched cutShort) 0 := by
  decide +kernel

end TrinoManagement.Service
