/-
Schedules after they were created, `tms/bench/service.py`: switched on and off by hand, claimed and fired by the tick.

- `setScheduleEnabled`: the program. `switchNoted_leaves`: a run of it leaves the schedules alone, or writes the changes of
  the row it read.
- `fireNoted_leaves`: a fire never raises, and writes the outcome of its starts on its own row, or nothing.
- `tickSchedules`: claims what is due, and fires each row in turn. `tickNoted_site`: noting what was written changes nothing.
-/
import Mathlib.Tactic
import TrinoManagement.Bench.Service

namespace TrinoManagement.Bench

open TrinoManagement.Audit TrinoManagement.Guard
open TrinoManagement.Prog (demonic demonic_mono run_erase wp wp_frame)
open TrinoManagement.Service (Exn)

/-! ## Switching by hand -/

/-- `changes`; what is `none` is not among them -/
structure SwitchChanges where
  enabled : Bool
  consecutiveFailures : Option ℕ
  pausedReason : Option (Option String)
  nextRunAt : Option ℤ
deriving DecidableEq, Repr

/-- what switching a schedule does outside the service's own memory -/
inductive SwitchAct where
  | get (id : ℕ)
  | now
  | update (id : ℕ) (changes : SwitchChanges)
deriving DecidableEq

@[reducible] def SwitchAct.Answer : SwitchAct → Type
  | .get _ => Except String (Option Schedule)
  | .now => ℤ
  | .update .. => Except String (Option Schedule)

abbrev SwitchM (α : Type) := M SwitchAct SwitchAct.Answer α

/-- `store.update` -/
def Schedule.change (row : Schedule) (changes : SwitchChanges) : Schedule :=
  { row with
    enabled := changes.enabled
    consecutiveFailures := changes.consecutiveFailures.getD row.consecutiveFailures
    pausedReason := changes.pausedReason.getD row.pausedReason
    nextRunAt := changes.nextRunAt.getD row.nextRunAt }

/-- enabling clears what paused it, and sets the next slot -/
def switchOn (row : Schedule) (now : ℤ) : SwitchChanges :=
  ⟨true, some 0, some none, some (advance row.nextRunAt row.intervalMinutes now)⟩

def switchOff : SwitchChanges := ⟨false, none, none, none⟩

def schedulesMissing : String :=
  "Benchmark schedules are not available - migration 020 has not been applied, or the schedule store could not be opened."

/-- nobody catches `ScheduleStoreUnavailable` here -/
def storeUnavailable (message : String) : Exn := .client "ScheduleStoreUnavailable" message

/-- `changes` of `set_schedule_enabled`; a stored slot is a moment, so the first `utcnow` is not asked -/
def switchChanges (row : Schedule) (enabled : Bool) : SwitchM SwitchChanges :=
  if enabled then do
    let utcnow ← op .now
    pure (switchOn row utcnow)
  else pure switchOff

/-- `set_schedule_enabled` -/
def setScheduleEnabled (principal : Principal) (available : Bool) (id : ℕ) (enabled : Bool) (reason : Option String) :
    SwitchM (Option Schedule) := do
  requireAdmin principal adminMessage
  refuse (if available then none else some (.upstreamUnavailable schedulesMissing))
  let found ← lift storeUnavailable (← op (.get id))
  match found with
  | none => throw (.notFound ("No such schedule: " ++ toString id))
  | some row =>
    let changes ← switchChanges row enabled
    audited principal ⟨"BENCHMARK_SCHEDULE_CHANGE", "benchmark_query_set", row.name, none⟩ reason do
      lift storeUnavailable (← op (.update id changes))

/-- the rows with an id, as `f` leaves them -/
def onRow (id : ℕ) (f : Schedule → Schedule) (rows : List Schedule) : List Schedule :=
  rows.map fun row => if row.id = id then f row else row

def rowOf (rows : List Schedule) (id : ℕ) : Option Schedule := rows.find? fun row => row.id = id

def BenchWorld.getSchedule (w : BenchWorld) (id : ℕ) : Option Schedule := rowOf w.schedules id

theorem rowOf_id {rows : List Schedule} {id : ℕ} {r : Schedule} (h : rowOf rows id = some r) : r.id = id := by
  simpa using List.find?_some h

/-- what is done to every row, to the one that is found -/
theorem rowOf_map {rows : List Schedule} {id : ℕ} {f : Schedule → Schedule} (hf : ∀ row, (f row).id = row.id) :
    rowOf (rows.map f) id = (rowOf rows id).map f := by
  unfold rowOf
  rw [List.find?_map]
  congr 2
  funext row
  simp [hf]

theorem rowOf_onRow {rows : List Schedule} {id id' : ℕ} {f : Schedule → Schedule} (hf : ∀ row, (f row).id = row.id) :
    rowOf (onRow id' f rows) id = (rowOf rows id).map fun row => if row.id = id' then f row else row := by
  refine rowOf_map ?_
  intro row
  split_ifs
  · exact hf row
  · rfl

theorem change_id (changes : SwitchChanges) (row : Schedule) : (row.change changes).id = row.id := rfl

/-- who answers -/
def serveSwitch (o : Weather) : (e : SwitchAct) → BenchWorld → e.Answer × BenchWorld
  | .get id, w => o.fault.strike (fun m => m) w (.ok (w.getSchedule id), w)
  | .now, w => (o.now, w)
  | .update id changes, w => o.fault.strike (fun m => m) w
      (.ok ((w.getSchedule id).map fun row => row.change changes),
        { w with schedules := onRow id (fun row => row.change changes) w.schedules })

/-! ## Noting what was written -/

/-- a statement that took effect, whatever the answer was -/
def taken : Fault → Bool
  | .none | .lost _ => true
  | .failed _ => false

section Noting

variable {E O S α : Type} {R : E → Type} (h : O → (e : E) → S → R e × S) (writes : O → E → Bool)

/-- the same answers, with a note of whether any effect wrote -/
def noting (o : O) (e : E) (s : S × Bool) : R e × (S × Bool) := ((h o e s.1).1, ((h o e s.1).2, s.2 || writes o e))

/-- without the note -/
def plain (s : Site (S × Bool)) : Site S := ⟨s.service.1, s.log⟩

/-- **The note changes no run.** -/
theorem noting_plain [Inhabited O] (os : List (Oracle O)) (p : M E R α) (s : Site (S × Bool)) :
    (Prog.run (handle (noting h writes)) os p s).1 = (Prog.run (handle h) os p (plain s)).1 ∧
      plain (Prog.run (handle (noting h writes)) os p s).2 = (Prog.run (handle h) os p (plain s)).2 := by
  refine run_erase plain ?_ s
  intro o e s
  cases e with
  | writable => exact ⟨rfl, rfl⟩
  | write entry =>
    refine ⟨rfl, ?_⟩
    simp only [handle]
    split_ifs <;> rfl
  | op e => exact ⟨rfl, rfl⟩

end Noting

/-! ## What a switch leaves -/

def switchWrites (o : Weather) : SwitchAct → Bool
  | .update .. => taken o.fault
  | .get _ | .now => false

def changesAt (row : Schedule) (enabled : Bool) (now : ℤ) : SwitchChanges := if enabled then switchOn row now else switchOff

/-- a switch leaves the world alone, or changes the row it read -/
inductive SwitchLeaves (w : BenchWorld) (id : ℕ) (enabled : Bool) : BenchWorld × Bool → Prop where
  | alone : SwitchLeaves w id enabled (w, false)
  | changed (row : Schedule) (now : ℤ) (hrow : w.getSchedule id = some row) : SwitchLeaves w id enabled
      ({ w with schedules := onRow id (fun row' => row'.change (changesAt row enabled now)) w.schedules }, true)

section Switch

variable {w : BenchWorld} {id : ℕ} {enabled : Bool} {principal : Principal} {available : Bool} {reason : Option String}

/-- the answer does not matter for what is left -/
abbrev Leaving {S α : Type} (Q : S → Prop) : Except Exn α → S → Prop := fun _ s => Q s

/-- a statement that fails leaves the world as it was, and one whose answer is lost does not -/
theorem strike_taken {ε S α : Type} (fault : Fault) (down : String → ε) (s : S) (served : Except ε α × S) :
    (fault.strike down s served).2 = if taken fault then served.2 else s := by
  cases fault <;> rfl

theorem post_switch_update {row : Schedule} {now : ℤ} {changes : SwitchChanges} (hrow : w.getSchedule id = some row)
    (hchanges : changes = changesAt row enabled now) :
    Post (noting serveSwitch switchWrites) (fun _ => True)
      (do lift storeUnavailable (← op (.update id changes)) : SwitchM (Option Schedule))
      (Leaving (SwitchLeaves w id enabled)) (w, false) := by
  subst hchanges
  refine post_bind (post_op ?_)
  intro o _
  have hleaves : SwitchLeaves w id enabled
      (noting serveSwitch switchWrites o.inner (.update id (changesAt row enabled now)) (w, false)).2 := by
    simp only [noting, serveSwitch, strike_taken, switchWrites, Bool.false_or]
    cases taken o.inner.fault with
    | true => exact .changed row now hrow
    | false => exact .alone
  exact post_lift (fun _ _ => hleaves) (fun _ _ => hleaves)

/-- what is read is what is stored -/
theorem serveSwitch_get {o : Weather} {found : Option Schedule} (h : (serveSwitch o (.get id) w).1 = .ok found) :
    w.getSchedule id = found :=
  Except.ok.inj (strike_ok h)

/-- **What a switch leaves.** -/
theorem post_setScheduleEnabled : Post (noting serveSwitch switchWrites) (fun _ => True)
    (setScheduleEnabled principal available id enabled reason) (Leaving (SwitchLeaves w id enabled)) (w, false) := by
  refine post_bind (post_refuse ?_ fun _ _ => .alone)
  intro _
  refine post_bind (post_refuse ?_ fun _ _ => .alone)
  intro _
  refine post_bind (post_op ?_)
  intro o _
  have hread : (noting serveSwitch switchWrites o.inner (.get id) (w, false)).2 = (w, false) := by
    simp [noting, serveSwitch, strike_taken, switchWrites]
  rw [hread]
  refine post_bind (post_lift ?_ fun _ _ => .alone)
  intro found hgot
  cases found with
  | none => exact post_throw .alone
  | some row =>
    have hrow := serveSwitch_get hgot
    cases enabled with
    | true =>
      refine post_bind (post_bind (post_op ?_))
      intro o _
      have hon : switchOn row o.inner.now = changesAt row true o.inner.now := rfl
      exact post_pure (post_audited (fun _ => .alone) (fun _ => .alone) (post_switch_update hrow hon))
    | false =>
      have hoff : switchOff = changesAt row false 0 := rfl
      exact post_bind (post_pure (post_audited (fun _ => .alone) (fun _ => .alone) (post_switch_update hrow hoff)))

end Switch

/-- a switch, and whether the store took it -/
def switchNoted (os : List (Oracle Weather)) (principal : Principal) (available : Bool) (id : ℕ) (enabled : Bool)
    (reason : Option String) (site : Site BenchWorld) : Bool × Site BenchWorld :=
  let r := Prog.run (handle (noting serveSwitch switchWrites)) os
    (setScheduleEnabled principal available id enabled reason) ⟨(site.service, false), site.log⟩
  (r.2.service.2, plain r.2)

section Noted

variable (os : List (Oracle Weather)) (principal : Principal) (available : Bool) (id : ℕ) (enabled : Bool)
  (reason : Option String) (site : Site BenchWorld)

theorem switchNoted_site : (switchNoted os principal available id enabled reason site).2 =
    (Prog.run (handle serveSwitch) os (setScheduleEnabled principal available id enabled reason) site).2 :=
  (noting_plain serveSwitch switchWrites os _ ⟨(site.service, false), site.log⟩).2

theorem switchNoted_leaves : SwitchLeaves site.service id enabled
    ((switchNoted os principal available id enabled reason site).2.service,
      (switchNoted os principal available id enabled reason site).1) :=
  post_run (A := fun _ => True) (Q := Leaving (SwitchLeaves site.service id enabled)) trivial (fun _ _ => trivial)
    post_setScheduleEnabled

end Noted

/-! ## What a fire leaves -/

def fireWrites (o : Weather) : BenchAct → Bool
  | .updateSchedule .. => taken o.fault
  | _ => false

/-- the schedules are as they were, and nothing is noted -/
def Untouched (rows : List Schedule) (s : BenchWorld × Bool) : Prop := s.1.schedules = rows ∧ s.2 = false

/-- how a fire ends: it returns, and its outcome is on its own row or nowhere -/
inductive FireLeaves (row : Schedule) (rows : List Schedule) : Except Exn Fired → BenchWorld × Bool → Prop where
  | recorded (started : List String) (refused : List NotStarted) (lastRunAt : ℤ) (s : BenchWorld × Bool) (hnote : s.2 = true)
      (hrows : s.1.schedules = onRow row.id (fun row' => row'.record (outcomeOf row lastRunAt started refused)) rows) :
      FireLeaves row rows (.ok ⟨row.name, started, refused⟩) s
  | unrecorded (fired : Fired) (s : BenchWorld × Bool) (hnote : s.2 = false) (hrows : s.1.schedules = rows) :
      FireLeaves row rows (.ok fired) s

section Fire

variable {lib : Lib} {cfg : BenchConfig} {b : Backend} {rows : List Schedule} {s : BenchWorld × Bool}

theorem post_bind_leaving {S E O α β : Type} {R : E → Type} {h : O → (e : E) → S → R e × S} {A : Oracle O → Prop}
    {p : M E R α} {f : α → M E R β} {I : S → Prop} {s : S} (hp : Post h A p (Leaving I) s)
    (hf : ∀ a s', I s' → Post h A (f a) (Leaving I) s') : Post h A (p >>= f) (Leaving I) s := by
  refine post_bind (post_mono hp ?_)
  intro x s' hs'
  cases x with
  | ok a => exact hf a s' hs'
  | error e => exact hs'

/-- the effects of a start -/
inductive OfStart : BenchAct → Prop where
  | getSet (key : String) : OfStart (.getSet key)
  | guard (cluster : String) : OfStart (.guard cluster)
  | createRun (run : BenchRun) : OfStart (.createRun run)
  | startRunner (id : ℕ) : OfStart (.startRunner id)

theorem createRun_schedules (w : BenchWorld) (run : BenchRun) : (w.createRun b run).2.schedules = w.schedules := by
  unfold BenchWorld.createRun
  split_ifs <;> rfl

theorem kept_start {e : BenchAct} {o : Weather} (he : OfStart e) (hs : Untouched rows s) :
    Untouched rows (noting (serve b) fireWrites o e s).2 := by
  obtain ⟨hrows, hflag⟩ := hs
  have hsettled : (s.1.settle o.ended).schedules = rows := hrows
  cases he with
  | getSet key =>
    refine ⟨?_, by simp [noting, fireWrites, hflag]⟩
    simp only [noting, serve, serveSettled, strike_taken, ite_self, hsettled]
  | guard cluster => exact ⟨hsettled, by simp [noting, fireWrites, hflag]⟩
  | createRun run =>
    refine ⟨?_, by simp [noting, fireWrites, hflag]⟩
    simp only [noting, serve, serveSettled, strike_taken]
    split_ifs
    · rw [createRun_schedules, hsettled]
    · exact hsettled
  | startRunner id =>
    refine ⟨?_, by simp [noting, fireWrites, hflag]⟩
    simp only [noting, serve, serveSettled, strike_taken, ite_self, hsettled]

theorem post_op_kept {e : BenchAct} (he : OfStart e) (hs : Untouched rows s) :
    Post (noting (serve b) fireWrites) (fun _ => True) (op e) (Leaving (Untouched rows)) s :=
  post_op fun _ _ => kept_start he hs

theorem post_setOr404_kept {key : String} (hs : Untouched rows s) :
    Post (noting (serve b) fireWrites) (fun _ => True) (setOr404 lib key) (Leaving (Untouched rows)) s := by
  refine post_bind_leaving (post_op_kept (.getSet key) hs) ?_
  intro _ s hs
  refine post_bind_leaving (post_lift (fun _ _ => hs) fun _ _ => hs) ?_
  intro found s hs
  cases found with
  | none => exact post_throw hs
  | some found => exact post_pure hs

/-- a start touches no schedule -/
theorem post_start_kept {principal : Principal} {cluster key : String} {reason label : Option String} {repetitions : Value}
    {id : Option ℕ} (hs : Untouched rows s) :
    Post (noting (serve b) fireWrites) (fun _ => True)
      (start lib cfg principal cluster key reason repetitions label id) (Leaving (Untouched rows)) s := by
  refine post_bind_leaving (post_refuse (fun _ => hs) fun _ _ => hs) ?_
  intro _ s hs
  refine post_bind_leaving (post_refuse (fun _ => hs) fun _ _ => hs) ?_
  intro _ s hs
  refine post_bind_leaving (post_setOr404_kept hs) ?_
  intro declared s hs
  refine post_bind_leaving (post_lift (fun _ _ => hs) fun _ _ => hs) ?_
  intro n s hs
  refine post_bind_leaving (post_op_kept (.guard cluster) hs) ?_
  intro _ s hs
  refine post_bind_leaving (post_lift (fun _ _ => hs) fun _ _ => hs) ?_
  intro guard s hs
  refine post_audited (fun _ => hs) (fun _ => hs) ?_
  refine post_bind_leaving (post_op_kept (.createRun _) hs) ?_
  intro _ s hs
  refine post_bind_leaving (post_lift (fun _ _ => hs) fun _ _ => hs) ?_
  intro id s hs
  refine post_bind_leaving (post_op_kept (.startRunner id) hs) ?_
  intro _ s hs
  refine post_bind_leaving (post_lift (fun _ _ => hs) fun _ _ => hs) ?_
  intro _ s hs
  exact post_pure hs

/-- it returns, and touches no schedule -/
def Returns (α : Type) (rows : List Schedule) (x : Except Exn α) (s : BenchWorld × Bool) : Prop :=
  (∃ a, x = .ok a) ∧ Untouched rows s

theorem post_startScheduled_kept {row : Schedule} {cluster : String} (hs : Untouched rows s) :
    Post (noting (serve b) fireWrites) (fun _ => True) (startScheduled lib cfg row cluster) (Returns _ rows) s := by
  refine post_tryCatch (post_bind (post_mono (post_start_kept hs) ?_))
  intro x s hs
  cases x with
  | ok run =>
    intro _
    exact ⟨⟨_, rfl⟩, hs⟩
  | error e => exact post_pure ⟨⟨_, rfl⟩, hs⟩

theorem post_startAll_kept {row : Schedule} {clusters : List String} (hs : Untouched rows s) :
    Post (noting (serve b) fireWrites) (fun _ => True) (startAll lib cfg row clusters) (Returns _ rows) s := by
  induction clusters generalizing s with
  | nil => exact post_pure ⟨⟨_, rfl⟩, hs⟩
  | cons cluster clusters ih =>
    refine post_bind (post_mono (post_startScheduled_kept hs) ?_)
    intro x s hx
    obtain ⟨⟨result, rfl⟩, hs⟩ := hx
    refine post_bind (post_mono (ih hs) ?_)
    intro y s hy
    obtain ⟨⟨others, rfl⟩, hs⟩ := hy
    cases result with
    | ok cluster => exact post_pure ⟨⟨_, rfl⟩, hs⟩
    | error refused => exact post_pure ⟨⟨_, rfl⟩, hs⟩

/-- **What a fire leaves.** It never raises, and it touches no other row. -/
theorem post_fire {row : Schedule} (hs : Untouched rows s) :
    Post (noting (serve b) fireWrites) (fun _ => True) (fire lib cfg row) (FireLeaves row rows) s := by
  refine post_bind (post_mono (post_startAll_kept hs) ?_)
  intro x s hx
  obtain ⟨⟨⟨started, refused⟩, rfl⟩, hs⟩ := hx
  refine post_bind (post_op ?_)
  intro o _
  refine post_bind (post_op ?_)
  intro o' _
  obtain ⟨hrows, hflag⟩ := hs
  refine post_pure ?_
  cases htaken : taken o'.inner.fault with
  | true =>
    refine .recorded started refused o.inner.now _ ?_ ?_
    · simp [noting, fireWrites, htaken]
    · simp [noting, serve, serveSettled, strike_taken, htaken, BenchWorld.settle, onRow, hrows]
  | false =>
    refine .unrecorded _ _ ?_ ?_
    · simp [noting, fireWrites, htaken, hflag]
    · simp [noting, serve, serveSettled, strike_taken, htaken, BenchWorld.settle, hrows]

end Fire

/-! ## The tick -/

section Tick

variable (lib : Lib) (cfg : BenchConfig) (b : Backend)

def claimIn (b : Backend) (now : ℤ) (rows : List Schedule) : List Schedule × List Schedule :=
  match b with
  | .memory => claimDue now rows
  | .postgres => claimDueSql now rows

/-- `claim_due`, by a store that may be down -/
def claim (now : ℤ) (fault : Fault) (w : BenchWorld) : Except String (List Schedule) × BenchWorld :=
  fault.strike (fun m => m) w (.ok (claimIn b now w.schedules).2, { w with schedules := (claimIn b now w.schedules).1 })

/-- one fire after the other, each with its own weather -/
def fireEach {β : Type} (one : List (Oracle Weather) → Schedule → Site BenchWorld → β × Site BenchWorld) :
    List (List (Oracle Weather)) → List Schedule → Site BenchWorld → List β × Site BenchWorld
  | _, [], site => ([], site)
  | weather, row :: rows, site =>
    let first := one (weather.headD []) row site
    let rest := fireEach one weather.tail rows first.2
    (first.1 :: rest.1, rest.2)

/-- a tick whose fires are `one`; a claim that fails is logged, and nothing is fired -/
def tickWith {β : Type} (one : List (Oracle Weather) → Schedule → Site BenchWorld → β × Site BenchWorld) (now : ℤ)
    (fault : Fault) (weather : List (List (Oracle Weather))) (site : Site BenchWorld) : List β × Site BenchWorld :=
  match claim b now fault site.service with
  | (.ok due, w) => fireEach one weather due ⟨w, site.log⟩
  | (.error _, w) => ([], ⟨w, site.log⟩)

def fireOnce (os : List (Oracle Weather)) (row : Schedule) (site : Site BenchWorld) : Except Exn Fired × Site BenchWorld :=
  Prog.run (handle (serve b)) os (fire lib cfg row) site

/-- `tick_schedules` -/
def tickSchedules (now : ℤ) (fault : Fault) (weather : List (List (Oracle Weather))) (site : Site BenchWorld) :
    List (Except Exn Fired) × Site BenchWorld :=
  tickWith b (fireOnce lib cfg b) now fault weather site

/-- a fire that is noted: whose it was, how it ended, and whether the store took its outcome -/
structure Noted where
  id : ℕ
  result : Except Exn Fired
  recorded : Bool

def fireNoted (os : List (Oracle Weather)) (row : Schedule) (site : Site BenchWorld) : Noted × Site BenchWorld :=
  let r := Prog.run (handle (noting (serve b) fireWrites)) os (fire lib cfg row) ⟨(site.service, false), site.log⟩
  (⟨row.id, r.1, r.2.service.2⟩, plain r.2)

theorem fireEach_site {β γ : Type} {one : List (Oracle Weather) → Schedule → Site BenchWorld → β × Site BenchWorld}
    {other : List (Oracle Weather) → Schedule → Site BenchWorld → γ × Site BenchWorld}
    (h : ∀ os row site, (one os row site).2 = (other os row site).2) (weather : List (List (Oracle Weather)))
    (rows : List Schedule) (site : Site BenchWorld) :
    (fireEach one weather rows site).2 = (fireEach other weather rows site).2 := by
  induction rows generalizing weather site with
  | nil => rfl
  | cons row rows ih =>
    simp only [fireEach]
    rw [h, ih]

/-- **A tick whose fires are noted** leaves what the tick leaves. -/
theorem tickNoted_site (now : ℤ) (fault : Fault) (weather : List (List (Oracle Weather))) (site : Site BenchWorld) :
    (tickWith b (fireNoted lib cfg b) now fault weather site).2 = (tickSchedules lib cfg b now fault weather site).2 := by
  have hone : ∀ os row site, (fireNoted lib cfg b os row site).2 = (fireOnce lib cfg b os row site).2 := by
    intro os row site
    exact (noting_plain (serve b) fireWrites os (fire lib cfg row) ⟨(site.service, false), site.log⟩).2
  unfold tickSchedules tickWith
  split
  · exact fireEach_site hone ..
  · rfl

/-- **A noted fire**, whatever the weather. -/
theorem fireNoted_leaves (os : List (Oracle Weather)) (row : Schedule) (site : Site BenchWorld) :
    FireLeaves row site.service.schedules (fireNoted lib cfg b os row site).1.result
      ((fireNoted lib cfg b os row site).2.service, (fireNoted lib cfg b os row site).1.recorded) :=
  post_run (A := fun _ => True) trivial (fun _ _ => trivial) (post_fire ⟨rfl, rfl⟩)

end Tick

/-! ## What is claimed -/

/-- the row a claim leaves -/
def Schedule.claimed (row : Schedule) (now : ℤ) : Schedule := if row.due now then row.moved now else row

theorem claimDue_eq (now : ℤ) (rows : List Schedule) : claimDue now rows =
    (rows.map fun row => row.claimed now, (rows.filter fun row => row.due now).map fun row => row.moved now) := by
  induction rows with
  | nil => rfl
  | cons row rows ih =>
    rw [claimDue, ih]
    by_cases hdue : row.due now = true
    · have hskip : (!row.enabled || decide (now < row.nextRunAt)) = false := by
        simpa [Schedule.due] using hdue
      simp [hskip, Schedule.claimed, hdue]
    · have hskip : (!row.enabled || decide (now < row.nextRunAt)) = true := by
        by_contra hcon
        apply hdue
        simpa [Schedule.due] using hcon
      simp [hskip, Schedule.claimed, hdue]

theorem claimIn_eq (b : Backend) (now : ℤ) (rows : List Schedule) : claimIn b now rows = claimDue now rows := by
  cases b with
  | memory => rfl
  | postgres => exact claimDueSql_eq now rows

/-! ## Deleting -/

/-- what deleting a schedule does outside the service's own memory; the runs it started keep their rows -/
inductive DropAct where
  | get (id : ℕ)
  | delete (id : ℕ)
deriving DecidableEq

@[reducible] def DropAct.Answer : DropAct → Type
  | .get _ => Except String (Option Schedule)
  | .delete _ => Except String Unit

/-- `delete_schedule` -/
def deleteSchedule (principal : Principal) (available : Bool) (id : ℕ) (reason : Option String) :
    M DropAct DropAct.Answer Unit := do
  requireAdmin principal adminMessage
  refuse (if available then none else some (.upstreamUnavailable schedulesMissing))
  let found ← lift storeUnavailable (← op (.get id))
  match found with
  | none => throw (.notFound ("No such schedule: " ++ toString id))
  | some row =>
    audited principal ⟨"BENCHMARK_SCHEDULE_CHANGE", "benchmark_query_set", row.name, none⟩ reason do
      lift storeUnavailable (← op (.delete id))

end TrinoManagement.Bench
