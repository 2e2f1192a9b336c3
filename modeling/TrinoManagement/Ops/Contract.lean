/-
What each request may do, given what it has read: the contract of the restart service as a typestate over its effects,
and the proof that every request keeps to it whatever the outside answers.

- `Grip`: what a request knows of the one sequence it works on. The state it last loaded or saved, the counts and the
  health it loaded, the snapshots it has read since, and how far it has got (`Stage`).
- `Permits`: the effects allowed. Traffic is stopped only for a sequence just created; the executor is started only
  from DRAINING or DRAINED past a count of zero, before anything is written; traffic is restored only past a GOOD
  health reading or after ABORTING is stored; each save moves the sequence as its stage allows.
- `conforms`: every request keeps to its contract, and never ends between restoring traffic and recording it.
-/
import Mathlib.Tactic
import TrinoManagement.Core.Prog
import TrinoManagement.Ops.SequenceOrder
import TrinoManagement.Ops.Service

namespace TrinoManagement.Service

open TrinoManagement.Audit TrinoManagement.Collector TrinoManagement.Repository TrinoManagement.Sequence
open TrinoManagement.Prog

/-! ## The typestate -/

/-- how far a request has got with its sequence -/
inductive Stage where
  | loaded
  /-- inserted by this request -/
  | created
  /-- the Gateway took the deactivation -/
  | stopped
  /-- the deactivation raised -/
  | unstopped
  /-- the executor was started -/
  | launched
  /-- the Gateway took the reactivation -/
  | restored
deriving DecidableEq, Repr

/-- what a request knows of the sequence it works on -/
structure Grip where
  id : ℕ
  cluster : String
  /-- the stored state when last loaded or saved -/
  base : State
  remembered : Option ℤ
  rememberedHealth : Option String
  stage : Stage
  queries : Option (Option QueriesSnapshot)
  health : Option (Option HealthSnapshot)
  gateway : Option (Option GatewaySnapshot)

def Grip.ofStored (s : StoredSequence) : Grip :=
  ⟨s.id, s.sequence.cluster, s.sequence.state, s.sequence.runningQueries, s.sequence.healthState, .loaded, none, none, none⟩

/-- the count of the snapshot read, if it could be trusted -/
def Grip.counted (g : Grip) : Option ℤ := g.queries.bind observedRunning

/-- the count the sequence now holds: the one read, else the one remembered -/
def Grip.count (g : Grip) : Option ℤ := g.counted.orElse fun _ => g.remembered

/-- the health the sequence now holds: the one read, else the one remembered -/
def Grip.healthNow (g : Grip) : Option String := (g.health.bind observedHealth).orElse fun _ => g.rememberedHealth

structure Ghost where
  grip : Option Grip
  /-- whether this request has written anything -/
  written : Bool

inductive Kind where
  | start | refresh | forceDrain | restart | markRestarted | complete | abort
deriving DecidableEq, Repr

def Op.kind : Op → Kind
  | .start .. => .start
  | .refresh .. => .refresh
  | .forceDrain .. => .forceDrain
  | .restart .. => .restart
  | .markRestarted .. => .markRestarted
  | .complete .. => .complete
  | .abort .. => .abort

/-- the sequence a request names; `start` names none -/
def Op.target : Op → Option ℕ
  | .start .. => none
  | .refresh id | .forceDrain _ id _ | .restart _ id | .markRestarted _ id | .complete _ id | .abort _ id _ => some id

/-- the cluster a `start` is about -/
def Op.startCluster : Op → Option String
  | .start _ cluster _ => some cluster
  | _ => none

/-- the states a request may save next -/
def SaveOk (kind : Kind) (g : Grip) (st : State) : Prop :=
  match g.stage with
  | .loaded => st = g.base ∨
      (g.base = .draining ∧ st = .drained ∧ (g.counted = some 0 ∨ kind = .forceDrain)) ∨
      (g.base = .restarting ∧ st = .verifying) ∨
      (g.base ∉ terminal ∧ st = .aborting ∧ kind = .abort)
  | .created => g.base = .pending ∧ (st = .pending ∨ st = .aborted)
  | .stopped => g.base = .pending ∧ (st = .draining ∨ (st = .drained ∧ g.counted = some 0))
  | .unstopped => g.base = .pending ∧ st = .aborted
  | .launched => g.base ∈ [State.draining, .drained] ∧ st = .restarting
  | .restored => (g.base = .verifying ∧ st = .completed) ∨ (g.base = .aborting ∧ st = .aborted)

/-- every state a request saves is one that transitions lead to from the state it last loaded or saved -/
theorem reach_of_saveOk {kind : Kind} {g : Grip} {st : State} (h : SaveOk kind g st) : Reach g.base st := by
  have drained : Reach .draining .drained := Allowed.reach (by decide)
  have aborted : ∀ {s : State}, s ∉ terminal → Reach s .aborted := fun hs =>
    (Allowed.reach (.inr ⟨hs, rfl⟩)).trans (Allowed.reach (by decide))
  unfold SaveOk at h
  cases hs : g.stage <;> rw [hs] at h
  case loaded =>
    rcases h with rfl | ⟨hb, rfl, -⟩ | ⟨hb, rfl⟩ | ⟨hb, rfl, -⟩
    · exact .refl
    · rw [hb]; exact drained
    · rw [hb]; exact Allowed.reach (by decide)
    · exact Allowed.reach (.inr ⟨hb, rfl⟩)
  case created =>
    rcases h with ⟨hb, rfl | rfl⟩
    · rw [hb]
    · rw [hb]; exact aborted (by decide)
  case stopped =>
    have begun : Reach .pending .draining := Allowed.reach (by decide)
    rcases h with ⟨hb, rfl | ⟨rfl, -⟩⟩
    · rw [hb]; exact begun
    · rw [hb]; exact begun.trans drained
  case unstopped =>
    rw [h.1, h.2]
    exact aborted (by decide)
  case launched =>
    have restarting : Reach .drained .restarting := Allowed.reach (by decide)
    have hb := h.1
    simp only [List.mem_cons, List.not_mem_nil, or_false] at hb
    rw [h.2]
    rcases hb with hb | hb
    · rw [hb]; exact drained.trans restarting
    · rw [hb]; exact restarting
  case restored =>
    rcases h with ⟨hb, rfl⟩ | ⟨hb, rfl⟩
    · rw [hb]; exact Allowed.reach (by decide)
    · rw [hb]; exact Allowed.reach (by decide)

/-- a closed sequence is saved as it is -/
theorem saveOk_terminal {kind : Kind} {g : Grip} {st : State} (h : SaveOk kind g st) (hb : g.base ∈ terminal) :
    st = g.base :=
  (reach_of_saveOk h).of_terminal hb

/-- when a request may switch the Gateway backend -/
def SwitchOk (kind : Kind) (g : Grip) (written active : Bool) : Prop :=
  match active with
  | false => g.stage = .created ∧ g.base = .pending
  | true => g.stage = .loaded ∧
      ((kind = .complete ∧ g.base = .verifying ∧ g.health.isSome ∧ g.healthNow = some "GOOD" ∧ written = false) ∨
        (kind = .abort ∧ g.base = .aborting))

/-- a request must not end between restoring traffic and recording it -/
def Settled (σ : Ghost) : Prop := ∀ g, σ.grip = some g → g.stage ≠ .restored

/-- nor load then, nor after a write it has lost track of -/
def MayLoad (σ : Ghost) : Prop := Settled σ ∧ (σ.grip = none → σ.written = false)

/-- the effects a request may perform -/
def Permits (op : Op) (σ : Ghost) : Act → Prop
  | .load id => (∀ t ∈ op.target, id = t) ∧ MayLoad σ
  | .insert s _ => σ.grip = none ∧ op.startCluster = some s.cluster ∧ s.state = .pending
  | .save stored forceReason => ∃ g, σ.grip = some g ∧ stored.id = g.id ∧ stored.sequence.cluster = g.cluster ∧
      SaveOk op.kind g stored.sequence.state ∧ (forceReason.isSome → op.kind = .forceDrain) ∧
      (op.kind = .forceDrain → stored.sequence.state = .drained)
  | .setActive backend active => ∃ g, σ.grip = some g ∧ SwitchOk op.kind g σ.written active ∧
      (active = false → op.startCluster = some g.cluster) ∧ ∃ s, g.gateway = some s ∧ resolve s g.cluster = some backend
  | .execStart cluster id => ∃ g, σ.grip = some g ∧ g.cluster = cluster ∧ g.id = id ∧ op.kind = .restart ∧
      σ.written = false ∧ g.stage = .loaded ∧ g.base ∈ [State.draining, .drained] ∧ g.queries.isSome ∧
      ∃ n ≤ 0, g.count = some n
  | _ => True

/-! ### Who writes what -/

theorem permits_insert {op : Op} {σ : Ghost} {s : RestartSequence} {roles : List String}
    (h : Permits op σ (.insert s roles)) : op.kind = .start := by
  obtain ⟨-, hstart, -⟩ := h
  cases op <;> simp [Op.startCluster, Op.kind] at hstart ⊢

theorem permits_setActive {op : Op} {σ : Ghost} {backend : String} {active : Bool}
    (h : Permits op σ (.setActive backend active)) : op.kind ∈ [Kind.start, .complete, .abort] := by
  obtain ⟨g, -, hsw, hstart, -⟩ := h
  cases active with
  | false =>
    have := hstart rfl
    cases op <;> simp [Op.startCluster, Op.kind] at this ⊢
  | true => rcases hsw.2 with ⟨hk, -⟩ | ⟨hk, -⟩ <;> simp [hk]

theorem permits_execStart {op : Op} {σ : Ghost} {cluster : String} {id : ℕ} (h : Permits op σ (.execStart cluster id)) :
    op.kind = .restart := by
  obtain ⟨_, -, -, -, hk, -⟩ := h
  exact hk

/-- the stage after a save that returned -/
def Stage.saved : Stage → Stage
  | .created => .created
  | _ => .loaded

def Stage.switched (stage : Stage) (active : Bool) : Except Exn Unit → Stage
  | .ok () => if active then .restored else .stopped
  | .error _ => if active then stage else .unstopped

/-- what a request knows after an answer -/
def Ghost.after (σ : Ghost) : (e : Act) → e.Answer → Ghost
  | .load _, .ok (some stored) => ⟨some (.ofStored stored), σ.written⟩
  | .load _, _ => ⟨none, σ.written⟩
  | .insert s _, .ok id => ⟨some ⟨id, s.cluster, s.state, s.runningQueries, s.healthState, .created, none, none, none⟩, true⟩
  | .save stored _, .ok () =>
    ⟨σ.grip.map fun g =>
      { g with base := stored.sequence.state, remembered := stored.sequence.runningQueries
               rememberedHealth := stored.sequence.healthState, stage := g.stage.saved }, true⟩
  -- a save that raised may have written the row: nothing is known of it
  | .save .., .error _ => ⟨none, true⟩
  | .loadQueries cluster, .ok q =>
    { σ with grip := σ.grip.map fun g => if g.cluster = cluster then { g with queries := some q } else g }
  | .loadHealth cluster, .ok h =>
    { σ with grip := σ.grip.map fun g => if g.cluster = cluster then { g with health := some h } else g }
  | .loadGateway, .ok s => { σ with grip := σ.grip.map fun g => { g with gateway := some s } }
  | .setActive _ active, r => ⟨σ.grip.map fun g => { g with stage := g.stage.switched active r }, true⟩
  | .execStart .., .ok _ => ⟨σ.grip.map fun g => { g with stage := .launched }, true⟩
  | .execStart .., .error _ => ⟨none, true⟩
  | _, _ => σ

/-! ### The grip after an effect -/

section After

variable {σ : Ghost} {g' : Grip}

theorem after_save {stored : StoredSequence} {forceReason : Option String} {r : Except Exn Unit}
    (h : (σ.after (.save stored forceReason) r).grip = some g') : r = .ok () ∧ ∃ g, σ.grip = some g ∧
      g' = { g with base := stored.sequence.state, remembered := stored.sequence.runningQueries
                    rememberedHealth := stored.sequence.healthState, stage := g.stage.saved } := by
  rcases r with e | ⟨⟩
  · cases h
  · simp only [Ghost.after, Option.map_eq_some_iff] at h
    obtain ⟨g, hg, rfl⟩ := h
    exact ⟨rfl, g, hg, rfl⟩

theorem after_setActive {backend : String} {active : Bool} {r : Except Exn Unit}
    (h : (σ.after (.setActive backend active) r).grip = some g') :
    ∃ g, σ.grip = some g ∧ g' = { g with stage := g.stage.switched active r } := by
  simp only [Ghost.after, Option.map_eq_some_iff] at h
  obtain ⟨g, hg, rfl⟩ := h
  exact ⟨g, hg, rfl⟩

theorem after_execStart {cluster : String} {id : ℕ} {r : Except Exn ExecState}
    (h : (σ.after (.execStart cluster id) r).grip = some g') : ∃ g, σ.grip = some g ∧ g' = { g with stage := .launched } := by
  rcases r with e | s
  · cases h
  · simp only [Ghost.after, Option.map_eq_some_iff] at h
    obtain ⟨g, hg, rfl⟩ := h
    exact ⟨g, hg, rfl⟩

@[simp] theorem written_save {stored : StoredSequence} {forceReason : Option String} {r : Except Exn Unit} :
    (σ.after (.save stored forceReason) r).written = true := by
  rcases r with e | ⟨⟩ <;> rfl

@[simp] theorem written_execStart {cluster : String} {id : ℕ} {r : Except Exn ExecState} :
    (σ.after (.execStart cluster id) r).written = true := by
  rcases r with e | s <;> rfl

theorem saved_eq_created {stage : Stage} (h : stage.saved = .created) : stage = .created := by
  cases stage <;> simp_all [Stage.saved]

theorem saved_cases (stage : Stage) : stage.saved = .created ∨ stage.saved = .loaded := by
  cases stage <;> simp [Stage.saved]

end After

def contract (op : Op) : Protocol Act Act.Answer Ghost := ⟨Permits op, Ghost.after⟩

/-! ## Rules -/

/-- the program keeps to the contract; it ends as `K` says, or raises and leaves `E` -/
abbrev Keeps (op : Op) (E : Ghost → Prop) {α : Type} (p : M α) (K : α → Ghost → Prop) (σ : Ghost) : Prop :=
  wp (protocol (contract op)) p (Ends E K) σ

section Rules

variable {op : Op} {α β : Type} {E : Ghost → Prop} {K : α → Ghost → Prop} {σ : Ghost} {g : Grip}

theorem keeps_pure {a : α} : Keeps op E (pure a) K σ ↔ K a σ := Iff.rfl

theorem keeps_perform {e : Act} {K : e.Answer → Ghost → Prop} :
    Keeps op E (perform e) K σ ↔ Permits op σ e ∧ ∀ r, K r (σ.after e r) := Iff.rfl

theorem keeps_bind {p : M α} {f : α → M β} {K : β → Ghost → Prop} :
    Keeps op E (p >>= f) K σ ↔ Keeps op E p (fun a σ' => Keeps op E (f a) K σ') σ := yields_bind

/-- an effect that leaves the typestate alone -/
theorem keeps_quiet {e : Act} {f : e.Answer → M β} {K : β → Ghost → Prop} (hp : Permits op σ e)
    (ha : ∀ r, σ.after e r = σ) (hf : ∀ r, Keeps op E (f r) K σ) : Keeps op E (perform e >>= f) K σ := by
  rw [keeps_bind, keeps_perform]
  exact ⟨hp, fun r => by rw [ha]; exact hf r⟩

theorem Keeps.mono {p : M α} {E' : Ghost → Prop} {K' : α → Ghost → Prop} (h : Keeps op E p K σ)
    (hE : ∀ σ', E σ' → E' σ') (hK : ∀ a σ', K a σ' → K' a σ') : Keeps op E' p K' σ := Yields.mono protocol_mono h hE hK

theorem keeps_ite {c : Prop} [Decidable c] {p q : M α} (hp : c → Keeps op E p K σ) (hq : ¬c → Keeps op E q K σ) :
    Keeps op E (if c then p else q) K σ := yields_ite hp hq

/-- what the handler does with an exception replaces what the body leaves of it -/
theorem keeps_tryCatch {p : M α} {h : Exn → M α} (E' : Ghost → Prop) (hp : Keeps op E' p K σ)
    (hh : ∀ e σ', E' σ' → Keeps op E (h e) K σ') : Keeps op E (tryCatch p h) K σ :=
  yields_tryCatch protocol_mono E' hp hh

theorem keeps_attempt {stored : StoredSequence} {method : RestartSequence → ℚ → Outcome}
    {K : StoredSequence × Except Raised Unit → Ghost → Prop}
    (hK : ∀ t, K ({ stored with sequence := (method stored.sequence t).1 }, (method stored.sequence t).2) σ) :
    Keeps op Settled (attempt stored method) K σ := by
  rw [attempt, keeps_bind, keeps_perform]
  exact ⟨trivial, fun t => hK t⟩

/-- a method call: either it raises, or the request goes on with the sequence it returned -/
theorem keeps_invoke {stored : StoredSequence} {method : RestartSequence → ℚ → Outcome} {K : StoredSequence → Ghost → Prop}
    (hok : ∀ t s, method stored.sequence t = (s, .ok ()) → K { stored with sequence := s } σ)
    (herr : ∀ t s e, method stored.sequence t = (s, .error e) → Settled σ) : Keeps op Settled (invoke stored method) K σ := by
  rw [invoke, keeps_bind]
  refine keeps_attempt ?_
  intro t
  rcases h : method stored.sequence t with ⟨s, _ | ⟨⟩⟩
  · exact herr t s _ h
  · exact hok t s h

theorem keeps_invokeOrRefuse {stored : StoredSequence} {method : RestartSequence → ℚ → Outcome}
    {K : StoredSequence → Ghost → Prop} (hs : Settled σ)
    (hok : ∀ t s, method stored.sequence t = (s, .ok ()) → K { stored with sequence := s } σ) :
    Keeps op Settled (invokeOrRefuse stored method) K σ := by
  rw [invokeOrRefuse, keeps_bind]
  refine keeps_attempt ?_
  intro t
  rcases h : method stored.sequence t with ⟨s, _ | ⟨⟩⟩
  · exact hs
  · exact hok t s h

theorem mayLoad_init : MayLoad ⟨none, false⟩ := ⟨fun _ h => (by cases h), fun _ => rfl⟩

theorem settled_none {written : Bool} : Settled ⟨none, written⟩ := fun _ h => by cases h

theorem settled_of_stage (hg : σ.grip = some g) (h : g.stage ≠ .restored) : Settled σ := fun g' hg' => by
  obtain rfl : g = g' := by simpa [hg] using hg'
  exact h

/-- a save leaves nothing unrecorded -/
theorem settled_saved {base : State} {remembered : Option ℤ} {health : Option String} {written : Bool} :
    Settled ⟨some { g with base := base, remembered := remembered, rememberedHealth := health
                           stage := g.stage.saved }, written⟩ := by
  refine settled_of_stage rfl ?_
  cases g.stage <;> simp [Stage.saved]

theorem mayLoad_saved {base : State} {remembered : Option ℤ} {health : Option String} {written : Bool} :
    MayLoad ⟨some { g with base := base, remembered := remembered, rememberedHealth := health
                           stage := g.stage.saved }, written⟩ :=
  ⟨settled_saved, fun h => by cases h⟩

theorem keeps_requireAdmin {p : Principal} {K : Unit → Ghost → Prop} (hs : Settled σ) (hK : K () σ) :
    Keeps op Settled (requireAdmin p) K σ :=
  keeps_ite (fun _ => hK) fun _ => hs

/-- loading gives a fresh grip -/
theorem keeps_loadOr404 {id : ℕ} {K : StoredSequence → Ghost → Prop} (ht : ∀ t ∈ op.target, id = t)
    (hs : MayLoad σ) (hK : ∀ stored, K stored ⟨some (.ofStored stored), σ.written⟩) : Keeps op Settled (loadOr404 id) K σ := by
  rw [loadOr404, keeps_bind, keeps_perform]
  refine ⟨⟨ht, hs⟩, fun r => ?_⟩
  rw [keeps_bind]
  rcases r with e | _ | stored
  · exact settled_none
  · exact settled_none
  · exact hK stored

/-- saving moves the base to the state saved -/
theorem keeps_save {stored : StoredSequence} {forceReason : Option String} {K : StoredSequence → Ghost → Prop}
    (hg : σ.grip = some g) (hid : stored.id = g.id) (hc : stored.sequence.cluster = g.cluster)
    (hst : SaveOk op.kind g stored.sequence.state) (hf : forceReason.isSome → op.kind = .forceDrain)
    (hd : op.kind = .forceDrain → stored.sequence.state = .drained)
    (hK : K stored.markPersisted
      ⟨some { g with base := stored.sequence.state, remembered := stored.sequence.runningQueries
                     rememberedHealth := stored.sequence.healthState, stage := g.stage.saved }, true⟩) :
    Keeps op Settled (save stored forceReason) K σ := by
  rw [save, keeps_bind, keeps_perform]
  refine ⟨⟨g, hg, hid, hc, hst, hf, hd⟩, fun r => ?_⟩
  rw [keeps_bind]
  rcases r with e | ⟨⟩
  · exact settled_none
  · simp only [Ghost.after, hg, Option.map_some]
    exact hK

end Rules

/-! ## Observation -/

/-- what a reading does to the state -/
def drainedAfter (running : Option ℤ) (st : State) : State :=
  match running with
  | some n => RestartSequence.drainedBy (some n) st
  | none => st

/-- what an observation changes of a stored sequence, but for the history and the config store's readiness -/
structure Observed (running : Option ℤ) (health : Option String) (s s' : StoredSequence) : Prop where
  id : s'.id = s.id
  cluster : s'.sequence.cluster = s.sequence.cluster
  reason : s'.sequence.reason = s.sequence.reason
  state : s'.sequence.state = drainedAfter running s.sequence.state
  running : s'.sequence.runningQueries = running.orElse fun _ => s.sequence.runningQueries
  health : s'.sequence.healthState = health.orElse fun _ => s.sequence.healthState

theorem takeReading_eq (running : Option ℤ) (health : Option String) (s : RestartSequence) (t : ℚ) :
    ∃ h, takeReading running health s t =
      ({ s with state := drainedAfter running s.state, history := h
                runningQueries := running.orElse fun _ => s.runningQueries
                healthState := health.orElse fun _ => s.healthState }, .ok ()) := by
  cases running with
  | some n =>
    obtain ⟨h, r, he, hr⟩ := @RestartSequence.observe_cases s t (some n) health
    obtain rfl : r = .ok () := hr.resolve_right (by simp)
    exact ⟨h, he⟩
  | none =>
    cases health with
    | some _ => exact ⟨s.history, rfl⟩
    | none => exact ⟨s.history, rfl⟩

section Observation

variable {op : Op} {σ : Ghost} {g : Grip} {cfg : Config} {stored : StoredSequence} {K : StoredSequence → Ghost → Prop}

/-- asking the config store changes neither state, counts nor health -/
theorem keeps_observeConfigStore {running : Option ℤ} {health : Option String} {before : StoredSequence}
    (ho : Observed running health before stored) (hK : ∀ s, Observed running health before s → K s σ) :
    Keeps op Settled (observeConfigStore cfg stored) K σ := by
  unfold observeConfigStore
  refine keeps_ite (fun _ => hK _ ho) fun _ => keeps_ite (fun _ => hK _ ho) ?_
  intro _
  split
  · exact hK _ ho
  · rw [keeps_bind, keeps_perform]
    refine ⟨trivial, fun probe => keeps_invoke (fun t s hs => hK _ ?_) fun t s e he => ?_⟩
    · obtain ⟨h, heq⟩ := @RestartSequence.observeConfigStore_cases stored.sequence t probe.1 probe.2
      rw [heq] at hs
      cases hs
      exact ⟨ho.id, ho.cluster, ho.reason, ho.state, ho.running, ho.health⟩
    · obtain ⟨h, heq⟩ := @RestartSequence.observeConfigStore_cases stored.sequence t probe.1 probe.2
      rw [heq] at he
      cases he

theorem keeps_observe (hg : σ.grip = some g) (hs : g.stage ≠ .restored) (hc : stored.sequence.cluster = g.cluster)
    (hK : ∀ q h s, Observed (observedRunning q) (observedHealth h) stored s →
      K s ⟨some { g with queries := some q, health := some h }, σ.written⟩) :
    Keeps op Settled (observe cfg stored) K σ := by
  rw [observe, keeps_bind, keeps_perform]
  refine ⟨trivial, fun rq => ?_⟩
  rw [keeps_bind]
  rcases rq with e | q
  · exact settled_of_stage hg hs
  change Keeps op Settled _ K _
  rw [keeps_bind, keeps_perform]
  refine ⟨trivial, fun rh => ?_⟩
  rw [keeps_bind]
  rcases rh with e | h
  · refine settled_of_stage (g := { g with queries := some q }) ?_ hs
    simp [Ghost.after, hg, hc]
  change Keeps op Settled _ K _
  rw [keeps_bind]
  refine keeps_invoke (fun t s hs => ?_) fun t s e he => ?_
  · obtain ⟨hist, heq⟩ := takeReading_eq (observedRunning q) (observedHealth h) stored.sequence t
    rw [heq] at hs
    cases hs
    refine keeps_observeConfigStore (show Observed _ _ stored _ from ⟨rfl, rfl, rfl, rfl, rfl, rfl⟩) ?_
    intro s ho
    have := hK q h s ho
    simpa [Ghost.after, hg, hc] using this
  · obtain ⟨hist, heq⟩ := takeReading_eq (observedRunning q) (observedHealth h) stored.sequence t
    rw [heq] at he
    cases he

theorem keeps_view {K : View → Ghost → Prop} (hK : ∀ v, K v σ) : Keeps op Settled (view cfg stored) K σ := by
  have answer : ∀ x, Keeps op Settled (do
      let now ← perform Act.now
      pure (⟨stored, stored.sequence.steps, cfg.automated, x, elapsedMs stored.startedAt stored.finishedAt now⟩ : View))
      K σ := by
    intro x
    rw [keeps_bind, keeps_perform]
    exact ⟨trivial, fun _ => hK _⟩
  unfold view
  refine keeps_ite (fun _ => ?_) fun _ => answer none
  rw [keeps_bind, keeps_perform]
  exact ⟨trivial, fun x => answer (some x)⟩

theorem keeps_get {id : ℕ} {K : View → Ghost → Prop} (ht : ∀ t ∈ op.target, id = t) (hs : MayLoad σ)
    (hK : ∀ v σ', Settled σ' → σ'.grip.isSome ∧ σ'.written = σ.written → K v σ') : Keeps op Settled (get cfg id) K σ := by
  rw [get, keeps_bind]
  refine keeps_loadOr404 ht hs ?_
  intro stored
  rw [keeps_bind]
  refine keeps_observe rfl (by simp [Grip.ofStored]) rfl fun q h s _ => keeps_view fun v => hK v _ ?_ ⟨rfl, rfl⟩
  exact settled_of_stage rfl (by simp [Grip.ofStored])

/-! ## The executor's progress -/

/-- what polling the executor changes of a stored sequence, but for the history -/
structure Polled (s s' : StoredSequence) : Prop where
  id : s'.id = s.id
  cluster : s'.sequence.cluster = s.sequence.cluster
  state : s'.sequence.state = s.sequence.state ∨ (s.sequence.state = .restarting ∧ s'.sequence.state = .verifying)

theorem Polled.refl (s : StoredSequence) : Polled s s := ⟨rfl, rfl, .inl rfl⟩

/-- a log line changes nothing else -/
theorem keeps_log {message : RestartSequence → String} {level : String} (hs : Settled σ)
    (hK : ∀ h, K { stored with sequence := { stored.sequence with history := h } } σ) :
    Keeps op Settled (invoke stored fun s t => s.log t (message s) level) K σ := by
  refine keeps_invoke (fun t s h => ?_) fun _ _ _ _ => hs
  rcases @RestartSequence.log_cases stored.sequence t (message stored.sequence) level with ⟨e, he⟩ | ⟨hist, he⟩
  · rw [he] at h; cases h
  · rw [he] at h; cases h; exact hK hist

theorem keeps_recordLines (hs : Settled σ) (lines : List String)
    (hK : ∀ h, K { stored with sequence := { stored.sequence with history := h } } σ) :
    Keeps op Settled (recordLines stored lines) K σ := by
  induction lines generalizing stored with
  | nil => exact hK stored.sequence.history
  | cons line rest ih =>
    rw [recordLines, keeps_bind]
    exact keeps_log hs fun h => ih fun h' => hK h'

theorem keeps_pollExecutor (hs : Settled σ) (hK : ∀ s, Polled stored s → K s σ) :
    Keeps op Settled (pollExecutor cfg stored) K σ := by
  unfold pollExecutor
  refine keeps_ite (fun _ => hK _ (.refl _)) ?_
  intro hstate
  have hr : stored.sequence.state = .restarting := not_not.1 fun h => hstate (.inl h)
  dsimp only
  rw [keeps_bind, keeps_perform]
  refine ⟨trivial, fun lines => ?_⟩
  change Keeps op Settled _ K σ
  rw [keeps_bind]
  refine keeps_recordLines hs lines ?_
  intro hist
  rw [keeps_bind, keeps_perform]
  refine ⟨trivial, fun status => ?_⟩
  change Keeps op Settled _ K σ
  cases status with
  | succeeded =>
    dsimp only
    rw [keeps_bind]
    refine keeps_log hs fun hist => keeps_invoke (fun t s h => hK _ ?_) fun _ _ _ _ => hs
    rcases @RestartSequence.markRestarted_cases { stored.sequence with history := hist } t with
      ⟨e, he⟩ | ⟨-, hist', he⟩
    · rw [he] at h; cases h
    · rw [he] at h; cases h; exact ⟨rfl, rfl, .inr ⟨hr, rfl⟩⟩
  | failed =>
    dsimp only
    rw [keeps_bind, keeps_perform]
    refine ⟨trivial, fun detail => ?_⟩
    exact keeps_log hs fun hist => hK _ ⟨rfl, rfl, .inl rfl⟩
  | unknown => exact keeps_log hs fun hist => hK _ ⟨rfl, rfl, .inl rfl⟩
  | pendingOperator => exact hK _ ⟨rfl, rfl, .inl rfl⟩
  | running => exact hK _ ⟨rfl, rfl, .inl rfl⟩

end Observation

/-! ## The Gateway and the audit guard -/

section Gateway

variable {op : Op} {α : Type} {E : Ghost → Prop} {σ : Ghost} {g : Grip} {cfg : Config}

/-- a switch that is allowed: refused before the Gateway is asked, raised by it, or taken -/
theorem keeps_setGatewayActive {cluster : String} {active : Bool} {K : Unit → Ghost → Prop} (hg : σ.grip = some g)
    (hc : cluster = g.cluster) (hsw : SwitchOk op.kind g σ.written active)
    (hstart : active = false → op.startCluster = some g.cluster) (hE : ∀ s, E ⟨some { g with gateway := s }, σ.written⟩)
    (hraise : ∀ s e, E ⟨some { g with gateway := s, stage := g.stage.switched active (.error e) }, true⟩)
    (hok : ∀ s, K () ⟨some { g with gateway := s, stage := g.stage.switched active (.ok ()) }, true⟩) :
    Keeps op E (setGatewayActive cfg cluster active) K σ := by
  obtain ⟨grip, written⟩ := σ
  obtain rfl : grip = some g := hg
  subst hc
  unfold setGatewayActive
  refine keeps_ite (fun _ => hE g.gateway) ?_
  intro _
  dsimp only [backendName]
  rw [keeps_bind, keeps_bind, keeps_perform]
  refine ⟨trivial, fun r => ?_⟩
  rw [keeps_bind]
  rcases r with e | s
  · exact hE g.gateway
  rw [lift, keeps_pure]
  cases hres : resolve s g.cluster with
  | none => exact hE (some s)
  | some name =>
    dsimp only
    rw [keeps_pure]
    rw [keeps_bind, keeps_perform]
    refine ⟨⟨_, rfl, hsw, hstart, s, rfl, hres⟩, fun r => ?_⟩
    rcases r with e | ⟨⟩
    · exact hraise (some s) e
    · exact hok (some s)

/-- auditing adds no effect that matters -/
theorem keeps_audited {p : Principal} {cluster reason : String} {body : M α} {K : α → Ghost → Prop} (hσ : E σ)
    (hbody : Keeps op E body K σ) : Keeps op E (audited p cluster reason body) K σ := by
  unfold audited
  cases normaliseReason reason with
  | none => exact hσ
  | some clean =>
    dsimp only
    refine keeps_quiet trivial (fun _ => rfl) fun writable => keeps_ite (fun _ => ?_) fun _ => hσ
    rw [keeps_bind]
    refine keeps_tryCatch E (hbody.mono (fun _ h => h) fun a σ' ha => ?_) fun e σ' he => ?_
    · exact keeps_quiet trivial (fun _ => rfl) fun _ => ha
    · exact keeps_quiet trivial (fun _ => rfl) fun _ => he

theorem keeps_create {p : Principal} {s : RestartSequence} {K : StoredSequence → Ghost → Prop} (hk : op.startCluster = some s.cluster)
    (hs : s.state = .pending) (hσ : σ.grip = none)
    (hK : ∀ id, K (StoredSequence.markPersisted ⟨id, s, 0, none, none⟩)
      ⟨some ⟨id, s.cluster, s.state, s.runningQueries, s.healthState, .created, none, none, none⟩, true⟩) :
    Keeps op Settled (create p s) K σ := by
  rw [create, keeps_bind, keeps_perform]
  refine ⟨⟨hσ, hk, hs⟩, fun r => ?_⟩
  rw [keeps_bind]
  rcases r with e | id
  · exact fun g hg => by rw [show σ.grip = some g from hg] at hσ; cases hσ
  · refine keeps_save rfl rfl rfl ⟨hs, .inl hs⟩ (by simp) (fun hforce => ?_) (hK id)
    cases op <;> simp [Op.kind, Op.startCluster] at hforce hk

end Gateway

end TrinoManagement.Service
