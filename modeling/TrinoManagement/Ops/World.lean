/-
The restart service with everything around it: the stored sequences, the stored snapshots, the live Gateway and a
record of what happened. A request runs to completion against `handle`; between requests the clock is read, the
collector stores snapshots, and other people may edit the Gateway.

- `Oracle`: what the outside does at one effect (a database fault, the Gateway's answer, the executor's). The default
  oracle lets everything succeed.
- `GatewayAnswer.appliedThenRaised`: a call the Gateway applied and that still raised, as a timeout does.
- `handle_quiet`: an effect that writes nothing leaves all but the audit log as it was.
-/
import Mathlib.Tactic
import TrinoManagement.Core.Run
import TrinoManagement.Ops.Service

namespace TrinoManagement.Service

open TrinoManagement.Audit TrinoManagement.Collector TrinoManagement.Repository TrinoManagement.Sequence

/-! ## State -/

/-- what happened, for the record; the newest comes first in a trace -/
inductive Event where
  | called (op : Op)
  | storedQueries (s : QueriesSnapshot)
  | storedHealth (s : HealthSnapshot)
  | created (id : ℕ) (cluster : String)
  /-- an UPDATE took effect; `forced` when it carried a force reason and the save returned -/
  | saved (id : ℕ) (state : State) (finishedAt : Option ℚ) (forced : Bool) (at_ : ℚ)
  /-- the Gateway applied a switch -/
  | switched (backend : String) (active : Bool) (at_ : ℚ)
  /-- `executor.start` was called -/
  | launched (cluster : String) (id : ℕ) (at_ : ℚ)
deriving DecidableEq

structure World where
  now : ℚ
  rows : List Row
  queries : String → Option QueriesSnapshot
  health : String → Option HealthSnapshot
  gateway : Option GatewaySnapshot
  /-- the live Gateway -/
  backends : List Backend
  auditLog : List AuditRecord
  trace : List Event

/-- nothing stored yet -/
def World.init (now : ℚ) (backends : List Backend) : World :=
  ⟨now, [], fun _ => none, fun _ => none, none, backends, [], []⟩

/-- the deployment with the repository behind it, Python's `str.lower` and the staleness threshold -/
structure Env extends Config where
  storage : Storage
  lower : String → String
  staleThreshold : ℚ

/-! ## The outside -/

inductive GatewayAnswer where
  | applied
  | refused (className message : String)
  | appliedThenRaised (className message : String)
deriving DecidableEq, Repr, Inhabited

structure Oracle where
  /-- a database fault; it means nothing to the in-memory repository -/
  fault : Option Fault
  gateway : GatewayAnswer
  auditWritable : Bool
  probe : Option Bool × String
  preflight : Option String
  execStart : Except (String × String) ExecState
  execStatus : ExecState
  lines : List String
  execError : Option String
deriving DecidableEq

/-- everything works, and a human restarts the cluster -/
def Oracle.serves : Oracle :=
  ⟨none, .applied, true, (none, ""), none, .ok .pendingOperator, .pendingOperator, [], none⟩

instance : Inhabited Oracle := ⟨.serves⟩

section Handler

variable (env : Env) (o : Oracle)

/-- a read through the repositories -/
def readStore {α : Type} (a : α) : Except Exn α :=
  match env.storage, o.fault with
  | .postgres, some f => .error (.sequenceUnavailable f.text)
  | _, _ => .ok a

def World.switch (w : World) (backend : String) (active : Bool) : World :=
  { w with backends := setActive backend active w.backends, trace := .switched backend active w.now :: w.trace }

def insertRow (s : RestartSequence) (roles : List String) (w : World) : Except Exn ℕ × World :=
  if hasActive w.rows s.cluster then
    (.error (.activeSequenceExists ("a restart of " ++ s.cluster ++ " is already in progress")), w)
  else
    match readStore env o () with
    | .error e => (.error e, w)
    | .ok () =>
      (.ok w.rows.length,
        { w with rows := w.rows ++ [newRow w.now s roles], trace := .created w.rows.length s.cluster :: w.trace })

def saveSequence (stored : StoredSequence) (forceReason : Option String) (w : World) : Except Exn Unit × World :=
  let r := saveRow env.storage w.now o.fault w.rows stored forceReason
  let answer : Except Exn Unit := match r.1 with
    | .ok () => .ok ()
    | .error text => .error (.sequenceUnavailable text)
  match r.2 with
  | none => (answer, w)
  | some row =>
    (answer, { w with rows := w.rows.set stored.id row
                      trace := .saved stored.id row.state row.finishedAt (forceReason.isSome && r.1.isOk) w.now ::
                        w.trace })

def switchBackend (backend : String) (active : Bool) (w : World) : Except Exn Unit × World :=
  match o.gateway with
  | .applied => (.ok (), w.switch backend active)
  | .refused c m => (.error (.client c m), w)
  | .appliedThenRaised c m => (.error (.client c m), w.switch backend active)

def startAnswer : Except Exn ExecState :=
  match o.execStart with
  | .error (c, m) => .error (.client c m)
  | .ok s => .ok s

/-- one effect -/
def handle : (e : Act) → World → e.Answer × World
  | .now, w => (w.now, w)
  | .load id, w => (readStore env o (load env.storage w.rows id), w)
  | .insert s roles, w => insertRow env o s roles w
  | .save stored forceReason, w => saveSequence env o stored forceReason w
  | .loadQueries cluster, w => (readStore env o (w.queries cluster), w)
  | .loadHealth cluster, w => (readStore env o (w.health cluster), w)
  | .loadGateway, w => (readStore env o w.gateway, w)
  | .probe _, w => (o.probe, w)
  | .auditWritable, w => (o.auditWritable, w)
  | .auditWrite record, w => ((), { w with auditLog := w.auditLog ++ [record] })
  | .preflight _, w =>
    (match o.preflight with
      | some m => .error (.client "AnsibleError" m)
      | none => .ok (), w)
  | .setActive backend active, w => switchBackend o backend active w
  | .execStart cluster id, w => (startAnswer o, { w with trace := .launched cluster id w.now :: w.trace })
  | .execStatus .., w => (o.execStatus, w)
  | .linesSince .., w => (o.lines, w)
  | .execResult _, w => (o.execError, w)

end Handler

/-! ## Runs -/

inductive Label where
  /-- a request, with what the outside does at each of its effects -/
  | call (op : Op) (oracles : List Oracle)
  /-- the clock is read -/
  | clock (t : ℚ)
  | storeQueries (s : QueriesSnapshot)
  | storeHealth (s : HealthSnapshot)
  /-- the Gateway poller stores what it finds, or that it found nothing -/
  | pollGateway (answers : Bool)
  /-- somebody else changes the Gateway -/
  | editGateway (backends : List Backend)

def World.called (w : World) (op : Op) : World := { w with trace := .called op :: w.trace }

def step (env : Env) (w : World) : Label → World
  | .call op oracles => (Prog.run (handle env) oracles (op.prog env.toConfig) (w.called op)).2
  | .clock t => { w with now := t }
  | .storeQueries s =>
    { w with queries := Function.update w.queries s.cluster (some s), trace := .storedQueries s :: w.trace }
  | .storeHealth s =>
    { w with health := Function.update w.health s.cluster (some s), trace := .storedHealth s :: w.trace }
  | .pollGateway answers =>
    { w with gateway := some (pollGateway env.lower env.clusters w.now
        (if answers then .ok w.backends else .error ("TrinoUnavailable", none))) }
  | .editGateway backends => { w with backends := backends }

theorem step_refused {env : Env} {w : World} {op : Op} (h : op.admitted = false) (os : List Oracle) :
    step env w (.call op os) = w.called op := by
  rw [step, prog_refused h]
  rfl

/-! ## What an effect can do

A quiet effect leaves all but the audit log as it was; each of the others has its one inversion lemma. -/

/-- the effects that change something outside -/
def Act.writes : Act → Bool
  | .insert .. | .save .. | .setActive .. | .execStart .. => true
  | _ => false

/-- the same but for the audit log -/
def SameButAudit (w w' : World) : Prop := w' = { w with auditLog := w'.auditLog }

namespace SameButAudit

variable {w w' w'' : World}

theorem refl (w : World) : SameButAudit w w := rfl

theorem trans (h : SameButAudit w w') (h' : SameButAudit w' w'') : SameButAudit w w'' := by rw [h', h]; rfl

theorem now (h : SameButAudit w w') : w'.now = w.now := by rw [h]
theorem rows (h : SameButAudit w w') : w'.rows = w.rows := by rw [h]
theorem queries (h : SameButAudit w w') : w'.queries = w.queries := by rw [h]
theorem health (h : SameButAudit w w') : w'.health = w.health := by rw [h]
theorem gateway (h : SameButAudit w w') : w'.gateway = w.gateway := by rw [h]
theorem backends (h : SameButAudit w w') : w'.backends = w.backends := by rw [h]
theorem trace (h : SameButAudit w w') : w'.trace = w.trace := by rw [h]

end SameButAudit

section Effects

variable {env : Env} {o : Oracle} {w : World}

theorem handle_quiet {e : Act} (h : e.writes = false) : SameButAudit w (handle env o e w).2 := by
  cases e <;> first | rfl | simp [Act.writes] at h

theorem insertRow_cases {s : RestartSequence} {roles : List String} :
    (∃ e, insertRow env o s roles w = (.error e, w)) ∨
    (hasActive w.rows s.cluster = false ∧ insertRow env o s roles w = (.ok w.rows.length,
      { w with rows := w.rows ++ [newRow w.now s roles], trace := .created w.rows.length s.cluster :: w.trace })) := by
  unfold insertRow
  split_ifs with h
  · exact .inl ⟨_, rfl⟩
  · split
    · exact .inl ⟨_, rfl⟩
    · exact .inr ⟨by simpa using h, rfl⟩

/-- a save writes nothing and raises, or writes the row and records it; one that carried a force reason is recorded as
forced only if it returned -/
theorem saveSequence_cases {stored : StoredSequence} {forceReason : Option String} :
    (∃ e, saveSequence env o stored forceReason w = (.error e, w)) ∨
    ∃ row n r forced, w.rows[stored.id]? = some row ∧ (forced = true → forceReason.isSome) ∧
      saveSequence env o stored forceReason w = (r,
        { w with rows := w.rows.set stored.id (row.written env.storage w.now stored forceReason n)
                 trace := .saved stored.id stored.sequence.state
                   (env.storage.finish w.now stored.sequence.state row.finishedAt) forced w.now :: w.trace }) := by
  unfold saveSequence
  rcases @saveRow_cases env.storage w.now o.fault w.rows stored forceReason with ⟨text, he⟩ | ⟨row, n, r, hrow, he, -⟩
  · exact .inl ⟨_, by rw [he]⟩
  · refine .inr ⟨row, n, _, forceReason.isSome && r.isOk, hrow, fun h => ?_, by rw [he]; rfl⟩
    simp only [Bool.and_eq_true] at h
    exact h.1

/-- a save that meets neither a fault nor another live row of its cluster writes everything -/
theorem saveSequence_ok {stored : StoredSequence} {forceReason : Option String} {row : Row} (hfault : o.fault = none)
    (hrow : w.rows[stored.id]? = some row) (hfree : conflicts w.rows stored.id row stored.sequence.state = false) :
    saveSequence env o stored forceReason w = (.ok (),
      { w with rows := w.rows.set stored.id
                 (row.written env.storage w.now stored forceReason stored.pendingEvents.length)
               trace := .saved stored.id stored.sequence.state
                 (env.storage.finish w.now stored.sequence.state row.finishedAt) forceReason.isSome w.now :: w.trace }) := by
  have hsave : saveRow env.storage w.now none w.rows stored forceReason =
      (.ok (), some (row.written env.storage w.now stored forceReason stored.pendingEvents.length)) := by
    unfold saveRow
    rw [hrow]
    cases env.storage <;> simp [hfree]
  unfold saveSequence
  rw [hfault, hsave]
  simp only [Except.isOk, Except.toBool, Bool.and_true]
  rfl

theorem switchBackend_cases {backend : String} {active : Bool} :
    switchBackend o backend active w = (.ok (), w.switch backend active) ∨
    (∃ e, switchBackend o backend active w = (.error e, w)) ∨
    ((∃ c m, o.gateway = .appliedThenRaised c m) ∧
      ∃ e, switchBackend o backend active w = (.error e, w.switch backend active)) := by
  unfold switchBackend
  cases ho : o.gateway with
  | applied => exact .inl rfl
  | refused c m => exact .inr (.inl ⟨_, rfl⟩)
  | appliedThenRaised c m => exact .inr (.inr ⟨⟨c, m, rfl⟩, _, rfl⟩)

/-- the events an effect may leave in the record -/
def Emits (w : World) : Act → Event → Prop
  | .insert s _, e => e = .created w.rows.length s.cluster
  | .save stored forceReason, e => ∃ f forced, (forced = true → forceReason.isSome) ∧
      e = .saved stored.id stored.sequence.state f forced w.now
  | .setActive backend active, e => e = .switched backend active w.now
  | .execStart cluster id, e => e = .launched cluster id w.now
  | _, _ => False

/-- **The record grows by at most one event**, one the effect emits. -/
theorem handle_trace {e : Act} :
    (handle env o e w).2.trace = w.trace ∨ ∃ ev, Emits w e ev ∧ (handle env o e w).2.trace = ev :: w.trace := by
  cases e with
  | insert s roles =>
    simp only [handle]
    rcases @insertRow_cases env o w s roles with ⟨e, he⟩ | ⟨-, he⟩
    · exact .inl (by rw [he])
    · exact .inr ⟨_, rfl, by rw [he]⟩
  | save stored forceReason =>
    simp only [handle]
    rcases @saveSequence_cases env o w stored forceReason with ⟨e, he⟩ | ⟨row, n, r, forced, -, hf, he⟩
    · exact .inl (by rw [he])
    · exact .inr ⟨_, ⟨_, forced, hf, rfl⟩, by rw [he]⟩
  | setActive backend active =>
    simp only [handle]
    rcases @switchBackend_cases o w backend active with he | ⟨e, he⟩ | ⟨-, e, he⟩
    · exact .inr ⟨_, rfl, by rw [he]; rfl⟩
    · exact .inl (by rw [he])
    · exact .inr ⟨_, rfl, by rw [he]; rfl⟩
  | execStart cluster id => exact .inr ⟨_, rfl, rfl⟩
  | _ => exact .inl rfl

end Effects

end TrinoManagement.Service
