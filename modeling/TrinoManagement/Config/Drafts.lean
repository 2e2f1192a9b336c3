/-
Drafts and their deployments: what the config change service and the catalog service have in common.

A draft is edited, deployed to a development cluster, marked as proved there, and may then go to a cluster that serves
queries. The two services differ in what a draft says (`F`); the programs here are the parts they share, over the
effects `Act`, in the order the source performs them.

- `launch`: from the lock of the cluster to the record of the deployment. `deployNow`: the background thread.
- `Quiet`: under a protocol that does not mind the audit trail and the locks, only the record of a launch is left.
- `World`, `handle`: the tables, the locks and the scans, and who answers each effect.
- `Carried`: what it means that a development deployment proved something.
-/
import Mathlib.Tactic
import TrinoManagement.Config.Playbook
import TrinoManagement.Config.Scan
import TrinoManagement.Core.Audit
import TrinoManagement.Core.Prog
import TrinoManagement.Ops.Service

namespace TrinoManagement.Drafts

open TrinoManagement.Audit TrinoManagement.Playbook
open TrinoManagement.Prog (Protocol Yields perform protocol protocol_mono yields_bind yields_ite yields_tryCatch)
open TrinoManagement.Service (Exn)

/-! ## Rows and effects -/

/-- a stored draft -/
structure Row (F : Type) where
  id : ℕ
  fields : F
  notes : Option String
  verifiedOn : Option String
deriving DecidableEq, Repr

/-- a deployment, with what it carries by value -/
structure Deployment (F : Type) where
  draft : ℕ
  cluster : String
  /-- it takes the file away again -/
  removes : Bool
  fields : F
  reason : String
  actor : String
deriving DecidableEq, Repr

inductive DeployState where
  | running | succeeded | failed
deriving DecidableEq, Repr

/-- its row: evidence, never deleted -/
structure Record (F : Type) where
  deployment : Deployment F
  state : DeployState
  detail : Option String
  log : Option String
deriving DecidableEq, Repr

structure AuditEntry where
  actor : String
  roles : List String
  actionType : String
  targetKind : String
  targetId : String
  targetCluster : Option String
  reason : String
  outcome : AuditOutcome
  errorMessage : Option String
deriving DecidableEq, Repr

/-- everything a request or a deployment thread does outside its own memory -/
inductive Act (F : Type) where
  | get (id : ℕ)
  | create (fields : F) (notes : Option String)
  /-- an edit; `clear` when it takes the mark away -/
  | update (id : ℕ) (fields : F) (notes : Option String) (clear : Bool)
  /-- `update(id, verified_on=cluster, ...)` -/
  | mark (id : ℕ) (cluster : String)
  | delete (id : ℕ)
  | loadScan (cluster : String)
  | auditWritable
  | auditWrite (entry : AuditEntry)
  /-- under the lock: busy, or busy from now on -/
  | acquire (cluster : String)
  | release (cluster : String)
  | start (deployment : Deployment F)
  | runPlaybook (command : Command)
  | finish (id : ℕ) (state : DeployState) (detail log : Option String)

/-- what the store raises: its own exception, with a text, or that the name is taken -/
inductive StoreError where
  | unavailable (message : String)
  | duplicate
deriving DecidableEq, Repr

@[reducible] def Act.Answer {F : Type} : Act F → Type
  | .get _ => Except StoreError (Option (Row F))
  | .create .. | .update .. | .mark .. => Except StoreError (Option (Row F))
  | .delete _ => Except StoreError Unit
  | .loadScan _ => Option (List ConfigScan.Node)
  | .auditWritable => Bool
  | .auditWrite _ => Unit
  | .acquire _ => Bool
  | .release _ => Unit
  | .start _ => Except StoreError ℕ
  | .runPlaybook _ => Except String RunResult × List String
  | .finish .. => Except StoreError Unit

abbrev M (F α : Type) := Prog (Act F) Act.Answer Exn α

/-! ## Programs -/

/-- what a service is given, less its stores and its runner -/
structure Config where
  clusters : List String
  inventories : List (String × String)
  binary : String
  playbook : String
  development : List String
deriving DecidableEq, Repr

section Programs

variable {F : Type}

def requireAdmin (principal : Principal) (message : String) : M F Unit :=
  if principal.can manageHealth then pure () else throw (.forbidden message)

/-- `_cluster_or_404` -/
def clusterOr404 (cfg : Config) (cluster : String) : M F String :=
  if cluster ∉ cfg.clusters then throw (.notFound ("Unknown cluster: " ++ cluster))
  else
    match cfg.inventories.lookup cluster with
    | none => throw (.invalidRequest ("No inventory is configured for " ++ cluster ++
        ", so TMS does not know which hosts to write to."))
    | some inventory =>
      if inventory = "" then throw (.invalidRequest ("No inventory is configured for " ++ cluster ++
        ", so TMS does not know which hosts to write to."))
      else pure inventory

/-- the store's exception where nobody catches it, by its class -/
def StoreError.raw (className : String) : StoreError → Exn
  | .unavailable m => .client className m
  | .duplicate => .client "DuplicateCatalog" ""

/-- and where it is caught -/
def StoreError.caught (duplicate : String) : StoreError → Exn
  | .unavailable m => .upstreamUnavailable m
  | .duplicate => .invalidRequest duplicate

def lift {α : Type} (exn : StoreError → Exn) : Except StoreError α → M F α
  | .ok a => pure a
  | .error e => throw (exn e)

/-- `_change_or_404`, `_draft_or_404` -/
def rowOr404 (what : String) (id : ℕ) : M F (Row F) := do
  match ← lift (StoreError.caught "") (← perform (Act.get id)) with
  | some row => pure row
  | none => throw (.notFound ("No such " ++ what ++ ": " ++ toString id))

/-- `_audited` -/
def audited {α : Type} (principal : Principal) (actionType targetKind targetId : String) (cluster : Option String)
    (reason : String) (body : M F α) : M F α :=
  match normaliseReason reason with
  | none => throw (.reasonRequired reasonRequiredMessage)
  | some clean => do
    let writable : Bool ← perform Act.auditWritable
    if writable then
      let entry (outcome : AuditOutcome) (errorMessage : Option String) : Act F :=
        .auditWrite ⟨principal.username, principal.roles, actionType, targetKind, targetId, cluster, clean, outcome,
          errorMessage⟩
      let a ← tryCatch body fun e => do
        perform (entry .failure (some (e.className ++ ": " ++ e.text)))
        throw e
      perform (entry .success none)
      pure a
    else
      throw (.auditUnavailable ("audit store is unavailable; refusing to perform " ++ actionType ++ " on " ++ targetId))

/-- the lock of the cluster, then the record of the deployment; the lock is given back if that fails -/
def launch (principal : Principal) (storeClass busy actionType targetId : String) (deployment : Deployment F) : M F ℕ := do
  let free : Bool ← perform (Act.acquire deployment.cluster)
  if free then
    tryCatch
      (audited principal actionType "cluster" targetId (some deployment.cluster) deployment.reason do
        lift (StoreError.raw storeClass) (← perform (Act.start deployment)))
      fun e => do
        perform (Act.release deployment.cluster)
        throw e
  else throw (.invalidRequest busy)

/-- `_deploy_now`. The mark says where the content was placed; a deployment that fails to be recorded marks nothing. -/
def deployNow (cfg : Config) (log : List String → Option String) (deployment : Deployment F) (record : ℕ)
    (command : Command) : M F Unit := do
  let (result, lines) ← perform (Act.runPlaybook command)
  let state : DeployState := if failure result = none then .succeeded else .failed
  match ← perform (Act.finish record state (failure result) (log lines)) with
  | .ok _ =>
    if state = .succeeded ∧ deployment.removes = false ∧ deployment.cluster ∈ cfg.development then
      let _ ← perform (Act.mark deployment.draft deployment.cluster)
      perform (Act.release deployment.cluster)
    else perform (Act.release deployment.cluster)
  | .error _ => perform (Act.release deployment.cluster)

end Programs

/-! ## The parts, whatever is asked of the whole -/

section Parts

variable {F α σ : Type} {Φ : Prog.Spec (Act F) Act.Answer σ} {X : σ → Prop} {s : σ}

theorem yields_requireAdmin {principal : Principal} {message : String} {K : Unit → σ → Prop} (hX : X s) (h : K () s) :
    Yields Φ X (requireAdmin principal message) K s := by
  unfold requireAdmin
  exact yields_ite (fun _ => h) fun _ => hX

/-- only a cluster with an inventory gets through -/
theorem yields_clusterOr404 {cfg : Config} {cluster : String} {K : String → σ → Prop} (hX : X s)
    (h : ∀ inventory, cfg.inventories.lookup cluster = some inventory → K inventory s) :
    Yields Φ X (clusterOr404 cfg cluster) K s := by
  unfold clusterOr404
  refine yields_ite (fun _ => hX) ?_
  intro _
  cases hlookup : cfg.inventories.lookup cluster with
  | none => exact hX
  | some inventory => exact yields_ite (fun _ => hX) fun _ => h inventory hlookup

theorem yields_lift {exn : StoreError → Exn} {r : Except StoreError α} {K : α → σ → Prop} (hX : X s)
    (h : ∀ a, r = .ok a → K a s) : Yields Φ X (lift exn r : M F α) K s := by
  cases r with
  | error e => exact hX
  | ok a => exact h a rfl

/-- what the store may answer decides -/
theorem yields_rowOr404 {what : String} {id : ℕ} {K : Row F → σ → Prop} (hΦ : Φ.Mono)
    (h : Φ (.get id) (fun r s' => X s' ∧ ∀ row, r = .ok (some row) → K row s') s) :
    Yields Φ X (rowOr404 what id) K s := by
  unfold rowOr404
  refine yields_bind.2 (hΦ (.get id) _ _ s (fun r s' hr => ?_) h)
  refine yields_bind.2 (yields_lift hr.1 ?_)
  intro found hfound
  cases found with
  | none => exact hr.1
  | some row => exact hr.2 row hfound

/-- a protocol that lets the audit trail and the locks pass, and remembers nothing of them -/
structure Quiet (P : Protocol (Act F) Act.Answer σ) : Prop where
  writable : ∀ g, P.ok g .auditWritable ∧ ∀ r, P.next g .auditWritable r = g
  write : ∀ g entry, P.ok g (.auditWrite entry) ∧ ∀ r, P.next g (.auditWrite entry) r = g
  acquire : ∀ g cluster, P.ok g (.acquire cluster) ∧ ∀ r, P.next g (.acquire cluster) r = g
  release : ∀ g cluster, P.ok g (.release cluster) ∧ ∀ r, P.next g (.release cluster) r = g

variable {P : Protocol (Act F) Act.Answer σ} {β : Type} {principal : Principal}

/-- an effect: it is permitted, and the rest follows whatever the answer -/
theorem yields_act {e : Act F} {f : e.Answer → M F β} {K : β → σ → Prop} {g : σ} (hp : P.ok g e)
    (hf : ∀ r, Yields (protocol P) X (f r) K (P.next g e r)) : Yields (protocol P) X (perform e >>= f) K g :=
  yields_bind.2 ⟨hp, hf⟩

/-- one the protocol remembers nothing of -/
theorem yields_quiet {e : Act F} {f : e.Answer → M F β} {K : β → σ → Prop} {g : σ}
    (he : P.ok g e ∧ ∀ r, P.next g e r = g) (hf : ∀ r, Yields (protocol P) X (f r) K g) :
    Yields (protocol P) X (perform e >>= f) K g := by
  refine yields_act he.1 ?_
  intro r
  rw [he.2 r]
  exact hf r

/-- the row that was read is all that matters of the read -/
theorem yields_read {what : String} {id : ℕ} {K : Row F → σ → Prop} {g : σ} (hp : P.ok g (.get id))
    (h : ∀ row, K row (P.next g (.get id) (.ok (some row)))) :
    Yields (protocol P) (fun _ => True) (rowOr404 what id) K g := by
  refine yields_rowOr404 protocol_mono ⟨hp, fun r => ⟨trivial, fun row hr => ?_⟩⟩
  subst hr
  exact h row

/-- under such a protocol the auditing is as good as not there -/
theorem yields_audited {actionType targetKind targetId reason : String} {cluster : Option String} {body : M F α}
    {K : α → σ → Prop} {g : σ} (hP : Quiet P) (h : Yields (protocol P) (fun _ => True) body K g) :
    Yields (protocol P) (fun _ => True) (audited principal actionType targetKind targetId cluster reason body) K g := by
  unfold audited
  cases normaliseReason reason with
  | none => trivial
  | some clean =>
    refine yields_quiet (hP.writable g) fun writable => yields_ite (fun _ => ?_) fun _ => trivial
    refine yields_bind.2 (yields_tryCatch protocol_mono (fun _ => True) (h.mono protocol_mono (fun _ h => h) ?_) ?_)
    · exact fun a g' hK => yields_quiet (hP.write g' _) fun _ => hK
    · exact fun e g' _ => yields_quiet (hP.write g' _) fun _ => trivial

/-- and so are the locks: what is left of a launch is the record -/
theorem yields_launch {storeClass busy actionType targetId : String} {d : Deployment F} {K : ℕ → σ → Prop} {g : σ}
    (hP : Quiet P) (hstart : P.ok g (.start d)) (h : ∀ record, K record (P.next g (.start d) (.ok record))) :
    Yields (protocol P) (fun _ => True) (launch principal storeClass busy actionType targetId d) K g := by
  unfold launch
  refine yields_quiet (hP.acquire g _) fun free => yields_ite (fun _ => ?_) fun _ => trivial
  refine yields_tryCatch protocol_mono (fun _ => True) (yields_audited hP ?_) ?_
  · refine yields_act hstart fun r => yields_lift trivial ?_
    intro record hr
    subst hr
    exact h record
  · exact fun e g' _ => yields_quiet (hP.release g' _) fun _ => trivial

end Parts

/-! ## The world of one service -/

structure World (F : Type) where
  rows : ℕ → Option (Row F)
  nextId : ℕ
  /-- the record of deployment `i` is the `i`th -/
  deployments : List (Record F)
  /-- the deployments whose success was recorded, in that order: a trace beside the tables -/
  succeeded : List (Deployment F)
  busy : String → Bool
  scans : String → Option (List ConfigScan.Node)
  auditLog : List AuditEntry

/-- what the outside does at one effect -/
structure Oracle where
  fault : Option StoreError
  auditWritable : Bool
  result : Except String RunResult
  lines : List String

/-- everything works, and the playbook ends with exit code 0 -/
def Oracle.serves : Oracle := ⟨none, true, .ok ⟨some 0, none, false⟩, []⟩

instance : Inhabited Oracle := ⟨.serves⟩

section Handle

variable {F : Type}

/-- a store that fails changes nothing -/
def answer {α S : Type} (o : Oracle) (s : S) (served : α × S) : Except StoreError α × S :=
  match o.fault with
  | some e => (.error e, s)
  | none => (.ok served.1, served.2)

/-- an update of one row; there may be none -/
def World.edit (w : World F) (id : ℕ) (f : Row F → Row F) : Option (Row F) × World F :=
  ((w.rows id).map f, { w with rows := Function.update w.rows id ((w.rows id).map f) })

/-- the end of a deployment -/
def World.finish (w : World F) (id : ℕ) (state : DeployState) (detail log : Option String) : World F :=
  match w.deployments[id]? with
  | none => w
  | some r =>
    { w with deployments := w.deployments.set id { r with state := state, detail := detail, log := log }
             succeeded := if state = .succeeded then w.succeeded ++ [r.deployment] else w.succeeded }

def handle (o : Oracle) : (e : Act F) → World F → e.Answer × World F
  | .get id, w => answer o w (w.rows id, w)
  | .create fields notes, w =>
    answer o w (some ⟨w.nextId, fields, notes, none⟩,
      { w with rows := Function.update w.rows w.nextId (some ⟨w.nextId, fields, notes, none⟩), nextId := w.nextId + 1 })
  | .update id fields notes clear, w =>
    answer o w (w.edit id fun row =>
      { row with fields := fields, notes := notes, verifiedOn := if clear then none else row.verifiedOn })
  | .mark id cluster, w => answer o w (w.edit id fun row => { row with verifiedOn := some cluster })
  | .delete id, w => answer o w ((), { w with rows := Function.update w.rows id none })
  | .loadScan cluster, w => (w.scans cluster, w)
  | .auditWritable, w => (o.auditWritable, w)
  | .auditWrite entry, w => ((), { w with auditLog := w.auditLog ++ [entry] })
  | .acquire cluster, w =>
    if w.busy cluster then (false, w) else (true, { w with busy := Function.update w.busy cluster true })
  | .release cluster, w => ((), { w with busy := Function.update w.busy cluster false })
  | .start deployment, w =>
    answer o w (w.deployments.length,
      { w with deployments := w.deployments ++ [⟨deployment, .running, none, none⟩] })
  | .runPlaybook _, w => ((o.result, o.lines), w)
  | .finish id state detail log, w => answer o w ((), w.finish id state detail log)

/-- the store fails, or it serves -/
theorem answer_cases {α S : Type} (o : Oracle) (s : S) (served : α × S) :
    (∃ e, answer o s served = (.error e, s)) ∨ answer o s served = (.ok served.1, served.2) := by
  unfold answer
  cases o.fault with
  | some e => exact .inl ⟨e, rfl⟩
  | none => exact .inr rfl

@[simp] theorem finish_rows (w : World F) (id : ℕ) (state : DeployState) (detail log : Option String) :
    (w.finish id state detail log).rows = w.rows := by
  unfold World.finish
  split <;> rfl

theorem finish_of_get {w : World F} {id : ℕ} {r : Record F} (h : w.deployments[id]? = some r) (state : DeployState)
    (detail log : Option String) : w.finish id state detail log =
      { w with deployments := w.deployments.set id { r with state := state, detail := detail, log := log }
               succeeded := if state = .succeeded then w.succeeded ++ [r.deployment] else w.succeeded } := by
  unfold World.finish
  rw [h]

theorem finish_of_none {w : World F} {id : ℕ} (h : w.deployments[id]? = none) (state : DeployState)
    (detail log : Option String) : w.finish id state detail log = w := by
  unfold World.finish
  rw [h]

/-- a record after its end: the same deployment -/
theorem finish_get (w : World F) {id i : ℕ} {state : DeployState} {detail log : Option String} {r : Record F}
    (h : (w.finish id state detail log).deployments[i]? = some r) :
    w.deployments[i]? = some r ∨
      i = id ∧ r.state = state ∧ ∃ old, w.deployments[i]? = some old ∧ old.deployment = r.deployment := by
  cases hid : w.deployments[id]? with
  | none =>
    rw [finish_of_none hid] at h
    exact .inl h
  | some old =>
    rw [finish_of_get hid] at h
    by_cases hi : i = id
    · subst hi
      have hlt : i < w.deployments.length := (List.getElem?_eq_some_iff.1 hid).1
      have hset : (w.deployments.set i { old with state := state, detail := detail, log := log })[i]? = some r := h
      rw [List.getElem?_set_self hlt] at hset
      obtain rfl := Option.some.inj hset
      exact .inr ⟨rfl, rfl, old, hid, rfl⟩
    · left
      have hset : (w.deployments.set id { old with state := state, detail := detail, log := log })[i]? = some r := h
      rwa [List.getElem?_set_ne (Ne.symm hi)] at hset

end Handle

end TrinoManagement.Drafts
