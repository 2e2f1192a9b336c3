/-
Catalogs, drafts here and files on the nodes: `CatalogService` of `tms/ops/catalogservice.py`.

The operations as programs over the effects of `Config.Drafts`. A draft is carried as it was read, and a save takes the
mark away when the fingerprint of the file changes.

- `save`: the mark is judged against the draft it read.
- `deploy`, `deployNow`: the request and the thread it starts; a removal is neither gated nor marked.
-/
import Mathlib.Tactic
import TrinoManagement.Config.Catalogs
import TrinoManagement.Config.Drafts

namespace TrinoManagement.CatalogService

open TrinoManagement.Audit TrinoManagement.Catalogs TrinoManagement.Drafts TrinoManagement.Playbook
open TrinoManagement.Prog (perform)
open TrinoManagement.Service (Exn)

abbrev Draft := Row Fields

/-- as `refuse_deploy` sees it -/
def toDraft (draft : Draft) : Catalogs.Draft :=
  ⟨draft.id, draft.fields.name, draft.fields.connector, draft.fields.properties, draft.notes, draft.verifiedOn⟩

/-- what is taken from Python: the `repr` of messages, a digest, and base64 -/
structure Python where
  repr : String → String
  /-- `sha256(text).hexdigest()[:16]` -/
  digest : String → String
  b64encode : String → String

section Programs

variable (py : Python) (cfg : Config) (principal : Principal)

/-- `fingerprint` -/
def fingerprint (fields : Fields) : String := py.digest (render fields.connector fields.properties)

def adminMessage : String := "Changing or deploying a catalog is restricted to administrators."

/-- `validate`, its refusal as an answer to the request -/
def validated (pre name connector : String) (properties : List (String × Option String)) : M Fields Fields :=
  match validate py.repr name connector properties with
  | .ok fields => pure fields
  | .error m => throw (.invalidRequest (pre ++ m))

def create (name connector : String) (properties : List (String × Option String)) (reason : String)
    (notes : Option String) : M Fields Unit := do
  requireAdmin principal adminMessage
  let fields ← validated py "" name connector properties
  let _ ← audited principal "CATALOG_CHANGE" "catalog" fields.name none reason do
    lift (StoreError.caught ("A catalog called " ++ py.repr fields.name ++ " already exists."))
      (← perform (Act.create fields notes))
  pure ()

/-- an edited draft is a different draft; the name never changes -/
def save (id : ℕ) (connector : String) (properties : List (String × Option String)) (reason : String)
    (notes : Option String) : M Fields Unit := do
  requireAdmin principal adminMessage
  let existing ← rowOr404 "catalog" id
  let fields ← validated py "" existing.fields.name connector properties
  let clear : Bool := decide (fingerprint py existing.fields ≠ fingerprint py fields)
  let _ ← audited principal "CATALOG_CHANGE" "catalog" existing.fields.name none reason do
    lift (StoreError.raw "CatalogStoreUnavailable")
      (← perform (Act.update id { fields with name := existing.fields.name } notes clear))
  pure ()

def delete (id : ℕ) (reason : String) : M Fields Unit := do
  requireAdmin principal adminMessage
  let existing ← rowOr404 "catalog" id
  audited principal "CATALOG_CHANGE" "catalog" existing.fields.name none reason do
    lift (StoreError.raw "CatalogStoreUnavailable") (← perform (Act.delete id))

def command (inventory action : String) (fields : Fields) : Command :=
  ⟨cfg.binary, inventory, cfg.playbook, [("catalog_name", fields.name), ("catalog_action", action),
    ("catalog_content", py.b64encode (render fields.connector fields.properties))]⟩

/-- what a request to deploy hands to its thread -/
structure Started where
  deployment : Deployment Fields
  record : ℕ
  command : Command
deriving DecidableEq, Repr

/-- the checks of a deployment that puts a file there -/
def allowed (draft : Draft) (cluster : String) : M Fields Unit := do
  let _ ← validated py "This catalog is no longer valid: " draft.fields.name draft.fields.connector
    (draft.fields.properties.map fun p => (p.1, some p.2))
  match refuseDeploy (toDraft draft) cluster cfg.development with
  | some refusal => throw (.invalidRequest refusal)
  | none => pure ()

/-- the lock, the record and the command -/
def begin (inventory action : String) (draft : Draft) (cluster reason : String) : M Fields Started := do
  let deployment : Deployment Fields :=
    ⟨draft.id, cluster, decide (action = "remove"), draft.fields, reason, principal.username⟩
  let record ← launch principal "CatalogStoreUnavailable"
    ("A catalog deployment to " ++ cluster ++ " is already running.") "CATALOG_DEPLOY"
    (cluster ++ ":" ++ draft.fields.name) deployment
  pure ⟨deployment, record, command py cfg inventory action draft.fields⟩

/-- `deploy` -/
def deploy (id : ℕ) (cluster reason action : String) : M Fields Started := do
  requireAdmin principal adminMessage
  let inventory ← clusterOr404 cfg cluster
  let draft ← rowOr404 "catalog" id
  if action ≠ "deploy" ∧ action ≠ "remove" then throw (.invalidRequest "action must be 'deploy' or 'remove'.")
  else if action = "deploy" then do
    allowed py cfg draft cluster
    begin py cfg principal inventory action draft cluster reason
  else begin py cfg principal inventory action draft cluster reason

/-- `_deploy_now`; no log is kept -/
def deployNow (started : Started) : M Fields Unit :=
  Drafts.deployNow cfg (fun _ => none) started.deployment started.record started.command

/-- what may be asked of the service -/
inductive Task where
  | create (principal : Principal) (name connector : String) (properties : List (String × Option String))
      (reason : String) (notes : Option String)
  | save (principal : Principal) (id : ℕ) (connector : String) (properties : List (String × Option String))
      (reason : String) (notes : Option String)
  | delete (principal : Principal) (id : ℕ) (reason : String)
  | deploy (principal : Principal) (id : ℕ) (cluster reason action : String)

/-- a request, and the thread it starts after it -/
def Task.prog : Task → M Fields Unit
  | .create principal name connector properties reason notes =>
    CatalogService.create py principal name connector properties reason notes
  | .save principal id connector properties reason notes =>
    CatalogService.save py principal id connector properties reason notes
  | .delete principal id reason => CatalogService.delete principal id reason
  | .deploy principal id cluster reason action => do
    let started ← CatalogService.deploy py cfg principal id cluster reason action
    CatalogService.deployNow cfg started

end Programs

end TrinoManagement.CatalogService
