/-
Editing `config.properties` and sending it to a cluster: `ConfigEditService` of `tms/ops/configeditservice.py`.

The operations as programs over the effects of `Config.Drafts`. A change a deployment reads is validated again, and what
comes out of that is what the deployment carries.

- `scanOf`: what the typo gate is given to check against.
- `deploy`, `deployNow`: the request and the thread it starts; `Task` is a request with what it starts.
-/
import Mathlib.Tactic
import TrinoManagement.Config.Drafts
import TrinoManagement.Config.ScanService

namespace TrinoManagement.EditService

open TrinoManagement.Audit TrinoManagement.ConfigEdit TrinoManagement.Drafts TrinoManagement.Playbook
open TrinoManagement.Prog (Yields perform)
open TrinoManagement.Service (Exn)
open TrinoManagement.Text (strip)

/-- a stored change; what it says is what `validate` returned -/
abbrev Change := Row Fields

/-- as `refuse_deploy` sees it -/
def toChange (change : Change) : ConfigEdit.Change :=
  ⟨change.id, change.fields.title, change.fields.targetRole, change.fields.entries, change.notes, change.verifiedOn⟩

/-- what `_scan_of` returns -/
structure ScanOf where
  scanned : Bool
  validNames : List String
  nodes : List ConfigScan.Node
deriving DecidableEq, Repr

/-- `_scan_of`: the last scan of the cluster, compared -/
def scanOf (development : List String) (cluster : String) : Option (List ConfigScan.Node) → ScanOf
  | none => ⟨false, [], []⟩
  | some nodes =>
    let compared := ConfigScan.compare nodes (decide (cluster ∈ development))
    ⟨true, compared.validNames, compared.nodes⟩

def maxLogChars : ℕ := 60000

/-- `"\n".join(lines)[-MAX_LOG_CHARS:]` -/
def keptLog (lines : List String) : String :=
  let text := (String.intercalate "\n" lines).toList
  String.ofList (text.drop (text.length - maxLogChars))

/-- the entries as the playbook gets them, `base64(json.dumps(entries))` -/
structure Encoding where
  entries : List Entry → String

section Programs

variable (py : Letters) (encode : Encoding) (cfg : Config) (principal : Principal)

def adminMessage : String := "Changing or deploying configuration is restricted to administrators."

/-- `validate`, its refusal as an answer to the request -/
def validated (pre : String) (title targetRole : String) (entries : List RawEntry) : M Fields Fields :=
  match validate py title targetRole entries with
  | .ok clean => pure clean
  | .error m => throw (.invalidRequest (pre ++ m))

variable {py} in
/-- what a program may do after it is settled by what was accepted -/
theorem yields_validated {σ : Type} {Φ : Prog.Spec (Act Fields) Act.Answer σ} {X : σ → Prop} {s : σ}
    {pre title targetRole : String} {entries : List RawEntry} {K : Fields → σ → Prop} (hX : X s)
    (h : ∀ clean, validate py title targetRole entries = .ok clean → K clean s) :
    Yields Φ X (validated py pre title targetRole entries) K s := by
  unfold validated
  split
  · rename_i clean hclean
    exact h clean hclean
  · exact hX

/-- `(notes or "").strip() or None` -/
def cleanNotes (notes : String) : Option String := if strip notes = "" then none else some (strip notes)

def create (title targetRole : String) (entries : List RawEntry) (notes reason : String) : M Fields Unit := do
  requireAdmin principal adminMessage
  let clean ← validated py "" title targetRole entries
  let _ ← audited principal "CONFIG_CHANGE" "config_change" clean.title none reason do
    lift (StoreError.caught "") (← perform (Act.create clean (cleanNotes notes)))
  pure ()

/-- editing clears the proof -/
def update (id : ℕ) (title targetRole : String) (entries : List RawEntry) (notes reason : String) : M Fields Unit := do
  requireAdmin principal adminMessage
  let _ ← rowOr404 "change" id
  let clean ← validated py "" title targetRole entries
  let _ ← audited principal "CONFIG_CHANGE" "config_change" (toString id) none reason do
    lift (StoreError.caught "") (← perform (Act.update id clean (cleanNotes notes) true))
  pure ()

def delete (id : ℕ) (reason : String) : M Fields Unit := do
  requireAdmin principal adminMessage
  let _ ← rowOr404 "change" id
  audited principal "CONFIG_CHANGE" "config_change" (toString id) none reason do
    lift (StoreError.caught "") (← perform (Act.delete id))

/-- the command of a deployment: one of three words and the entries, never a host name -/
def command (inventory : String) (clean : Fields) : Command :=
  ⟨cfg.binary, inventory, cfg.playbook, [("target_role", clean.targetRole.name), ("config_edits", encode.entries clean.entries)]⟩

/-- what a request to deploy hands to its thread -/
structure Started where
  deployment : Deployment Fields
  record : ℕ
  command : Command
deriving DecidableEq, Repr

/-- `deploy`: validated again, then the gates, then the lock -/
def deploy (id : ℕ) (cluster reason : String) : M Fields Started := do
  requireAdmin principal adminMessage
  let inventory ← clusterOr404 cfg cluster
  let change ← rowOr404 "change" id
  let clean ← validated py "This change is no longer valid: " change.fields.title change.fields.targetRole.name
    (change.fields.entries.map Entry.raw)
  let nodes ← perform (Act.loadScan cluster)
  let scan := scanOf cfg.development cluster nodes
  match refuseDeploy (toChange change) cluster cfg.development scan.validNames scan.scanned with
  | some refusal => throw (.invalidRequest refusal)
  | none => do
    let deployment : Deployment Fields :=
      ⟨change.id, cluster, false, { clean with title := change.fields.title }, reason, principal.username⟩
    let record ← launch principal "ConfigStoreUnavailable"
      ("A configuration deployment to " ++ cluster ++ " is already running.") "CONFIG_DEPLOY"
      (cluster ++ ":" ++ change.fields.title) deployment
    pure ⟨deployment, record, command encode cfg inventory clean⟩

/-- `_deploy_now` -/
def deployNow (started : Started) : M Fields Unit :=
  Drafts.deployNow cfg (fun lines => some (keptLog lines)) started.deployment started.record started.command

/-- what may be asked of the service -/
inductive Task where
  | create (principal : Principal) (title targetRole : String) (entries : List RawEntry) (notes reason : String)
  | update (principal : Principal) (id : ℕ) (title targetRole : String) (entries : List RawEntry) (notes reason : String)
  | delete (principal : Principal) (id : ℕ) (reason : String)
  | deploy (principal : Principal) (id : ℕ) (cluster reason : String)

/-- a request, and the thread it starts after it -/
def Task.prog : Task → M Fields Unit
  | .create principal title targetRole entries notes reason =>
    EditService.create py principal title targetRole entries notes reason
  | .update principal id title targetRole entries notes reason =>
    EditService.update py principal id title targetRole entries notes reason
  | .delete principal id reason => EditService.delete principal id reason
  | .deploy principal id cluster reason => do
    let started ← EditService.deploy py encode cfg principal id cluster reason
    EditService.deployNow cfg started

end Programs

end TrinoManagement.EditService
