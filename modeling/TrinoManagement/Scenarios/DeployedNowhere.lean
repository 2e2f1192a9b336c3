/-
A deployment that reaches no host.

`ansible-playbook` over a host pattern that matches no host exits 0. The restart executor looks at the inventory before
it runs anything; the two services that write files do not, and record such a run as a success, on a development cluster
with the mark that lets the draft go to production.

- `served`: a playbook run over the hosts its inventory lists.
- `reaches_iff`: the deployments of both services are honest exactly when the inventory lists a host they are for.
- `deployed_nowhere`: a change for the workers of an inventory of one coordinator, recorded a success and marked.
-/
import Mathlib.Tactic
import TrinoManagement.Config.CatalogService
import TrinoManagement.Config.EditService

namespace TrinoManagement.Drafts

open TrinoManagement.Audit TrinoManagement.ConfigEdit TrinoManagement.Inventory TrinoManagement.Playbook
open TrinoManagement.Prog

variable {F : Type}

/-! ## A playbook run over its hosts -/

/-- the inventory files, and how they are read -/
structure Nodes where
  letters : Inventory.Letters
  files : String → Option String

/-- `hosts` of the playbooks: the target role if the command names one, everything otherwise -/
def targetRole (command : Command) : Role :=
  ((command.extraVars.lookup "target_role").bind fun name => roleNames.lookup name).getD .all

/-- the hosts a command is for -/
def targets (nodes : Nodes) (command : Command) (cluster : String) : List Inventory.Node :=
  Role.hosts (targetRole command) (loadInventory nodes.letters (nodes.files command.inventory) cluster)

/-- the world of a service, and the hosts its playbooks have written to -/
structure Site (F : Type) where
  world : World F
  written : List Inventory.Node

/-- the effects answered over the hosts of the inventories -/
def serve (nodes : Nodes) (cluster : String) (o : Oracle) : (e : Act F) → Site F → e.Answer × Site F
  | .runPlaybook command, s =>
    let result := settle (targets nodes command cluster) o.result
    ((result, o.lines), { s with written := s.written ++ wrote (targets nodes command cluster) result })
  | e, s => ((handle o e s.world).1, { s with world := (handle o e s.world).2 })

/-- what a deployment recorded as a success owes, and what the restart executor checks before it runs -/
structure Honest (nodes : Nodes) (cfg : Config) (log : List String → Option String) (deployment : Deployment F)
    (record : ℕ) (command : Command) (w : World F) : Prop where
  recorded : ∀ (os : List Oracle) (r : Record F),
    (run (serve nodes deployment.cluster) os (deployNow cfg log deployment record command)
      ⟨w, []⟩).2.world.deployments[record]? = some r → r.state = .succeeded →
      (run (serve nodes deployment.cluster) os (deployNow cfg log deployment record command) ⟨w, []⟩).2.written ≠ []
  marked : ∀ os : List Oracle, (run (serve nodes deployment.cluster) os (deployNow cfg log deployment record command)
      ⟨w, []⟩).2.world.rows ≠ w.rows →
    (run (serve nodes deployment.cluster) os (deployNow cfg log deployment record command) ⟨w, []⟩).2.written ≠ []
  checked : preflight nodes.letters cfg.inventories nodes.files deployment.cluster = .ok ()

/-! ## The thread of a deployment -/

/-- where a thread has brought a site: nothing written only if nothing is recorded a success and nothing marked -/
def Owes (record : ℕ) (w : World F) (s : Site F) : Prop :=
  s.written = [] → s.world.rows = w.rows ∧ ∀ r, s.world.deployments[record]? = some r → r.state ≠ .succeeded

theorem Owes.of_written {record : ℕ} {w : World F} {s : Site F} (h : s.written ≠ []) : Owes record w s :=
  fun hnone => absurd hnone h

/-- what has been written stays written -/
theorem serve_written (nodes : Nodes) (cluster : String) (o : Oracle) (e : Act F) (s : Site F) (h : s.written ≠ []) :
    (serve nodes cluster o e s).2.written ≠ [] := by
  cases e with
  | runPlaybook command => exact List.append_ne_nil_of_left_ne_nil h _
  | _ => exact h

theorem wp_written {nodes : Nodes} {cluster : String} {α : Type} (p : M F α) {s : Site F} (h : s.written ≠ []) :
    wp (demonic (fun _ => True) (serve nodes cluster)) p (fun _ s' => s'.written ≠ []) s := by
  have hframe := @wp_frame (Act F) Act.Answer Service.Exn α (Site F) (demonic (fun _ => True) (serve nodes cluster)) s p
    (fun s s' => s.written ≠ [] → s'.written ≠ []) (fun _ h => h) (fun _ _ _ hab hbc h => hbc (hab h))
    fun e K s hK o _ => hK _ _ (serve_written nodes cluster o e s)
  exact wp_mono demonic_mono (fun _ s' hs' => hs' h) hframe

/-- the store keeps a record's outcome, or keeps it as it was -/
theorem handle_finish (o : Oracle) (id : ℕ) (state : DeployState) (detail log : Option String) (w : World F) :
    (handle o (.finish id state detail log) w).2.rows = w.rows ∧
      ∀ r, (handle o (.finish id state detail log) w).2.deployments[id]? = some r →
        w.deployments[id]? = some r ∨ r.state = state := by
  rcases answer_cases o w ((), w.finish id state detail log) with ⟨e, h⟩ | h
  · have hsame : (handle o (.finish id state detail log) w).2 = w := congrArg Prod.snd h
    rw [hsame]
    exact ⟨rfl, fun r hr => .inl hr⟩
  · have hfinish : (handle o (.finish id state detail log) w).2 = w.finish id state detail log := congrArg Prod.snd h
    rw [hfinish]
    exact ⟨finish_rows .., fun r hr => (finish_get w hr).imp_right fun h => h.2.1⟩

/-- with a host to write to, a thread owes nothing -/
theorem owes_deployNow {nodes : Nodes} {cfg : Config} {log : List String → Option String} {deployment : Deployment F}
    {record : ℕ} {command : Command} {w : World F} (hhosts : targets nodes command deployment.cluster ≠ [])
    (hrunning : ∀ r, w.deployments[record]? = some r → r.state ≠ .succeeded) :
    wp (demonic (fun _ => True) (serve nodes deployment.cluster)) (deployNow cfg log deployment record command)
      (fun _ s' => Owes record w s') ⟨w, []⟩ := by
  unfold deployNow
  rw [wp_bind, wp_perform]
  intro o _
  rw [onOk_ok]
  dsimp only [serve]
  by_cases hfail : failure (settle (targets nodes command deployment.cluster) o.result) = none
  · refine wp_mono demonic_mono (fun _ s' hs' => Owes.of_written hs') (wp_written _ ?_)
    simpa [wrote, hfail] using hhosts
  · -- a failure is recorded as one, and nothing is marked
    rw [if_neg hfail, wp_bind, wp_perform]
    intro o' _
    rw [onOk_ok]
    have hdone : Owes record w ((serve nodes deployment.cluster o' (.finish record .failed
        (failure (settle (targets nodes command deployment.cluster) o.result)) (log o.lines))
        ⟨w, [] ++ wrote (targets nodes command deployment.cluster)
          (settle (targets nodes command deployment.cluster) o.result)⟩).2 : Site F) := by
      obtain ⟨hrows, hrecord⟩ := handle_finish o' record .failed
        (failure (settle (targets nodes command deployment.cluster) o.result)) (log o.lines) w
      refine fun _ => ⟨hrows, fun r hr => ?_⟩
      rcases hrecord r hr with hr | hr
      · exact hrunning r hr
      · rw [hr]
        decide
    split
    · rw [if_neg (by simp)]
      exact fun _ _ => hdone
    · exact fun _ _ => hdone

/-- where everything works and no host is matched, a success is recorded and nothing written -/
theorem nowhere_deployNow {nodes : Nodes} {cfg : Config} {log : List String → Option String} {deployment : Deployment F}
    {record : ℕ} {command : Command} {w : World F} {r : Record F} (hnone : targets nodes command deployment.cluster = [])
    (hrecord : w.deployments[record]? = some r) :
    wp (demonic (· = Oracle.serves) (serve nodes deployment.cluster)) (deployNow cfg log deployment record command)
      (fun _ s' => s'.written = [] ∧ ∃ r', s'.world.deployments[record]? = some r' ∧ r'.state = .succeeded) ⟨w, []⟩ := by
  unfold deployNow
  rw [wp_bind, wp_perform]
  rintro o rfl
  rw [onOk_ok]
  dsimp only [serve]
  rw [hnone]
  have hrc : settle [] Oracle.serves.result = .ok ⟨some 0, none, false⟩ := rfl
  have hsuccess : failure (.ok ⟨some 0, none, false⟩) = none := rfl
  have hwrote : wrote [] (.ok ⟨some 0, none, false⟩) = [] := rfl
  rw [hrc, hsuccess, if_pos rfl, hwrote, wp_bind, wp_perform]
  rintro o rfl
  rw [onOk_ok]
  have hlt : record < w.deployments.length := (List.getElem?_eq_some_iff.1 hrecord).1
  have hdone : ∃ r', (w.finish record .succeeded none (log Oracle.serves.lines)).deployments[record]? = some r' ∧
      r'.state = .succeeded := by
    rw [finish_of_get hrecord]
    exact ⟨_, List.getElem?_set_self hlt, rfl⟩
  have hserved : (serve nodes deployment.cluster Oracle.serves (.finish record .succeeded none (log Oracle.serves.lines))
      ⟨w, [] ++ []⟩ : _ × Site F) = (.ok (), ⟨w.finish record .succeeded none (log Oracle.serves.lines), []⟩) := rfl
  rw [hserved]
  dsimp only
  split_ifs
  · rw [wp_bind, wp_perform]
    rintro o rfl o' rfl
    exact ⟨rfl, hdone⟩
  · rintro o rfl
    exact ⟨rfl, hdone⟩

/-- what an accepted request hands on: the cluster's inventory, and a record of its own that is under way -/
structure Accepted (cfg : Config) (deployment : Deployment F) (record : ℕ) (command : Command) (w : World F) : Prop where
  inventory : cfg.inventories.lookup deployment.cluster = some command.inventory
  record : ∃ r, w.deployments[record]? = some r ∧ r.deployment = deployment ∧ r.state = .running

/-- **A deployment is honest exactly when it has a host to write to.** -/
theorem honest_iff {nodes : Nodes} {cfg : Config} {log : List String → Option String} {deployment : Deployment F}
    {record : ℕ} {command : Command} {w : World F} (h : Accepted cfg deployment record command w) :
    Honest nodes cfg log deployment record command w ↔ targets nodes command deployment.cluster ≠ [] := by
  obtain ⟨r, hr, -, hstate⟩ := h.record
  constructor
  · intro hhonest hnone
    have hrun := @wp_run (Act F) Act.Answer Service.Exn Unit Oracle (Site F) (· = Oracle.serves)
      (serve nodes deployment.cluster) _ _ _ ⟨w, []⟩ [] rfl (fun o ho => by cases ho)
      (@nowhere_deployNow F nodes cfg log deployment record command w r hnone hr)
    obtain ⟨hwritten, r', hr', hsucceeded⟩ := hrun
    exact hhonest.recorded [] r' hr' hsucceeded hwritten
  · intro hhosts
    have howes := @owes_deployNow F nodes cfg log deployment record command w hhosts fun r' hr' => by
      rw [hr] at hr'
      rw [← Option.some.inj hr', hstate]
      decide
    have hrun : ∀ os : List Oracle, Owes record w (run (serve nodes deployment.cluster) os
        (deployNow cfg log deployment record command) ⟨w, []⟩).2 := fun os =>
      @wp_run (Act F) Act.Answer Service.Exn Unit Oracle (Site F) (fun _ => True) (serve nodes deployment.cluster) _ _
        (fun _ s' => Owes record w s') ⟨w, []⟩ os trivial (fun _ _ => trivial) howes
    refine ⟨fun os r' hr' hsucceeded hnone => ?_, fun os hrows hnone => ?_, ?_⟩
    · exact (hrun os hnone).2 r' hr' hsucceeded
    · exact hrows (hrun os hnone).1
    · refine (preflight_ok _ _ _).2 ⟨command.inventory, h.inventory, fun hempty => hhosts ?_⟩
      unfold targets Role.hosts
      rw [hempty]
      cases targetRole command <;> rfl

/-! ## What an accepted request hands on -/

section Accept

variable {α : Type} {w : World F}

/-- with its results meeting `K`, whatever the outside does -/
abbrev Hands (p : M F α) (K : α → World F → Prop) (w : World F) : Prop :=
  Yields (demonic (fun _ => True) handle) (fun _ => True) p K w

theorem hands_bind {β : Type} {p : M F α} {f : α → M F β} {K : β → World F → Prop} :
    Hands (p >>= f) K w ↔ Hands p (fun a w' => Hands (f a) K w') w := yields_bind

theorem hands_act {e : Act F} {β : Type} {f : e.Answer → M F β} {K : β → World F → Prop}
    (h : ∀ o, Hands (f (handle o e w).1) K (handle o e w).2) : Hands (perform e >>= f) K w :=
  hands_bind.2 fun o _ => h o

/-- the auditing leaves the tables alone -/
theorem hands_audited {principal : Principal} {actionType targetKind targetId reason : String} {cluster : Option String}
    {body : M F α} {K : α → World F → Prop} (hbody : ∀ w', w' = w → Hands body K w')
    (hlog : ∀ a w' log, K a w' → K a { w' with auditLog := log }) :
    Hands (audited principal actionType targetKind targetId cluster reason body) K w := by
  unfold audited
  cases normaliseReason reason with
  | none => trivial
  | some clean =>
    refine hands_act ?_
    intro o
    split_ifs
    · refine hands_bind.2 ?_
      refine yields_tryCatch demonic_mono (fun _ => True) ((hbody w rfl).mono demonic_mono (fun _ h => h) ?_) ?_
      · exact fun a w' hK => hands_act fun o => hlog a w' _ hK
      · exact fun e w' _ => hands_act fun o => trivial
    · trivial

theorem hands_launch {principal : Principal} {storeClass busy actionType targetId : String} {deployment : Deployment F} :
    Hands (launch principal storeClass busy actionType targetId deployment)
      (fun record w' => ∃ r, w'.deployments[record]? = some r ∧ r.deployment = deployment ∧ r.state = .running) w := by
  unfold launch
  refine hands_act ?_
  intro o
  split_ifs
  · refine yields_tryCatch demonic_mono (fun _ => True) (hands_audited (fun w' _ => ?_) fun a w' log h => h) ?_
    · refine hands_act ?_
      intro o'
      rcases answer_cases o' w' (w'.deployments.length,
        { w' with deployments := w'.deployments ++ [⟨deployment, .running, none, none⟩] }) with ⟨e, h⟩ | h
      · change Hands (lift (StoreError.raw storeClass) (answer o' w' _).1) _ _
        rw [h]
        trivial
      · change Hands (lift (StoreError.raw storeClass) (answer o' w' _).1) _ (answer o' w' _).2
        rw [h]
        exact ⟨⟨deployment, .running, none, none⟩, List.getElem?_concat_length, rfl, rfl⟩
    · exact fun e w' _ => hands_act fun o => trivial
  · trivial

theorem hands_rowOr404 {what : String} {id : ℕ} {K : Row F → World F → Prop} (h : ∀ row, K row w) :
    Hands (rowOr404 what id) K w := by
  refine yields_rowOr404 demonic_mono fun o _ => ⟨trivial, fun row _ => ?_⟩
  have hsame : (handle o (.get id) w).2 = w := by
    rcases answer_cases o w (w.rows id, w) with ⟨e, heq⟩ | heq <;> rw [handle, heq]
  rw [hsame]
  exact h row

end Accept

/-! ## Both services -/

section Services

-- who is reached does not depend on what validation accepts, and must not be unfolded to it
attribute [local irreducible] ConfigEdit.validate Catalogs.validate Catalogs.refuseDeploy

variable (nodes : Nodes) (cfg : Config) (principal : Principal) (id : ℕ) (cluster reason : String)

theorem targetRole_edit (encode : EditService.Encoding) (inventory : String) (clean : ConfigEdit.Fields) :
    targetRole (EditService.command encode cfg inventory clean) = clean.targetRole := by
  have hlookup : (EditService.command encode cfg inventory clean).extraVars.lookup "target_role" =
      some clean.targetRole.name := by simp [EditService.command]
  have hrole : roleNames.lookup clean.targetRole.name = some clean.targetRole := by
    cases clean.targetRole <;> decide
  rw [targetRole, hlookup, Option.bind_some, hrole, Option.getD_some]

theorem targetRole_catalog (py : CatalogService.Python) (inventory action : String) (fields : Catalogs.Fields) :
    targetRole (CatalogService.command py cfg inventory action fields) = .all := by
  have hlookup : (CatalogService.command py cfg inventory action fields).extraVars.lookup "target_role" = none := by
    simp [CatalogService.command, List.lookup_cons]
  rw [targetRole, hlookup, Option.bind_none, Option.getD_none]

theorem hands_edit {py : ConfigEdit.Letters} {encode : EditService.Encoding} {w : World ConfigEdit.Fields} :
    Hands (EditService.deploy py encode cfg principal id cluster reason) (fun started w' =>
      started.deployment.cluster = cluster ∧ targetRole started.command = started.deployment.fields.targetRole ∧
        Accepted cfg started.deployment started.record started.command w') w := by
  unfold EditService.deploy
  refine hands_bind.2 (yields_requireAdmin trivial ?_)
  refine hands_bind.2 (yields_clusterOr404 trivial ?_)
  intro inventory hinventory
  refine hands_bind.2 (hands_rowOr404 ?_)
  intro change
  refine hands_bind.2 (EditService.yields_validated trivial ?_)
  intro clean _
  refine hands_act ?_
  intro o
  dsimp only
  split
  · trivial
  · refine hands_bind.2 (hands_launch.mono demonic_mono (fun _ h => h) ?_)
    intro record w' hrecord
    exact ⟨rfl, targetRole_edit cfg encode inventory clean, hinventory, hrecord⟩

theorem hands_begin {py : CatalogService.Python} {inventory action : String} {draft : CatalogService.Draft}
    {w : World Catalogs.Fields} (hinventory : cfg.inventories.lookup cluster = some inventory) :
    Hands (CatalogService.begin py cfg principal inventory action draft cluster reason) (fun started w' =>
      started.deployment.cluster = cluster ∧ targetRole started.command = .all ∧
        Accepted cfg started.deployment started.record started.command w') w := by
  unfold CatalogService.begin
  refine hands_bind.2 (hands_launch.mono demonic_mono (fun _ h => h) ?_)
  intro record w' hrecord
  exact ⟨rfl, targetRole_catalog cfg py inventory action draft.fields, hinventory, hrecord⟩

theorem hands_catalog {py : CatalogService.Python} {action : String} {w : World Catalogs.Fields} :
    Hands (CatalogService.deploy py cfg principal id cluster reason action) (fun started w' =>
      started.deployment.cluster = cluster ∧ targetRole started.command = .all ∧
        Accepted cfg started.deployment started.record started.command w') w := by
  unfold CatalogService.deploy
  refine hands_bind.2 (yields_requireAdmin trivial ?_)
  refine hands_bind.2 (yields_clusterOr404 trivial ?_)
  intro inventory hinventory
  refine hands_bind.2 (hands_rowOr404 ?_)
  intro draft
  refine yields_ite (fun _ => trivial) fun _ => yields_ite (fun _ => ?_) fun _ =>
    hands_begin cfg principal cluster reason hinventory
  refine hands_bind.2 ?_
  unfold CatalogService.allowed CatalogService.validated
  split
  · rw [hands_bind]
    split
    · trivial
    · exact hands_begin cfg principal cluster reason hinventory
  · trivial

/-- **Whom a deployment reaches.** An accepted deployment of a change is honest exactly when the inventory of its cluster
lists a host of the change's target role, one of a catalog exactly when the inventory lists a host. -/
theorem reaches_iff :
    (∀ (py : ConfigEdit.Letters) (encode : EditService.Encoding) (os : List Oracle) (w w' : World ConfigEdit.Fields)
      (started : EditService.Started),
      run handle os (EditService.deploy py encode cfg principal id cluster reason) w = (.ok started, w') →
      (Honest nodes cfg (fun lines => some (EditService.keptLog lines)) started.deployment started.record started.command
        w' ↔ ∃ inventory ∈ cfg.inventories.lookup cluster, Role.hosts started.deployment.fields.targetRole
          (loadInventory nodes.letters (nodes.files inventory) cluster) ≠ [])) ∧
    (∀ (py : CatalogService.Python) (action : String) (os : List Oracle) (w w' : World Catalogs.Fields)
      (started : CatalogService.Started),
      run handle os (CatalogService.deploy py cfg principal id cluster reason action) w = (.ok started, w') →
      (Honest nodes cfg (fun _ => none) started.deployment started.record started.command w' ↔
        ∃ inventory ∈ cfg.inventories.lookup cluster,
          loadInventory nodes.letters (nodes.files inventory) cluster ≠ [])) := by
  constructor
  · intro py encode os w w' started hrun
    have hends := @wp_run _ _ _ _ _ _ (fun _ => True) handle _ _ _ w os trivial (fun _ _ => trivial)
      (@hands_edit cfg principal id cluster reason py encode w)
    rw [hrun] at hends
    obtain ⟨hcluster, hrole, haccepted⟩ := hends
    have hinventory := haccepted.inventory
    rw [hcluster] at hinventory
    rw [honest_iff haccepted, targets, hrole, hinventory, hcluster]
    simp
  · intro py action os w w' started hrun
    have hends := @wp_run _ _ _ _ _ _ (fun _ => True) handle _ _ _ w os trivial (fun _ _ => trivial)
      (@hands_catalog cfg principal id cluster reason py action w)
    rw [hrun] at hends
    obtain ⟨hcluster, hrole, haccepted⟩ := hends
    have hinventory := haccepted.inventory
    rw [hcluster] at hinventory
    rw [honest_iff haccepted, targets, hrole, hinventory, hcluster]
    simp [Role.hosts]

end Services

namespace Sample

def admin : Principal := ⟨"kim", ["admin"]⟩

def cfg : Config :=
  ⟨["dev"], [("dev", "/etc/tms/dev.ini")], "ansible-playbook", "/etc/tms/deploy-config.yml", ["dev"]⟩

def letters : ConfigEdit.Letters := .ascii

def encode : EditService.Encoding := ⟨fun _ => "W3sia2V5Ijo="⟩

/-- an inventory file of this text -/
def nodes (text : String) : Nodes :=
  ⟨⟨id, fun c => c.isLower || c.isUpper || c.isDigit || c == '_'⟩, fun path => if path = "/etc/tms/dev.ini" then some text else none⟩

/-- a change for the workers -/
def change : Row ConfigEdit.Fields := ⟨1, ⟨"memory", .worker, [⟨"query.max-memory", .set, some "50GB"⟩]⟩, none, none⟩

/-- the change stored, and a scan of `dev` that knows the name -/
def world : World ConfigEdit.Fields where
  rows i := if i = 1 then some change else none
  nextId := 2
  deployments := []
  succeeded := []
  busy _ := false
  scans c := if c = "dev" then some [⟨"w1", "worker", true, none, [], [], ["query.max-memory"]⟩] else none
  auditLog := []

def request : M ConfigEdit.Fields EditService.Started := EditService.deploy letters encode cfg admin 1 "dev" "more memory"

/-- what the request hands on -/
def started : EditService.Started :=
  ⟨⟨1, "dev", false, change.fields, "more memory", "kim"⟩, 0, EditService.command encode cfg "/etc/tms/dev.ini" change.fields⟩

theorem accepted : run handle [] request world = (.ok started, (run handle [] request world).2) := by
  have hstarted : (run handle [] request world).1 = .ok started := by decide +kernel
  rw [← hstarted]

end Sample

/-- one worker, and the deployment is honest -/
theorem reaches_one : Honest (Sample.nodes "[worker]\nw1") Sample.cfg (fun lines => some (EditService.keptLog lines))
    Sample.started.deployment Sample.started.record Sample.started.command (run handle [] Sample.request Sample.world).2 := by
  refine ((reaches_iff (Sample.nodes "[worker]\nw1") Sample.cfg Sample.admin 1 "dev" "more memory").1 Sample.letters
    Sample.encode [] Sample.world _ Sample.started Sample.accepted).2 ?_
  exact ⟨"/etc/tms/dev.ini", by decide, by decide +kernel⟩

/-- **Proved on no host**: the inventory lists one coordinator. The deployment is recorded a success, the change is marked
as proved on `dev`, and nothing has been written. -/
theorem deployed_nowhere : ∃ s, s = (run (serve (Sample.nodes "[coordinator]\nc1") "dev") []
      (EditService.deployNow Sample.cfg Sample.started) ⟨(run handle [] Sample.request Sample.world).2, []⟩).2 ∧
    s.world.deployments.map (·.state) = [.succeeded] ∧ (s.world.rows 1).bind (·.verifiedOn) = some "dev" ∧
    s.written = [] ∧
    ¬ Honest (Sample.nodes "[coordinator]\nc1") Sample.cfg (fun lines => some (EditService.keptLog lines))
      Sample.started.deployment Sample.started.record Sample.started.command (run handle [] Sample.request Sample.world).2 := by
  refine ⟨_, rfl, by decide +kernel, by decide +kernel, by decide +kernel, fun h => ?_⟩
  have hrecorded := h.recorded []
  have hstate : ((run (serve (Sample.nodes "[coordinator]\nc1") "dev") [] (deployNow Sample.cfg
      (fun lines => some (EditService.keptLog lines)) Sample.started.deployment Sample.started.record
      Sample.started.command) ⟨(run handle [] Sample.request Sample.world).2, []⟩).2.world.deployments[0]?.map (·.state)) =
        some .succeeded := by decide +kernel
  obtain ⟨r, hr, hsucceeded⟩ := Option.map_eq_some_iff.1 hstate
  exact hrecorded r hr hsucceeded (by decide +kernel)

end TrinoManagement.Drafts
