/-
Changing the node list, `tms/fleet/nodeservice.py`: a row write, then a read of the rows, then the file.

- `writeInventory`: renders the list, writes it beside the file and moves it into place.
- `add`, `remove`, `scan`: the three ways to change the list; `Edit.prog`: any of them.
- `NodeWorld`, `serveNodes`: the table and the files, and what becomes of an effect that fails.
- `contract`: in which order an edit performs its effects, and what it writes. `conforms`: every edit keeps to it, and one
  that returns has moved its file.
- `edits`: any number of them side by side.
-/
import Mathlib.Tactic
import TrinoManagement.Api.Guard
import TrinoManagement.Core.Pool
import TrinoManagement.Fleet.Nodes

namespace TrinoManagement.Nodes

open TrinoManagement.Audit TrinoManagement.Guard
open TrinoManagement.Inventory (IsHost)
open TrinoManagement.Prog (onOk protocol protocol_mono wp wp_bind wp_mono)
open TrinoManagement.Service (Exn)
open TrinoManagement.Text

/-! ## Effects -/

/-- the rows of a cluster; `asOf` is a ghost, how often the table had changed when they were read -/
structure Listing where
  rows : List NodeRow
  asOf : ℕ
deriving DecidableEq, Repr

/-- a text, and of when the rows are that it was rendered from -/
structure Written where
  text : String
  asOf : ℕ
deriving DecidableEq, Repr

def Listing.written (cluster : String) (listing : Listing) : Written :=
  ⟨renderInventory cluster listing.rows, listing.asOf⟩

/-- a `TrinoClientError`, or another exception of the client -/
inductive QueryError where
  | trino (message : String)
  | other (className message : String)
deriving DecidableEq, Repr

inductive NodeAct where
  | list (cluster : String)
  | insert (row : NodeRow)
  | touch (cluster : String) (change : Change) (seenAt : ℤ)
  | remove (cluster host : String)
  /-- `NODES_QUERY` -/
  | queryNodes (cluster : String)
  /-- the directory, then the temporary file beside `path` -/
  | writeTemporary (path : String) (written : Written)
  /-- `os.replace(temporary, path)` -/
  | replace (path : String)
deriving DecidableEq

@[reducible] def NodeAct.Answer : NodeAct → Type
  | .list _ => Except String Listing
  | .insert _ => Except NodeStoreError NodeRow
  | .touch .. => Except String Unit
  | .remove .. => Except String Bool
  | .queryNodes _ => Except QueryError (List Value)
  | .writeTemporary .. | .replace _ => Except String Unit

abbrev NodeM (α : Type) := M NodeAct NodeAct.Answer α

/-- the clusters, the file of each, and whether TMS may query them -/
structure NodeListConfig where
  clusters : List String
  inventories : Dict String
  discovery : Bool

/-! ## The service -/

section Service

variable (lib : Library) (cfg : NodeListConfig)

def adminMessage : String := "Changing the node list is restricted to administrators."

def clusterOr404 (cluster : String) : Except Exn String :=
  if cluster ∉ cfg.clusters then .error (.notFound ("Unknown cluster: " ++ cluster))
  else
    match cfg.inventories.lookup cluster with
    | some path => if path = "" then .error (.invalidRequest (noPath cluster)) else .ok path
    | none => .error (.invalidRequest (noPath cluster))
where
  noPath (cluster : String) : String :=
    "No inventory path is configured for " ++ cluster ++ ", so TMS has nowhere to write the node list."

def target (cluster host : String) : Target :=
  ⟨"CLUSTER_NODE_CHANGE", "cluster_node", cluster ++ "/" ++ host, some cluster⟩

def rowsOf (cluster : String) : NodeM Listing := do lift .upstreamUnavailable (← op (.list cluster))

def couldNotWrite (path message : String) : Exn :=
  .upstreamUnavailable ("The node list could not be written to " ++ path ++ ": " ++ message)

/-- `_write_inventory` -/
def writeInventory (cluster path : String) : NodeM Unit := do
  let listing ← rowsOf cluster
  lift (couldNotWrite path) (← op (.writeTemporary path (listing.written cluster)))
  lift (couldNotWrite path) (← op (.replace path))

def addError (cluster host : String) : NodeStoreError → Exn
  | .duplicate => .invalidRequest (host ++ " is already listed for " ++ cluster ++ ".")
  | .unavailable m => .upstreamUnavailable m

def add (principal : Principal) (cluster host address role reason : String) : NodeM NodeRow := do
  requireAdmin principal adminMessage
  let path ← lift id (clusterOr404 cfg cluster)
  let entry ← lift .invalidRequest (validate lib cluster host address role cfg.clusters)
  audited principal (target cluster entry.host) (some reason) do
    let row ← lift (addError cluster entry.host) (← op (.insert ⟨entry.cluster, entry.host, entry.address, entry.role,
      .manual, some reason, principal.username, none, none, none⟩))
    writeInventory cluster path
    pure row

structure Removed where
  cluster : String
  host : String
  removed : Bool
deriving DecidableEq, Repr

def remove (principal : Principal) (cluster host reason : String) : NodeM Removed := do
  requireAdmin principal adminMessage
  let path ← lift id (clusterOr404 cfg cluster)
  let host := strip host
  audited principal (target cluster host) (some reason) do
    let removed ← lift .upstreamUnavailable (← op (.remove cluster host))
    refuse (if removed then none else some (.notFound (host ++ " is not listed for " ++ cluster ++ ".")))
    writeInventory cluster path
  pure ⟨cluster, host, true⟩

/-- `_advice_for` -/
def adviceFor (text : String) : String :=
  if "PERMISSION_DENIED".toList <:+: text.toList ∨ "Cannot execute query".toList <:+: text.toList then
    "The TMS account cannot execute queries. D-012 grants this deliberately - add `execute` to the `tms-svc` entry in " ++
      "OPA's `queries` rules, above the catch-all."
  else ""

def queryExn : QueryError → Exn
  | .trino m => .upstreamUnavailable (strip (m ++ " " ++ adviceFor m))
  | .other className m => .client className m

/-- a node of a scan whose host was added meanwhile, or is twice in the answer, is no store error to the scan -/
def scanError : NodeStoreError → Exn
  | .duplicate => .client "DuplicateNode" "that host is already listed for this cluster"
  | .unavailable m => .upstreamUnavailable m

def addAll (cluster : String) (seenAt : ℤ) : List Found → NodeM Unit
  | [] => pure ()
  | node :: rest => do
    let _ ← lift scanError (← op (.insert ⟨cluster, node.host, node.address, node.role, .discovered, none, "tms-scan",
      node.nodeId, node.version, some seenAt⟩))
    addAll cluster seenAt rest

def touchAll (cluster : String) (seenAt : ℤ) : List Change → NodeM Unit
  | [] => pure ()
  | change :: rest => do
    lift .upstreamUnavailable (← op (.touch cluster change seenAt))
    touchAll cluster seenAt rest

structure ScanResult where
  cluster : String
  added : List String
  refreshed : ℕ
  notAnswering : List String
  scannedAt : ℤ
deriving DecidableEq, Repr

def scan (principal : Principal) (cluster : String) (seenAt : ℤ) : NodeM ScanResult := do
  requireAdmin principal adminMessage
  let path ← lift id (clusterOr404 cfg cluster)
  refuse (if cfg.discovery then none else some (.invalidRequest ("TMS cannot query this cluster, so the node list cannot " ++
    "be scanned. Nodes can still be added by hand.")))
  let rows ← lift queryExn (← op (.queryNodes cluster))
  let found ← lift (.client "ValueError") (fromDiscovery lib rows cluster)
  let existing ← rowsOf cluster
  let plan := planRefresh existing.rows found
  addAll cluster seenAt plan.added
  touchAll cluster seenAt plan.touched
  writeInventory cluster path
  pure ⟨cluster, plan.added.map (·.host), plan.touched.length, plan.silent.map (·.host), seenAt⟩

/-- a change to the list of one cluster -/
inductive Edit where
  | add (principal : Principal) (host address role reason : String)
  | remove (principal : Principal) (host reason : String)
  | scan (principal : Principal) (seenAt : ℤ)

/-- what an edit does; its answer is left out -/
def Edit.prog (cluster : String) : Edit → NodeM Unit
  | .add principal host address role reason => do
    let _ ← Nodes.add lib cfg principal cluster host address role reason
  | .remove principal host reason => do
    let _ ← Nodes.remove cfg principal cluster host reason
  | .scan principal seenAt => do
    let _ ← Nodes.scan lib cfg principal cluster seenAt

end Service

/-! ## Who answers -/

/-- the table, how often it has changed, and the files -/
structure NodeWorld where
  rows : List NodeRow
  version : ℕ
  files : String → Option Written

/-- what is outside at one effect: a fault of the store or of the disk, and what the coordinator reports -/
structure NodeWeather where
  fault : Fault
  reported : Except QueryError (List Value)

instance : Inhabited NodeWeather := ⟨⟨.none, .ok []⟩⟩

/-- where the text stands before it is moved -/
def temporary (path : String) : String := path ++ ".tmp"

def NodeWorld.change (w : NodeWorld) (rows : List NodeRow) : NodeWorld :=
  { w with rows := rows, version := if rows = w.rows then w.version else w.version + 1 }

theorem change_same (w : NodeWorld) : w.change w.rows = w := by
  rw [NodeWorld.change, if_pos rfl]

/-- a row statement may fail before or after it took effect; so may a write, but a move is made or not -/
def serveNodes (collate : String → String → Bool) (o : NodeWeather) : (e : NodeAct) → NodeWorld → e.Answer × NodeWorld
  | .list cluster, w => o.fault.strike id w (.ok ⟨listed w.rows cluster collate, w.version⟩, w)
  | .insert row, w => o.fault.strike .unavailable w ((insertRow w.rows row).1, w.change (insertRow w.rows row).2)
  | .touch cluster change seenAt, w => o.fault.strike id w (.ok (), w.change (touchRow w.rows cluster change seenAt))
  | .remove cluster host, w =>
    o.fault.strike id w (.ok (removeRow w.rows cluster host).1, w.change (removeRow w.rows cluster host).2)
  | .queryNodes _, w => (o.reported, w)
  | .writeTemporary path written, w =>
    o.fault.strike id w (.ok (), { w with files := Function.update w.files (temporary path) (some written) })
  | .replace path, w =>
    match o.fault, w.files (temporary path) with
    | .none, some written =>
      (.ok (), { w with files := Function.update (Function.update w.files path (some written)) (temporary path) none })
    | .none, none => (.error "No such file or directory", w)
    | .failed m, _ | .lost m, _ => (.error m, w)

/-- the rows once a statement has taken effect -/
def NodeAct.rowsAfter (rows : List NodeRow) : NodeAct → List NodeRow
  | .insert row => (insertRow rows row).2
  | .touch cluster change seenAt => touchRow rows cluster change seenAt
  | .remove cluster host => (removeRow rows cluster host).2
  | _ => rows

theorem rows_serveNodes (collate : String → String → Bool) (o : NodeWeather) (e : NodeAct) (w : NodeWorld) :
    (serveNodes collate o e w).2.rows = w.rows ∨ (serveNodes collate o e w).2.rows = e.rowsAfter w.rows := by
  cases e with
  | queryNodes cluster => exact .inl rfl
  | replace path =>
    rw [serveNodes]
    split <;> exact .inl rfl
  | list cluster => rw [serveNodes]; cases o.fault <;> exact .inl rfl
  | writeTemporary path written => rw [serveNodes]; cases o.fault <;> exact .inl rfl
  | insert row =>
    rw [serveNodes]
    cases o.fault with
    | failed m => exact .inl rfl
    | none | lost m => exact .inr rfl
  | touch cluster change seenAt =>
    rw [serveNodes]
    cases o.fault with
    | failed m => exact .inl rfl
    | none | lost m => exact .inr rfl
  | remove cluster host =>
    rw [serveNodes]
    cases o.fault with
    | failed m => exact .inl rfl
    | none | lost m => exact .inr rfl

/-! ## The order of effects -/

/-- how far an edit is: nothing changed yet, rows changed, rows read after that, the temporary file written, moved -/
inductive Phase where
  | free
  | changed
  | read (listing : Listing)
  | wrote (listing : Listing)
  | moved
deriving DecidableEq

/-- rows may still change -/
def Phase.Open : Phase → Prop
  | .free | .changed | .read _ => True
  | .wrote _ | .moved => False

/-- an edit's phase, what the coordinator reported to it, and whether an effect of it has failed -/
structure Ghost where
  phase : Phase
  reported : List Value
  failed : Bool

def Ghost.fresh : Ghost := ⟨.free, [], false⟩

/-- after an effect that answered `r`; a statement whose answer is an error may have changed the table all the same -/
def Ghost.after (g : Ghost) : (e : NodeAct) → e.Answer → Ghost
  | .list _, .ok listing => { g with phase := .read listing }
  | .list _, .error _ => { g with failed := true }
  | .insert _, .ok _ => { g with phase := .changed }
  | .insert _, .error .duplicate => { g with failed := true }
  | .insert _, .error (.unavailable _) => { g with phase := .changed, failed := true }
  | .touch .., .ok () => { g with phase := .changed }
  | .touch .., .error _ => { g with phase := .changed, failed := true }
  | .remove .., .ok removed => if removed then { g with phase := .changed } else g
  | .remove .., .error _ => { g with phase := .changed, failed := true }
  | .queryNodes _, .ok rows => { g with reported := rows }
  | .queryNodes _, .error _ => { g with failed := true }
  | .writeTemporary .., r =>
    { g with
      phase := match g.phase with
        | .read listing => .wrote listing
        | phase => phase
      failed := r.isOk = false }
  | .replace _, .ok () => { g with phase := .moved }
  | .replace _, .error _ => { g with failed := true }

/-- what was reported to an edit changes with its query alone -/
theorem reported_after {g : Ghost} {e : NodeAct} {r : e.Answer} (h : ∀ cluster, e ≠ .queryNodes cluster) :
    (g.after e r).reported = g.reported := by
  cases e with
  | queryNodes cluster => exact absurd rfl (h cluster)
  | insert row =>
    cases r with
    | ok row => rfl
    | error e => cases e <;> rfl
  | remove cluster host =>
    cases r with
    | ok removed => cases removed <;> rfl
    | error m => rfl
  | list cluster | touch cluster change seenAt | writeTemporary path written | replace path => cases r <;> rfl

section Contract

variable (lib : Library) (cfg : NodeListConfig) (cluster : String)

/-- where the names of a row come from: they were checked, or they are the host of a reported URI -/
structure RowOf (reported : List Value) (row : NodeRow) : Prop where
  cluster : row.cluster = cluster ∨ row.cluster = strip cluster ∧ strip cluster ∈ cfg.clusters
  names : (IsHost row.host ∧ IsHost row.address) ∨ (row.address = row.host ∧ row.host ≠ "" ∧
    ∃ node ∈ reported, hostOf lib (node.get "http_uri") = .ok row.host)

/-- an effect an edit of `cluster` may perform -/
def Permitted (g : Ghost) : NodeAct → Prop
  | .list c | .touch c _ _ | .remove c _ => c = cluster ∧ g.phase.Open
  | .insert row => RowOf lib cfg cluster g.reported row ∧ g.phase.Open
  | .queryNodes c => c = cluster ∧ g.phase = .free
  | .writeTemporary path written => clusterOr404 cfg cluster = .ok path ∧
      ∃ listing, g.phase = .read listing ∧ written = listing.written cluster
  | .replace path => clusterOr404 cfg cluster = .ok path ∧ ∃ listing, g.phase = .wrote listing

/-- nothing is done after a failure -/
def contract : Prog.Protocol NodeAct NodeAct.Answer Ghost where
  ok g e := g.failed = false ∧ Permitted lib cfg cluster g e
  next := Ghost.after

/-- how an edit ends: its file is moved, or an effect has failed, or nothing was changed -/
def Ended {α : Type} (x : Except Exn α) (g : Ghost) : Prop :=
  match x with
  | .ok _ => g.failed = false ∧ g.phase = .moved
  | .error _ => g.failed = true ∨ g.phase = .free

/-- how a part of an edit ends that changes rows: with more rows to change, or in a failure -/
def Onward {α : Type} (reported : List Value) (x : Except Exn α) (g : Ghost) : Prop :=
  match x with
  | .ok _ => g.failed = false ∧ g.phase.Open ∧ g.reported = reported
  | .error _ => g.failed = true

end Contract

section Conforms

variable {lib : Library} {cfg : NodeListConfig} {cluster path : String} {principal : Principal} {g : Ghost}

/-- what an edit answers does not matter to how it ends -/
theorem ended_answer {α β : Type} {p : NodeM α} {b : β}
    (hp : wp (protocol (guarded (contract lib cfg cluster))) p Ended g) :
    wp (protocol (guarded (contract lib cfg cluster))) (p >>= fun _ => pure b) Ended g := by
  rw [wp_bind]
  refine wp_mono protocol_mono ?_ hp
  intro x g' hx
  cases x with
  | ok _ => exact hx
  | error e => exact hx

/-- what every edit checks first -/
theorem ended_entry {α : Type} {f : String → NodeM α} (hf : ∀ path, clusterOr404 cfg cluster = .ok path →
      wp (protocol (guarded (contract lib cfg cluster))) (f path) Ended .fresh) :
    wp (protocol (guarded (contract lib cfg cluster)))
      (requireAdmin principal adminMessage >>= fun _ => lift id (clusterOr404 cfg cluster) >>= f) Ended .fresh := by
  rw [requireAdmin, wp_bind]
  refine wp_refuse ?_ fun _ _ => .inr rfl
  intro _
  dsimp only [onOk]
  rw [wp_bind]
  exact wp_lift hf fun _ _ => .inr rfl

theorem wp_rowsOf {Q : Except Exn Listing → Ghost → Prop} (hfailed : g.failed = false) (hopen : g.phase.Open)
    (hok : ∀ listing, Q (.ok listing) { g with phase := .read listing })
    (herror : ∀ e, Q (.error e) { g with failed := true }) :
    wp (protocol (guarded (contract lib cfg cluster))) (rowsOf cluster) Q g := by
  rw [rowsOf, wp_bind]
  refine wp_op ⟨hfailed, rfl, hopen⟩ ?_
  intro r
  cases r with
  | ok listing => exact hok listing
  | error m => exact herror _

/-- once the rows have changed, an edit moves its file or fails -/
theorem wp_writeInventory (hpath : clusterOr404 cfg cluster = .ok path) (hfailed : g.failed = false)
    (hopen : g.phase.Open) :
    wp (protocol (guarded (contract lib cfg cluster))) (writeInventory cluster path) Ended g := by
  rw [writeInventory, wp_bind]
  refine wp_rowsOf hfailed hopen ?_ fun e => .inl rfl
  intro listing
  dsimp only [onOk]
  rw [wp_bind]
  refine wp_op ⟨hfailed, hpath, listing, rfl, rfl⟩ ?_
  intro wrote
  dsimp only [onOk]
  rw [wp_bind]
  refine wp_lift ?_ ?_
  · intro _ hwrote
    subst hwrote
    dsimp only [onOk]
    rw [wp_bind]
    refine wp_op ⟨rfl, hpath, listing, rfl⟩ ?_
    intro moved
    cases moved with
    | ok _ => exact ⟨rfl, rfl⟩
    | error m => exact .inl rfl
  · intro m hwrote
    subst hwrote
    exact .inl rfl

theorem wp_addAll {seenAt : ℤ} {nodes : List Found} (hnodes : ∀ node ∈ nodes, node.address = node.host ∧ node.host ≠ "" ∧
      ∃ row ∈ g.reported, hostOf lib (row.get "http_uri") = .ok node.host)
    (hfailed : g.failed = false) (hopen : g.phase.Open) :
    wp (protocol (guarded (contract lib cfg cluster))) (addAll cluster seenAt nodes) (Onward g.reported) g := by
  induction nodes generalizing g with
  | nil => exact ⟨hfailed, hopen, rfl⟩
  | cons node rest ih =>
    rw [addAll, wp_bind]
    refine wp_op ⟨hfailed, ⟨.inl rfl, .inr (hnodes node List.mem_cons_self)⟩, hopen⟩ ?_
    intro r
    dsimp only [onOk]
    rw [wp_bind]
    refine wp_lift ?_ ?_
    · intro row hrow
      subst hrow
      exact ih (g := { g with phase := .changed }) (fun node hnode => hnodes node (List.mem_cons_of_mem _ hnode)) hfailed trivial
    · intro e he
      subst he
      cases e <;> rfl

theorem wp_touchAll {seenAt : ℤ} {changes : List Change} (hfailed : g.failed = false) (hopen : g.phase.Open) :
    wp (protocol (guarded (contract lib cfg cluster))) (touchAll cluster seenAt changes) (Onward g.reported) g := by
  induction changes generalizing g with
  | nil => exact ⟨hfailed, hopen, rfl⟩
  | cons change rest ih =>
    rw [touchAll, wp_bind]
    refine wp_op ⟨hfailed, rfl, hopen⟩ ?_
    intro r
    dsimp only [onOk]
    rw [wp_bind]
    refine wp_lift ?_ ?_
    · intro _ hr
      subst hr
      exact ih (g := { g with phase := .changed }) hfailed trivial
    · intro e he
      subst he
      rfl

theorem add_conforms {host address role reason : String} : wp (protocol (guarded (contract lib cfg cluster)))
    (add lib cfg principal cluster host address role reason) Ended .fresh := by
  refine ended_entry ?_
  intro path hpath
  rw [wp_bind]
  refine wp_lift ?_ fun _ _ => .inr rfl
  intro entry hentry
  obtain ⟨hcluster, hknown, hhost, haddress⟩ := validate_ok hentry
  have hconfigured : cfg.clusters ≠ [] := by
    intro hnil
    rw [clusterOr404, hnil, if_pos List.not_mem_nil] at hpath
    cases hpath
  refine wp_audited (fun _ => .inr rfl) ?_
  rw [wp_bind]
  refine wp_op ⟨rfl, ⟨.inr ⟨hcluster, hknown hconfigured⟩, .inl ⟨hhost, haddress⟩⟩, trivial⟩ ?_
  intro r
  dsimp only [onOk]
  rw [wp_bind]
  refine wp_lift ?_ ?_
  · intro row hrow
    subst hrow
    exact ended_answer (wp_writeInventory hpath rfl trivial)
  · intro e he
    subst he
    cases e <;> exact .inl rfl

theorem remove_conforms {host reason : String} : wp (protocol (guarded (contract lib cfg cluster)))
    (remove cfg principal cluster host reason) Ended .fresh := by
  refine ended_entry ?_
  intro path hpath
  refine ended_answer (wp_audited (fun _ => .inr rfl) ?_)
  rw [wp_bind]
  refine wp_op ⟨rfl, rfl, trivial⟩ ?_
  intro r
  dsimp only [onOk]
  rw [wp_bind]
  refine wp_lift ?_ ?_
  · intro removed hremoved
    subst hremoved
    dsimp only [onOk]
    rw [wp_bind]
    refine wp_refuse ?_ ?_
    · intro hnone
      have hremoved : removed = true := by
        by_contra hnot
        rw [if_neg hnot] at hnone
        cases hnone
      subst hremoved
      exact wp_writeInventory hpath rfl trivial
    · intro e hsome
      have hremoved : removed = false := by
        by_contra hnot
        rw [if_pos (by simpa using hnot)] at hsome
        cases hsome
      subst hremoved
      exact .inr rfl
  · intro e he
    subst he
    exact .inl rfl

theorem scan_conforms {seenAt : ℤ} : wp (protocol (guarded (contract lib cfg cluster)))
    (scan lib cfg principal cluster seenAt) Ended .fresh := by
  refine ended_entry ?_
  intro path hpath
  rw [wp_bind]
  refine wp_refuse ?_ fun _ _ => .inr rfl
  intro _
  dsimp only [onOk]
  rw [wp_bind]
  refine wp_op ⟨rfl, rfl, rfl⟩ ?_
  intro r
  dsimp only [onOk]
  rw [wp_bind]
  refine wp_lift ?_ ?_
  · intro rows hrows
    subst hrows
    dsimp only [onOk]
    rw [wp_bind]
    refine wp_lift ?_ fun _ _ => .inr rfl
    intro found hfound
    dsimp only [onOk]
    rw [wp_bind]
    refine wp_rowsOf rfl trivial ?_ fun _ => .inl rfl
    intro existing
    dsimp only [onOk]
    rw [wp_bind]
    refine wp_mono protocol_mono ?_ (wp_addAll ?_ rfl trivial)
    · intro x g hx
      cases x with
      | error e => exact .inl hx
      | ok _ =>
        obtain ⟨hfailed, hopen, -⟩ := hx
        dsimp only [onOk]
        rw [wp_bind]
        refine wp_mono protocol_mono ?_ (wp_touchAll hfailed hopen)
        intro x g hx
        cases x with
        | error e => exact .inl hx
        | ok _ =>
          obtain ⟨hfailed, hopen, -⟩ := hx
          exact ended_answer (wp_writeInventory hpath hfailed hopen)
    · intro node hnode
      obtain ⟨-, hnode⟩ := mem_fromDiscovery hfound (List.mem_filter.1 hnode).1
      exact hnode
  · intro e he
    subst he
    exact .inl rfl

/-- **Every edit keeps to the contract**, whatever the table, the disk and the coordinator answer. -/
theorem conforms (edit : Edit) :
    wp (protocol (guarded (contract lib cfg cluster))) (edit.prog lib cfg cluster) Ended .fresh := by
  cases edit with
  | add principal host address role reason => exact ended_answer add_conforms
  | remove principal host reason => exact ended_answer remove_conforms
  | scan principal seenAt => exact ended_answer scan_conforms

end Conforms

/-! ## Edits side by side -/

/-- an edit, and the cluster it is of -/
structure Request where
  cluster : String
  edit : Edit

/-- any number of edits, one effect at a time; nothing else changes the table or the files -/
def edits (lib : Library) (cfg : NodeListConfig) (collate : String → String → Bool) :
    Pool.System Request (Act NodeAct) (Answer NodeAct.Answer) Exn Unit (Oracle NodeWeather) Empty (Site NodeWorld) Ghost where
  program request := request.edit.prog lib cfg request.cluster
  protocol request := guarded (contract lib cfg request.cluster)
  fresh := .fresh
  handle := handle (serveNodes collate)
  spawned _ site := site
  outside _ site := site

end TrinoManagement.Nodes
