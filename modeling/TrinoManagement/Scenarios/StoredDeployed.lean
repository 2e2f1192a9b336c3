/-
A stored change can be deployed, and what is deployed is what was stored.

A change is validated when it is stored and again when it is deployed. The second validation reads what the first one
returned; if any rule of it were about the text as it comes in and not about what is left of it, a change could be stored
that no deployment ever takes.

- `Delivers`: what a request may store, start and run, by what it has read. Every request keeps to it.
- `Delivered`: what a history of the service has to show. `deployed_as_stored`: every history of it does, whoever edits,
  deletes and deploys at the same time, and whatever the stores and the playbook do.
-/
import Mathlib.Tactic
import TrinoManagement.Config.EditBody
import TrinoManagement.Core.Pool
import TrinoManagement.Scenarios.ProofMarks

namespace TrinoManagement.Deliveries

open TrinoManagement.Audit TrinoManagement.ConfigEdit TrinoManagement.Drafts TrinoManagement.EditService
open TrinoManagement.Prog
open TrinoManagement.Service (Exn)

-- the order of a request does not depend on what validation accepts
attribute [local irreducible] ConfigEdit.validate

abbrev Tape := Drafts.Tape Fields

abbrev Moves := List (Pool.Move Task Oracle (String × Option (List ConfigScan.Node)))

/-! ## What a request may do -/

section Order

variable (encode : Encoding) (cfg : Config)

/-- clean fields are stored; a deployment carries the draft its request has read, and its playbook what it carries -/
def Delivers (g : Tape) : Act Fields → Prop
  | .create fields _ => fields.Clean
  | .update _ fields _ _ => fields.Clean
  | .start d => ∃ row ∈ g.seen, d.draft = row.id ∧ (row.fields.Clean → d.fields = row.fields)
  | .runPlaybook command => ∃ p ∈ g.started, ∃ inventory, cfg.inventories.lookup p.2.cluster = some inventory ∧
      command = EditService.command encode cfg inventory p.2.fields
  | _ => True

def delivering : Protocol (Act Fields) Act.Answer Tape := ⟨Delivers encode cfg, Tape.after⟩

variable {encode} {cfg} {py : Letters} {principal : Principal} {g : Tape} {α : Type}

theorem delivering_quiet : Quiet (delivering encode cfg) where
  writable _ := ⟨trivial, fun _ => rfl⟩
  write _ _ := ⟨trivial, fun _ => rfl⟩
  acquire _ _ := ⟨trivial, fun _ => rfl⟩
  release _ _ := ⟨trivial, fun _ => rfl⟩

variable (encode) (cfg) in
/-- the program keeps to the order; if it returns, it ends as `K` says -/
abbrev Keeps (p : M Fields α) (K : α → Tape → Prop) (g : Tape) : Prop :=
  Yields (protocol (delivering encode cfg)) (fun _ => True) p K g

theorem keeps_row {id : ℕ} {K : EditService.Change → Tape → Prop} (h : ∀ row, K row { g with seen := some row }) :
    Keeps encode cfg (rowOr404 "change" id) K g := yields_read trivial h

theorem keeps_validated {pre title targetRole : String} {entries : List RawEntry} {K : Fields → Tape → Prop}
    (h : ∀ clean, validate py title targetRole entries = .ok clean → K clean g) :
    Keeps encode cfg (validated py pre title targetRole entries) K g := yields_validated trivial h

theorem keeps_deploy {id : ℕ} {cluster reason : String} :
    Keeps encode cfg (EditService.deploy py encode cfg principal id cluster reason) (fun started g' =>
      g'.started = some (started.record, started.deployment) ∧ ∃ inventory,
        cfg.inventories.lookup started.deployment.cluster = some inventory ∧
          started.command = EditService.command encode cfg inventory started.deployment.fields) g := by
  unfold EditService.deploy
  refine yields_bind.2 (yields_requireAdmin trivial (yields_bind.2 (yields_clusterOr404 trivial ?_)))
  intro inventory hinventory
  refine yields_bind.2 (keeps_row ?_)
  intro row
  refine yields_bind.2 (keeps_validated ?_)
  intro clean hclean
  refine yields_act trivial ?_
  intro nodes
  dsimp only
  split
  · trivial
  · -- a clean draft validates to itself
    have hsame : row.fields.Clean → { clean with title := row.fields.title } = row.fields := by
      intro hrow
      rw [validate_idem hrow] at hclean
      obtain rfl := Except.ok.inj hclean
      rfl
    refine yields_bind.2 (yields_launch delivering_quiet ⟨row, rfl, rfl, hsame⟩ ?_)
    intro record
    exact ⟨rfl, inventory, hinventory, rfl⟩

theorem keeps_deployNow {started : Started} (hstarted : g.started = some (started.record, started.deployment))
    (hcommand : ∃ inventory, cfg.inventories.lookup started.deployment.cluster = some inventory ∧
      started.command = EditService.command encode cfg inventory started.deployment.fields) :
    Keeps encode cfg (EditService.deployNow cfg started) (fun _ _ => True) g := by
  unfold EditService.deployNow Drafts.deployNow
  refine yields_act ⟨_, hstarted, hcommand⟩ ?_
  intro ran
  dsimp only
  refine yields_act trivial ?_
  intro r
  cases r with
  | error e => exact ⟨trivial, fun _ => trivial⟩
  | ok done =>
    refine yields_ite (fun _ => yields_act trivial fun _ => ?_) fun _ => ?_
    · exact ⟨trivial, fun _ => trivial⟩
    · exact ⟨trivial, fun _ => trivial⟩

/-- **Every request keeps to the order.** -/
theorem keeps_task (task : Task) : Keeps encode cfg (task.prog py encode cfg) (fun _ _ => True) g := by
  cases task with
  | create principal title targetRole entries notes reason =>
    refine yields_bind.2 (yields_requireAdmin trivial (yields_bind.2 (keeps_validated ?_)))
    intro clean hclean
    refine yields_bind.2 (yields_audited delivering_quiet ?_)
    exact yields_act (validate_ok hclean) fun r => yields_lift trivial fun _ _ => trivial
  | update principal id title targetRole entries notes reason =>
    refine yields_bind.2 (yields_requireAdmin trivial (yields_bind.2 (keeps_row ?_)))
    intro row
    refine yields_bind.2 (keeps_validated ?_)
    intro clean hclean
    refine yields_bind.2 (yields_audited delivering_quiet ?_)
    exact yields_act (validate_ok hclean) fun r => yields_lift trivial fun _ _ => trivial
  | delete principal id reason =>
    refine yields_bind.2 (yields_requireAdmin trivial (yields_bind.2 (keeps_row ?_)))
    intro row
    refine yields_audited delivering_quiet ?_
    exact yields_act trivial fun r => yields_lift trivial fun _ _ => trivial
  | deploy principal id cluster reason =>
    refine yields_bind.2 (keeps_deploy.mono protocol_mono (fun _ h => h) ?_)
    intro started g' h
    exact keeps_deployNow h.1 h.2

end Order

/-! ## One effect -/

section Effect

/-- the deployments that have a record -/
def sent (w : World Fields) : List (Deployment Fields) := w.deployments.map (·.deployment)

/-- the drafts as they are stored: under their own ids, and clean -/
def Kept (w : World Fields) : Prop :=
  ∀ (id : ℕ) (row : EditService.Change), w.rows id = some row → row.id = id ∧ row.fields.Clean

variable {encode : Encoding} {cfg : Config} {w : World Fields} {g : Tape}

theorem Kept.rows (h : Kept w) {w' : World Fields} (hrows : w'.rows = w.rows) : Kept w' := by
  intro id row hrow
  rw [hrows] at hrow
  exact h id row hrow

/-- one row is written -/
theorem Kept.write (h : Kept w) {w' : World Fields} {id : ℕ} {v : Option EditService.Change}
    (hrows : w'.rows = Function.update w.rows id v) (hv : ∀ row, v = some row → row.id = id ∧ row.fields.Clean) :
    Kept w' := by
  intro i row hrow
  rw [hrows] at hrow
  by_cases hi : i = id
  · subst hi
    rw [Function.update_self] at hrow
    exact hv row hrow
  · rw [Function.update_of_ne hi] at hrow
    exact h i row hrow

/-- a store that fails changes nothing -/
theorem Kept.answer {α : Type} (h : Kept w) (o : Oracle) {served : α × World Fields} (hserved : Kept served.2) :
    Kept (Drafts.answer o w served).2 := by
  rcases answer_cases o w served with ⟨e, heq⟩ | heq
  · rw [heq]
    exact h
  · rw [heq]
    exact hserved

theorem Kept.edit (h : Kept w) {id : ℕ} {f : EditService.Change → EditService.Change}
    (hf : ∀ row, row.fields.Clean → (f row).id = row.id ∧ (f row).fields.Clean) : Kept (w.edit id f).2 := by
  refine h.write rfl ?_
  intro row hrow
  obtain ⟨old, hold, rfl⟩ := Option.map_eq_some_iff.1 hrow
  obtain ⟨hid, hclean⟩ := h id old hold
  exact ⟨(hf old hclean).1.trans hid, (hf old hclean).2⟩

/-- a permitted effect keeps the drafts clean -/
theorem kept_handle (h : Kept w) (o : Oracle) (e : Act Fields) (hpermits : Delivers encode cfg g e) :
    Kept (handle o e w).2 := by
  cases e with
  | get id => exact h.answer o h
  | create fields notes =>
    refine h.answer o (h.write rfl ?_)
    intro row hrow
    obtain rfl := Option.some.inj hrow
    exact ⟨rfl, hpermits⟩
  | update id fields notes clear => exact h.answer o (h.edit fun _ _ => ⟨rfl, hpermits⟩)
  | mark id cluster => exact h.answer o (h.edit fun _ hrow => ⟨rfl, hrow⟩)
  | delete id =>
    refine h.answer o (h.write rfl ?_)
    intro row hrow
    cases hrow
  | start d => exact h.answer o (h.rows rfl)
  | finish id state detail log => exact h.answer o (h.rows (finish_rows ..))
  | acquire cluster =>
    rw [handle]
    split_ifs
    · exact h
    · exact h.rows rfl
  | loadScan | auditWritable | auditWrite | release | runPlaybook => exact h.rows rfl

/-- a record that ends stays that of its deployment -/
theorem sent_finish (w : World Fields) (id : ℕ) (state : DeployState) (detail log : Option String) :
    sent (w.finish id state detail log) = sent w := by
  cases h : w.deployments[id]? with
  | none => rw [finish_of_none h]
  | some r =>
    have hget : (sent w)[id]? = some r.deployment := by rw [sent, List.getElem?_map, h, Option.map_some]
    obtain ⟨hlt, hdeployment⟩ := List.getElem?_eq_some_iff.1 hget
    calc sent (w.finish id state detail log)
        = (sent w).set id r.deployment := by rw [finish_of_get h, sent, List.map_set, sent]
      _ = sent w := by rw [← hdeployment, List.set_getElem_self]

/-- the records: one more for an effect that starts a deployment, if the store serves it -/
theorem sent_handle (o : Oracle) (e : Act Fields) (w : World Fields) :
    sent (handle o e w).2 = sent w ∨ ∃ d, e = .start d ∧ sent (handle o e w).2 = sent w ++ [d] := by
  have hanswer : ∀ {α : Type} (served : α × World Fields), sent served.2 = sent w →
      sent (Drafts.answer o w served).2 = sent w := by
    intro α served hserved
    rcases answer_cases o w served with ⟨m, heq⟩ | heq
    · rw [heq]
    · rw [heq]
      exact hserved
  cases e with
  | start d =>
    rcases answer_cases o w (w.deployments.length, { w with deployments := w.deployments ++ [⟨d, .running, none, none⟩] })
      with ⟨m, heq⟩ | heq
    · left
      rw [handle, heq]
    · right
      refine ⟨d, rfl, ?_⟩
      rw [handle, heq, sent, List.map_append]
      rfl
  | finish id state detail log => exact .inl (hanswer _ (sent_finish w id state detail log))
  | get | create | update | mark | delete => exact .inl (hanswer _ rfl)
  | acquire cluster =>
    left
    rw [handle]
    split_ifs <;> rfl
  | loadScan | auditWritable | auditWrite | release | runPlaybook => exact .inl rfl

/-- what a thread has read is a draft that is stored now, or was read before -/
theorem seen_handle (o : Oracle) {e : Act Fields} {row : EditService.Change} (h : Kept w)
    (hrow : row ∈ (g.after e (handle o e w).1).seen) : row ∈ g.seen ∨ w.rows row.id = some row := by
  cases e with
  | get id =>
    rcases answer_cases o w (w.rows id, w) with ⟨m, heq⟩ | heq
    · rw [handle, heq] at hrow
      exact .inl hrow
    · rw [handle, heq] at hrow
      cases hfound : w.rows id with
      | none =>
        rw [hfound] at hrow
        exact .inl hrow
      | some found =>
        rw [hfound] at hrow
        obtain rfl : found = row := Option.some.inj hrow
        rw [(h id found hfound).1]
        exact .inr hfound
  | start d =>
    left
    generalize (handle o (.start d) w).1 = r at hrow
    cases r <;> exact hrow
  | finish id state detail log =>
    left
    generalize (handle o (.finish id state detail log) w).1 = r at hrow
    cases state <;> cases r <;> exact hrow
  | create | update | mark | delete | loadScan | auditWritable | auditWrite | acquire | release | runPlaybook =>
    exact .inl hrow

/-- and what it has started has a record -/
theorem started_handle (o : Oracle) {e : Act Fields} {p : ℕ × Deployment Fields}
    (hp : p ∈ (g.after e (handle o e w).1).started) : p ∈ g.started ∨ p.2 ∈ sent (handle o e w).2 := by
  cases e with
  | start d =>
    rcases answer_cases o w (w.deployments.length, { w with deployments := w.deployments ++ [⟨d, .running, none, none⟩] })
      with ⟨m, heq⟩ | heq
    · rw [handle, heq] at hp
      exact .inl hp
    · right
      rw [handle, heq] at hp
      obtain rfl := Option.some.inj hp
      rw [handle, heq, sent, List.map_append]
      exact List.mem_append_right _ (List.mem_singleton_self d)
  | get id =>
    left
    generalize (handle o (.get id) w).1 = r at hp
    cases r with
    | error m => exact hp
    | ok found => cases found <;> exact hp
  | finish id state detail log =>
    left
    generalize (handle o (.finish id state detail log) w).1 = r at hp
    cases state <;> cases r <;> exact hp
  | create | update | mark | delete | loadScan | auditWritable | auditWrite | acquire | release | runPlaybook =>
    exact .inl hp

end Effect

/-! ## Every history -/

section Histories

variable (py : Letters) (encode : Encoding) (cfg : Config)

/-- the requests of the service and the threads they start, side by side; meanwhile scans of clusters are stored -/
def changeService : Pool.System Task (Act Fields) Act.Answer Exn Unit Oracle (String × Option (List ConfigScan.Node))
    (World Fields) Tape :=
  { Drafts.service (Task.prog py encode cfg) (changes cfg) with protocol := fun _ => delivering encode cfg }

abbrev State := Pool.State Task (Act Fields) Act.Answer Exn Unit (World Fields) Tape

def after (moves : Moves) : State := Run.run (Pool.step (changeService py encode cfg)) ⟨World.init, []⟩ moves

/-- at some moment of the history the draft said this -/
def Stored (moves : Moves) (draft : ℕ) (fields : Fields) : Prop :=
  ∃ earlier later, moves = earlier ++ later ∧
    ∃ row, (after py encode cfg earlier).shared.rows draft = some row ∧ row.fields = fields

/-- what a history has to show -/
structure Delivered (moves : Moves) : Prop where
  /-- a stored draft passes the validation of its deployment, and comes out of it as it is -/
  accepted : ∀ (id : ℕ) (row : EditService.Change), (after py encode cfg moves).shared.rows id = some row →
    ∀ pre : String, validated py pre row.fields.title row.fields.targetRole.name (row.fields.entries.map Entry.raw) =
      pure row.fields
  /-- what is recorded as deployed was stored -/
  recorded : ∀ r ∈ (after py encode cfg moves).shared.deployments,
    Stored py encode cfg moves r.deployment.draft r.deployment.fields
  /-- and so was what a playbook is about to write -/
  written : ∀ th ∈ (after py encode cfg moves).threads, ∀ command k, th.prog = .act (.runPlaybook command) k →
    ∃ r ∈ (after py encode cfg moves).shared.deployments, ∃ inventory,
      cfg.inventories.lookup r.deployment.cluster = some inventory ∧
        command = EditService.command encode cfg inventory r.deployment.fields

variable {py} {encode} {cfg}

/-- what is kept of the drafts, the threads and the records, where `stored` is what has been stored so far -/
structure Faithful (py : Letters) (encode : Encoding) (cfg : Config) (stored : ℕ → Fields → Prop) (p : State) : Prop where
  conforms : Pool.Conforms (changeService py encode cfg) p.threads
  kept : Kept p.shared
  seen : ∀ th ∈ p.threads, ∀ row ∈ th.typestate.seen, stored row.id row.fields ∧ row.fields.Clean
  started : ∀ th ∈ p.threads, ∀ d ∈ th.typestate.started, d.2 ∈ sent p.shared
  recorded : ∀ d ∈ sent p.shared, stored d.draft d.fields

theorem Faithful.step {stored : ℕ → Fields → Prop} {p : State} (h : Faithful py encode cfg stored p)
    (hstored : ∀ (id : ℕ) (row : EditService.Change), p.shared.rows id = some row → stored id row.fields)
    (m : Pool.Move Task Oracle (String × Option (List ConfigScan.Node))) :
    Faithful py encode cfg stored (Pool.step (changeService py encode cfg) p m) := by
  have hconforms : Pool.Conforms (changeService py encode cfg) (Pool.step (changeService py encode cfg) p m).threads :=
    Pool.conforms_step (fun task => wp_mono protocol_mono (fun _ _ _ => trivial) (keeps_task task)) h.conforms m
  cases m with
  | spawn task =>
    refine ⟨hconforms, h.kept, fun th hth => ?_, fun th hth => ?_, h.recorded⟩
    · rcases List.mem_append.1 hth with hth | hth
      · exact h.seen th hth
      · obtain rfl := List.mem_singleton.1 hth
        exact fun row hrow => by cases hrow
    · rcases List.mem_append.1 hth with hth | hth
      · exact h.started th hth
      · obtain rfl := List.mem_singleton.1 hth
        exact fun d hd => by cases hd
  | outside scan => exact ⟨hconforms, h.kept.rows rfl, h.seen, h.started, h.recorded⟩
  | act i o =>
    simp only [Pool.step] at hconforms ⊢
    split
    · rename_i task e k g hi
      rw [hi] at hconforms
      have hmem := List.mem_of_getElem? hi
      have hpermits : Delivers encode cfg g e := (h.conforms _ hmem).1
      have hsent : ∀ d, d ∈ sent p.shared → d ∈ sent (handle o e p.shared).2 := by
        intro d hd
        rcases sent_handle o e p.shared with heq | ⟨d', -, heq⟩
        · rwa [heq]
        · rw [heq]
          exact List.mem_append_left _ hd
      refine ⟨hconforms, kept_handle h.kept o e hpermits, fun th hth => ?_, fun th hth => ?_, fun d hd => ?_⟩
      · rcases List.mem_or_eq_of_mem_set hth with hth | rfl
        · exact h.seen th hth
        · intro row hrow
          rcases seen_handle o h.kept hrow with hrow | hrow
          · exact h.seen _ hmem row hrow
          · exact ⟨hstored row.id row hrow, (h.kept row.id row hrow).2⟩
      · rcases List.mem_or_eq_of_mem_set hth with hth | rfl
        · exact fun d hd => hsent d.2 (h.started th hth d hd)
        · intro d hd
          rcases started_handle o hd with hd | hd
          · exact hsent d.2 (h.started _ hmem d hd)
          · exact hd
      · rcases sent_handle o e p.shared with heq | ⟨d', rfl, heq⟩
        · exact h.recorded d (heq ▸ hd)
        · have hd : d ∈ sent p.shared ++ [d'] := heq ▸ hd
          rcases List.mem_append.1 hd with hd | hd
          · exact h.recorded d hd
          · -- a deployment is of the draft its thread has read
            obtain rfl := List.mem_singleton.1 hd
            obtain ⟨row, hrow, hdraft, hfields⟩ := hpermits
            obtain ⟨hstored, hclean⟩ := h.seen _ hmem row hrow
            rw [hdraft, hfields hclean]
            exact hstored
    · exact h

theorem Stored.snoc {moves : Moves} {draft : ℕ} {fields : Fields} (h : Stored py encode cfg moves draft fields)
    (m : Pool.Move Task Oracle (String × Option (List ConfigScan.Node))) :
    Stored py encode cfg (moves ++ [m]) draft fields := by
  obtain ⟨earlier, later, rfl, hrow⟩ := h
  exact ⟨earlier, later ++ [m], List.append_assoc .., hrow⟩

theorem Faithful.mono {stored stored' : ℕ → Fields → Prop} {p : State} (h : Faithful py encode cfg stored p)
    (hmono : ∀ draft fields, stored draft fields → stored' draft fields) : Faithful py encode cfg stored' p where
  conforms := h.conforms
  kept := h.kept
  seen th hth row hrow := ⟨hmono _ _ (h.seen th hth row hrow).1, (h.seen th hth row hrow).2⟩
  started := h.started
  recorded d hd := hmono _ _ (h.recorded d hd)

/-- from the first move on -/
theorem faithful_after (moves : Moves) : Faithful py encode cfg (Stored py encode cfg moves) (after py encode cfg moves) := by
  induction moves using List.reverseRecOn with
  | nil =>
    refine ⟨?_, ?_, ?_, ?_, ?_⟩
    · exact fun th hth => by cases hth
    · exact fun id row hrow => by cases hrow
    · exact fun th hth => by cases hth
    · exact fun th hth => by cases hth
    · exact fun d hd => by cases hd
  | append_singleton moves m ih =>
    rw [after, Run.run_snoc]
    refine (ih.mono fun draft fields h => h.snoc m).step ?_ m
    intro id row hrow
    exact ⟨moves, [m], rfl, row, hrow, rfl⟩

theorem delivered (moves : Moves) : Delivered py encode cfg moves where
  accepted id row hrow pre := by
    have hclean := ((faithful_after moves).kept id row hrow).2
    rw [validated, validate_idem hclean]
  recorded r hr := (faithful_after moves).recorded r.deployment (List.mem_map_of_mem hr)
  written th hth command k hprog := by
    have hconforms := (@faithful_after py encode cfg moves).conforms th hth
    rw [hprog] at hconforms
    obtain ⟨⟨d, hd, inventory, hinventory, hcommand⟩, -⟩ := hconforms
    obtain ⟨r, hr, hdeployment⟩ := List.mem_map.1 ((faithful_after moves).started th hth d hd)
    rw [← hdeployment] at hinventory hcommand
    exact ⟨r, hr, inventory, hinventory, hcommand⟩

end Histories

/-- **What is stored can be deployed, as it is stored.** What the validation returns it accepts, and returns again,
whatever JSON it was given first. So in every history of the service a stored draft passes the validation of its
deployment unchanged, and a deployment records and writes what its draft said. -/
theorem deployed_as_stored :
    (∀ (py : Letters) (print : Printing) (title targetRole : Option String) (entries : List BodyEntry) (fields : Fields),
      validateBody py print title targetRole entries = .ok fields →
        validateBody py print (some fields.title) (some fields.targetRole.name) (fields.entries.map Entry.body) =
          .ok fields) ∧
    ∀ (py : Letters) (encode : Encoding) (cfg : Config) (moves : Moves), Delivered py encode cfg moves :=
  ⟨fun _ _ _ _ _ _ h => validateBody_idem h, fun _ _ _ moves => delivered moves⟩

def memory : Fields :=
  ⟨"memory", .worker, [⟨"query.max-memory", .set, some "50GB"⟩, ⟨"task.concurrency", .unset, none⟩]⟩

/-- a change as somebody types it, and once more as it is stored -/
theorem deployed_as_stored_memory :
    validateBody .ascii .plain (some " memory ") (some "worker ")
        [[("key", .str "task.concurrency "), ("action", .str "unset"), ("value", .bool true)],
          [("key", .str " query.max-memory"), ("value", .str " 50GB ")]] = .ok memory ∧
      validateBody .ascii .plain (some memory.title) (some memory.targetRole.name) (memory.entries.map Entry.body) =
        .ok memory := by
  have hvalid : validateBody .ascii .plain (some " memory ") (some "worker ")
      [[("key", .str "task.concurrency "), ("action", .str "unset"), ("value", .bool true)],
        [("key", .str " query.max-memory"), ("value", .str " 50GB ")]] = .ok memory := by decide +kernel
  exact ⟨hvalid, deployed_as_stored.1 _ _ _ _ _ _ hvalid⟩

end TrinoManagement.Deliveries
