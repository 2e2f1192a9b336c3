/-
Proof marks and the content they were given for.

A deployment runs in the background and marks its draft by id when it ends; edits take the mark away when they happen.
An edit between the two is not seen by either, and the mark is set on content that no cluster has had.

- `Tape`: what a request has read and started. `marking`: the order every request of either service keeps to.
- `marks_proved`: over every interleaving in which a mark finds the draft as its deployment read it, and a save that
  leaves a mark standing leaves the content as it is, a mark stands for content a development deployment carried, and
  nothing else has been sent to a cluster that serves queries.
- `mark_unproved`: a change edited while its deployment runs, and a mark on content nobody has deployed.
-/
import Mathlib.Tactic
import TrinoManagement.Config.CatalogService
import TrinoManagement.Config.EditService
import TrinoManagement.Core.Pool
import TrinoManagement.Scenarios.DeployedNowhere

namespace TrinoManagement.Drafts

open TrinoManagement.Audit TrinoManagement.ConfigEdit TrinoManagement.Playbook
open TrinoManagement.Prog
open TrinoManagement.Run (Meets)

/-! ## What a request has read and started -/

/-- what a service's drafts mean: the part a proof is about, and what is known of all that is stored -/
structure Meaning (F K : Type) where
  content : F → K
  sound : F → Prop
  development : List String

variable {F K : Type}

/-- the row a request has read, the deployment it has started, and whether its success is recorded -/
structure Tape (F : Type) where
  seen : Option (Row F)
  started : Option (ℕ × Deployment F)
  succeeded : Bool

def Tape.blank : Tape F := ⟨none, none, false⟩

def Tape.after (g : Tape F) : (e : Act F) → e.Answer → Tape F
  | .get _, .ok (some row) => { g with seen := some row }
  | .start deployment, .ok id => { g with started := some (id, deployment), succeeded := false }
  | .finish _ .succeeded _ _, .ok _ => { g with succeeded := true }
  | _, _ => g

/-- a deployment carries what its request has read -/
def Carries (m : Meaning F K) (row : Row F) (d : Deployment F) : Prop :=
  d.draft = row.id ∧ (m.sound row.fields → m.content d.fields = m.content row.fields)

/-- what may go to a cluster: anything to a development cluster, a removal, or what is marked -/
def MayGo (m : Meaning F K) (row : Row F) (d : Deployment F) : Prop :=
  d.removes = true ∨ d.cluster ∈ m.development ∨ row.verifiedOn.isSome

/-- what a request may do -/
def Tape.Permits (m : Meaning F K) (g : Tape F) : Act F → Prop
  | .create fields _ => m.sound fields
  | .update _ fields _ _ => m.sound fields
  | .start d => ∃ row ∈ g.seen, Carries m row d ∧ MayGo m row d
  | .finish id _ _ _ => ∃ d, g.started = some (id, d)
  | .mark id cluster => g.succeeded = true ∧ cluster ∈ m.development ∧
      ∃ record d row, g.started = some (record, d) ∧ g.seen = some row ∧ d.cluster = cluster ∧ d.removes = false ∧
        d.draft = id ∧ Carries m row d
  | _ => True

def marking (m : Meaning F K) : Protocol (Act F) Act.Answer (Tape F) := ⟨Tape.Permits m, Tape.after⟩

/-! ## Proved content -/

/-- some development deployment of it succeeded -/
def Proved (m : Meaning F K) (w : World F) (k : K) : Prop :=
  ∃ d ∈ w.succeeded, d.removes = false ∧ d.cluster ∈ m.development ∧ m.content d.fields = k

/-- a proof belongs to what was proved -/
structure Belongs (m : Meaning F K) (w : World F) : Prop where
  marks : ∀ (id : ℕ) (row : Row F), w.rows id = some row → row.verifiedOn.isSome → Proved m w (m.content row.fields)
  sent : ∀ r ∈ w.deployments, r.deployment.removes = true ∨ r.deployment.cluster ∈ m.development ∨
    Proved m w (m.content r.deployment.fields)

/-- with what every row that is stored says -/
structure Inv (m : Meaning F K) (w : World F) : Prop extends Belongs m w where
  sound : ∀ (id : ℕ) (row : Row F), w.rows id = some row → m.sound row.fields

/-- what a thread knows of the world -/
structure Knows (m : Meaning F K) (w : World F) (g : Tape F) : Prop where
  sound : ∀ row ∈ g.seen, m.sound row.fields
  marked : ∀ row ∈ g.seen, row.verifiedOn.isSome → Proved m w (m.content row.fields)
  started : ∀ p ∈ g.started, ∃ r, w.deployments[p.1]? = some r ∧ r.deployment = p.2
  succeeded : g.succeeded = true → ∀ p ∈ g.started, p.2 ∈ w.succeeded

/-- what no thread takes back -/
structure Onward (w w' : World F) : Prop where
  succeeded : ∀ d ∈ w.succeeded, d ∈ w'.succeeded
  records : ∀ (i : ℕ) (r : Record F), w.deployments[i]? = some r →
    ∃ r', w'.deployments[i]? = some r' ∧ r'.deployment = r.deployment

variable {m : Meaning F K} {w w' : World F} {g : Tape F}

theorem Onward.refl (w : World F) : Onward w w := ⟨fun _ h => h, fun _ r h => ⟨r, h, rfl⟩⟩

theorem Proved.mono {k : K} (h : Proved m w k) (hon : Onward w w') : Proved m w' k := by
  obtain ⟨d, hd, hrest⟩ := h
  exact ⟨d, hon.succeeded d hd, hrest⟩

/-- what a thread knows is stable -/
theorem Knows.stable (h : Knows m w g) (hon : Onward w w') : Knows m w' g where
  sound := h.sound
  marked row hrow hmark := (h.marked row hrow hmark).mono hon
  started p hp := by
    obtain ⟨r, hr, hd⟩ := h.started p hp
    obtain ⟨r', hr', hd'⟩ := hon.records p.1 r hr
    exact ⟨r', hr', hd'.trans hd⟩
  succeeded hs p hp := hon.succeeded p.2 (h.succeeded hs p hp)

theorem Knows.blank : Knows m w Tape.blank :=
  ⟨fun row h => (by cases h), fun row h => (by cases h), fun p h => (by cases h), fun h => (by cases h)⟩

/-! ## The condition, and one effect -/

/-- a mark finds the draft as its deployment read it; a save that leaves a mark standing leaves the content as it is -/
def Unmoved (m : Meaning F K) (w : World F) (g : Tape F) : Act F → Prop
  | .mark id _ => ∀ row ∈ w.rows id, ∀ seen ∈ g.seen, m.content row.fields = m.content seen.fields
  | .update id fields _ clear => clear = true ∨ ∀ row ∈ w.rows id, row.verifiedOn.isSome →
      m.content row.fields = m.content fields
  | _ => True

instance [DecidableEq K] (m : Meaning F K) (w : World F) (g : Tape F) (e : Act F) : Decidable (Unmoved m w g e) := by
  unfold Unmoved
  split <;> infer_instance

/-- the tables a proof rests on -/
structure SameEvidence (w w' : World F) : Prop where
  deployments : w'.deployments = w.deployments
  succeeded : w'.succeeded = w.succeeded

theorem SameEvidence.onward (h : SameEvidence w w') : Onward w w' :=
  ⟨fun _ hd => h.succeeded ▸ hd, fun _ r hr => ⟨r, h.deployments ▸ hr, rfl⟩⟩

/-- with the evidence left alone, the rows decide -/
theorem Inv.rows (h : Inv m w) (hsame : SameEvidence w w')
    (hrows : ∀ (id : ℕ) (row : Row F), w'.rows id = some row → m.sound row.fields ∧
      (row.verifiedOn.isSome → Proved m w (m.content row.fields))) : Inv m w' where
  marks id row hrow hmark := ((hrows id row hrow).2 hmark).mono hsame.onward
  sent r hr := (h.sent r (hsame.deployments ▸ hr)).imp_right fun hcase =>
    hcase.imp_right fun hproved => hproved.mono hsame.onward
  sound id row hrow := (hrows id row hrow).1

theorem Inv.row (h : Inv m w) {id : ℕ} {row : Row F} (hrow : w.rows id = some row) : m.sound row.fields ∧
    (row.verifiedOn.isSome → Proved m w (m.content row.fields)) := ⟨h.sound id row hrow, h.marks id row hrow⟩

theorem rows_update {rows : ℕ → Option (Row F)} {id i : ℕ} {v : Option (Row F)} {row : Row F}
    (h : Function.update rows id v i = some row) : rows i = some row ∨ v = some row := by
  by_cases hi : i = id
  · subst hi
    rw [Function.update_self] at h
    exact .inr h
  · rw [Function.update_of_ne hi] at h
    exact .inl h

/-- the rows after one of them is edited -/
theorem edit_rows {f : Row F → Row F} {id i : ℕ} {row : Row F} (h : (w.edit id f).2.rows i = some row) :
    w.rows i = some row ∨ ∃ old, w.rows id = some old ∧ row = f old := by
  refine (rows_update h).imp_right ?_
  intro hrow
  obtain ⟨old, hold, hrow⟩ := Option.map_eq_some_iff.1 hrow
  exact ⟨old, hold, hrow.symm⟩

/-- what one effect does to the world and to what its thread knows -/
structure Step (m : Meaning F K) (w w' : World F) (g' : Tape F) : Prop where
  onward : Onward w w'
  inv : Inv m w'
  knows : Knows m w' g'

/-- an effect that leaves the evidence alone, and a tape with nothing new -/
theorem Step.rows (h : Inv m w) (hknows : Knows m w g) (hsame : SameEvidence w w')
    (hrows : ∀ (id : ℕ) (row : Row F), w'.rows id = some row → m.sound row.fields ∧
      (row.verifiedOn.isSome → Proved m w (m.content row.fields))) : Step m w w' g :=
  ⟨hsame.onward, h.rows hsame hrows, hknows.stable hsame.onward⟩

theorem Step.same (h : Inv m w) (hknows : Knows m w g) : Step m w w g :=
  Step.rows h hknows ⟨rfl, rfl⟩ fun _ _ hrow => h.row hrow

/-- a store effect: it fails and nothing happens, or it is served -/
theorem step_answer {α : Type} {o : Oracle} {served : α × World F} (after : Except StoreError α → Tape F)
    (h : Inv m w) (hknows : Knows m w g) (hfail : ∀ e, after (.error e) = g)
    (hserved : Step m w served.2 (after (.ok served.1))) :
    Step m w (answer o w served).2 (after (answer o w served).1) := by
  rcases answer_cases o w served with ⟨e, heq⟩ | heq
  · rw [heq, hfail]
    exact Step.same h hknows
  · rw [heq]
    exact hserved

section Effects

variable (h : Inv m w) (hknows : Knows m w g)

include h hknows

theorem step_get (o : Oracle) (id : ℕ) : Step m w (handle o (.get id) w).2 (g.after (.get id) (handle o (.get id) w).1) := by
  refine step_answer (g.after (.get id)) h hknows (fun _ => rfl) ?_
  cases hrow : w.rows id with
  | none => exact Step.same h hknows
  | some row =>
    refine ⟨Onward.refl w, h, fun row' hrow' => ?_, fun row' hrow' => ?_, hknows.started, hknows.succeeded⟩
    · obtain rfl := Option.some.inj hrow'
      exact h.sound id row hrow
    · obtain rfl := Option.some.inj hrow'
      exact h.marks id row hrow

theorem step_create (o : Oracle) (fields : F) (notes : Option String) (hsound : m.sound fields) :
    Step m w (handle o (.create fields notes) w).2 (g.after (.create fields notes) (handle o (.create fields notes) w).1) := by
  refine step_answer (g.after (.create fields notes)) h hknows (fun _ => rfl) ?_
  refine Step.rows h hknows ⟨rfl, rfl⟩ ?_
  intro i row hrow
  rcases rows_update hrow with hrow | hrow
  · exact h.row hrow
  · obtain rfl := Option.some.inj hrow
    exact ⟨hsound, fun hmark => by cases hmark⟩

theorem step_update (o : Oracle) (id : ℕ) (fields : F) (notes : Option String) (clear : Bool) (hsound : m.sound fields)
    (hok : Unmoved m w g (.update id fields notes clear)) :
    Step m w (handle o (.update id fields notes clear) w).2
      (g.after (.update id fields notes clear) (handle o (.update id fields notes clear) w).1) := by
  refine step_answer (g.after (.update id fields notes clear)) h hknows (fun _ => rfl) ?_
  refine Step.rows h hknows ⟨rfl, rfl⟩ ?_
  intro i row hrow
  rcases edit_rows hrow with hrow | ⟨old, hold, rfl⟩
  · exact h.row hrow
  · refine ⟨hsound, fun hmark => ?_⟩
    cases clear with
    | true => cases hmark
    | false =>
      -- the mark stands, and so does what it was given for
      have hsame := (hok.resolve_left (by decide)) old hold hmark
      have hproved := h.marks id old hold hmark
      rw [hsame] at hproved
      exact hproved

theorem step_mark (o : Oracle) (id : ℕ) (cluster : String) (hpermits : g.Permits m (.mark id cluster))
    (hok : Unmoved m w g (.mark id cluster)) :
    Step m w (handle o (.mark id cluster) w).2 (g.after (.mark id cluster) (handle o (.mark id cluster) w).1) := by
  obtain ⟨hsucceeded, hcluster, record, d, seen, hstarted, hseen, hd, hremoves, -, hcarries⟩ := hpermits
  refine step_answer (g.after (.mark id cluster)) h hknows (fun _ => rfl) ?_
  refine Step.rows h hknows ⟨rfl, rfl⟩ ?_
  intro i row hrow
  rcases edit_rows hrow with hrow | ⟨old, hold, rfl⟩
  · exact h.row hrow
  · refine ⟨h.sound id old hold, fun _ => ⟨d, hknows.succeeded hsucceeded _ hstarted, hremoves, hd ▸ hcluster, ?_⟩⟩
    calc m.content d.fields = m.content seen.fields := hcarries.2 (hknows.sound seen hseen)
      _ = m.content old.fields := (hok old hold seen hseen).symm

theorem step_delete (o : Oracle) (id : ℕ) :
    Step m w (handle o (.delete id) w).2 (g.after (.delete id) (handle o (.delete id) w).1) := by
  refine step_answer (g.after (.delete id)) h hknows (fun _ => rfl) ?_
  refine Step.rows h hknows ⟨rfl, rfl⟩ ?_
  intro i row hrow
  rcases rows_update hrow with hrow | hrow
  · exact h.row hrow
  · cases hrow

theorem step_start (o : Oracle) (d : Deployment F) (hpermits : g.Permits m (.start d)) :
    Step m w (handle o (.start d) w).2 (g.after (.start d) (handle o (.start d) w).1) := by
  obtain ⟨seen, hseen, hcarries, hmay⟩ := hpermits
  refine step_answer (g.after (.start d)) h hknows (fun _ => rfl) ?_
  set w' : World F := { w with deployments := w.deployments ++ [⟨d, .running, none, none⟩] } with hw'
  have hon : Onward w w' := by
    refine ⟨fun _ hd => hd, fun i r hr => ⟨r, ?_, rfl⟩⟩
    have hlt := (List.getElem?_eq_some_iff.1 hr).1
    change (w.deployments ++ _)[i]? = some r
    rwa [List.getElem?_append_left hlt]
  have hsent : d.removes = true ∨ d.cluster ∈ m.development ∨ Proved m w (m.content d.fields) := by
    refine hmay.imp_right fun hcase => hcase.imp_right ?_
    intro hmark
    rw [hcarries.2 (hknows.sound seen hseen)]
    exact hknows.marked seen hseen hmark
  refine ⟨hon, ⟨⟨fun i row hrow hmark => (h.marks i row hrow hmark).mono hon, fun r hr => ?_⟩, h.sound⟩, ?_⟩
  · rcases List.mem_append.1 hr with hr | hr
    · exact (h.sent r hr).imp_right fun hcase => hcase.imp_right fun hproved => hproved.mono hon
    · rw [List.mem_singleton.1 hr]
      exact hsent.imp_right fun hcase => hcase.imp_right fun hproved => hproved.mono hon
  · have hstable := hknows.stable hon
    refine ⟨hstable.sound, hstable.marked, fun p hp => ?_, fun hs => by cases hs⟩
    obtain rfl := Option.some.inj hp
    exact ⟨⟨d, .running, none, none⟩, List.getElem?_concat_length, rfl⟩

theorem step_finish (o : Oracle) (id : ℕ) (state : DeployState) (detail log : Option String)
    (hpermits : g.Permits m (.finish id state detail log)) :
    Step m w (handle o (.finish id state detail log) w).2
      (g.after (.finish id state detail log) (handle o (.finish id state detail log) w).1) := by
  obtain ⟨d, hstarted⟩ := hpermits
  refine step_answer (g.after (.finish id state detail log)) h hknows (fun _ => by cases state <;> rfl) ?_
  obtain ⟨r, hr, hd⟩ : ∃ r, w.deployments[id]? = some r ∧ r.deployment = d := hknows.started _ hstarted
  have hfinish := finish_of_get hr state detail log
  have hlt : id < w.deployments.length := (List.getElem?_eq_some_iff.1 hr).1
  have hon : Onward w (w.finish id state detail log) := by
    rw [hfinish]
    refine ⟨fun d' hd' => ?_, fun i r' hr' => ?_⟩
    · dsimp only
      split_ifs
      · exact List.mem_append_left _ hd'
      · exact hd'
    · by_cases hi : i = id
      · subst hi
        rw [hr] at hr'
        obtain rfl := Option.some.inj hr'
        exact ⟨_, List.getElem?_set_self hlt, rfl⟩
      · exact ⟨r', by rw [← hr']; exact List.getElem?_set_ne (Ne.symm hi), rfl⟩
  have hinv : Inv m (w.finish id state detail log) := by
    refine ⟨⟨fun i row hrow hmark => (h.marks i row ?_ hmark).mono hon, fun r' hr' => ?_⟩, fun i row hrow => h.sound i row ?_⟩
    · rwa [finish_rows] at hrow
    · obtain ⟨i, hi⟩ := List.mem_iff_getElem?.1 hr'
      have hold : ∃ old ∈ w.deployments, old.deployment = r'.deployment := by
        rcases finish_get w hi with hold | ⟨-, -, old, hold, hsame⟩
        · exact ⟨r', List.mem_of_getElem? hold, rfl⟩
        · exact ⟨old, List.mem_of_getElem? hold, hsame⟩
      obtain ⟨old, hmem, hsame⟩ := hold
      rw [← hsame]
      exact (h.sent old hmem).imp_right fun hcase => hcase.imp_right fun hproved => hproved.mono hon
    · rwa [finish_rows] at hrow
  have hstable := hknows.stable hon
  refine ⟨hon, hinv, ?_⟩
  cases state with
  | succeeded =>
    refine ⟨hstable.sound, hstable.marked, hstable.started, fun _ p hp => ?_⟩
    have hp : p = (id, d) := Option.some.inj (hp.symm.trans hstarted)
    rw [hp]
    change d ∈ (w.finish id .succeeded detail log).succeeded
    rw [hfinish, ← hd]
    exact List.mem_append_right _ (List.mem_singleton_self _)
  | running => exact hstable
  | failed => exact hstable

/-- **What a permitted effect does** where the condition holds. -/
theorem step_act (o : Oracle) (e : Act F) (hpermits : g.Permits m e) (hok : Unmoved m w g e) :
    Step m w (handle o e w).2 (g.after e (handle o e w).1) := by
  cases e with
  | get id => exact step_get h hknows o id
  | create fields notes => exact step_create h hknows o fields notes hpermits
  | update id fields notes clear => exact step_update h hknows o id fields notes clear hpermits hok
  | mark id cluster => exact step_mark h hknows o id cluster hpermits hok
  | delete id => exact step_delete h hknows o id
  | start d => exact step_start h hknows o d hpermits
  | finish id state detail log => exact step_finish h hknows o id state detail log hpermits
  | acquire cluster =>
    have hrows : SameEvidence w (handle o (.acquire cluster) w).2 ∧ (handle o (.acquire cluster) w).2.rows = w.rows := by
      rw [handle]
      split_ifs <;> exact ⟨⟨rfl, rfl⟩, rfl⟩
    exact Step.rows h hknows hrows.1 fun i row hrow => h.row (hrows.2 ▸ hrow)
  | loadScan | auditWritable | auditWrite | release | runPlaybook =>
    exact Step.rows h hknows ⟨rfl, rfl⟩ fun _ _ hrow => h.row hrow

end Effects

/-! ## Every request keeps to the order -/

section Keeps

variable {α β : Type}

/-- the program keeps to the protocol; if it returns, it ends as `P` says -/
abbrev Keeps (m : Meaning F K) (p : M F α) (P : α → Tape F → Prop) (g : Tape F) : Prop :=
  Yields (protocol (marking m)) (fun _ => True) p P g

theorem keeps_bind {p : M F α} {f : α → M F β} {P : β → Tape F → Prop} :
    Keeps m (p >>= f) P g ↔ Keeps m p (fun a g' => Keeps m (f a) P g') g := yields_bind

/-- an effect: it is permitted, and the rest follows whatever the answer -/
theorem keeps_act {e : Act F} {f : e.Answer → M F β} {P : β → Tape F → Prop} (hp : g.Permits m e)
    (hf : ∀ r, Keeps m (f r) P (g.after e r)) : Keeps m (perform e >>= f) P g := yields_act hp hf

theorem keeps_rowOr404 {what : String} {id : ℕ} {P : Row F → Tape F → Prop}
    (h : ∀ row, P row { g with seen := some row }) : Keeps m (rowOr404 what id) P g := yields_read trivial h

theorem marking_quiet : Quiet (marking m) where
  writable _ := ⟨trivial, fun _ => rfl⟩
  write _ _ := ⟨trivial, fun _ => rfl⟩
  acquire _ _ := ⟨trivial, fun _ => rfl⟩
  release _ _ := ⟨trivial, fun _ => rfl⟩

theorem keeps_audited {principal : Principal} {actionType targetKind targetId reason : String} {cluster : Option String}
    {body : M F α} {P : α → Tape F → Prop} (h : Keeps m body P g) :
    Keeps m (audited principal actionType targetKind targetId cluster reason body) P g := yields_audited marking_quiet h

theorem keeps_launch {principal : Principal} {storeClass busy actionType targetId : String} {d : Deployment F} {row : Row F}
    {P : ℕ → Tape F → Prop} (hseen : g.seen = some row) (hcarries : Carries m row d) (hmay : MayGo m row d)
    (h : ∀ record, P record { g with started := some (record, d), succeeded := false }) :
    Keeps m (launch principal storeClass busy actionType targetId d) P g :=
  yields_launch marking_quiet ⟨row, hseen, hcarries, hmay⟩ h

/-- the thread ends its own deployment, and marks what it carried -/
theorem keeps_deployNow {cfg : Config} {log : List String → Option String} {d : Deployment F} {record : ℕ}
    {command : Command} {row : Row F} (hdevelopment : cfg.development = m.development) (hseen : g.seen = some row)
    (hstarted : g.started = some (record, d)) (hcarries : Carries m row d) :
    Keeps m (deployNow cfg log d record command) (fun _ _ => True) g := by
  unfold deployNow
  refine keeps_act trivial ?_
  intro ran
  dsimp only
  refine keeps_act ⟨d, hstarted⟩ ?_
  intro r
  cases r with
  | error e => exact ⟨trivial, fun _ => trivial⟩
  | ok done =>
    refine yields_ite (fun hmarks => ?_) fun _ => ⟨trivial, fun _ => trivial⟩
    obtain ⟨hstate, hremoves, hcluster⟩ := hmarks
    rw [hstate]
    refine keeps_act ⟨rfl, hdevelopment ▸ hcluster, record, d, row, hstarted, hseen, rfl, hremoves, rfl, hcarries⟩
      fun _ => ⟨trivial, fun _ => trivial⟩

end Keeps

/-! ### Changes -/

section Edits

open EditService

-- the order says nothing about what validation accepts, and must not be unfolded to it
attribute [local irreducible] ConfigEdit.validate

/-- what a mark on a change is about -/
def changes (cfg : Config) : Meaning Fields (Role × List Entry) :=
  ⟨fun fields => (fields.targetRole, fields.entries), Fields.Clean, cfg.development⟩

variable {py : Letters} {encode : Encoding} {cfg : Config} {principal : Principal} {g : Tape Fields}

theorem keeps_validated {pre title targetRole : String} {entries : List RawEntry} {P : Fields → Tape Fields → Prop}
    (h : ∀ clean, validate py title targetRole entries = .ok clean → P clean g) :
    Keeps (changes cfg) (validated py pre title targetRole entries) P g := yields_validated trivial h

theorem keeps_create {title targetRole notes reason : String} {entries : List RawEntry} :
    Keeps (changes cfg) (EditService.create py principal title targetRole entries notes reason) (fun _ _ => True) g := by
  unfold EditService.create
  refine keeps_bind.2 (yields_requireAdmin trivial (keeps_bind.2 (keeps_validated ?_)))
  intro clean hclean
  refine keeps_bind.2 (keeps_audited ?_)
  exact keeps_act (validate_ok hclean) fun r => yields_lift trivial fun _ _ => trivial

theorem keeps_update {id : ℕ} {title targetRole notes reason : String} {entries : List RawEntry} :
    Keeps (changes cfg) (EditService.update py principal id title targetRole entries notes reason) (fun _ _ => True) g := by
  unfold EditService.update
  refine keeps_bind.2 (yields_requireAdmin trivial (keeps_bind.2 (keeps_rowOr404 ?_)))
  intro row
  refine keeps_bind.2 (keeps_validated fun clean hclean => keeps_bind.2 (keeps_audited ?_))
  exact keeps_act (validate_ok hclean) fun r => yields_lift trivial fun _ _ => trivial

theorem keeps_delete {id : ℕ} {reason : String} :
    Keeps (changes cfg) (EditService.delete principal id reason) (fun _ _ => True) g := by
  unfold EditService.delete
  refine keeps_bind.2 (yields_requireAdmin trivial (keeps_bind.2 (keeps_rowOr404 fun row => keeps_audited ?_)))
  exact keeps_act trivial fun r => yields_lift trivial fun _ _ => trivial

/-- a clean change validates to itself, so what is carried is what was read -/
theorem keeps_deploy {id : ℕ} {cluster reason : String} :
    Keeps (changes cfg) (EditService.deploy py encode cfg principal id cluster reason) (fun started g' => ∃ row,
      g'.seen = some row ∧ g'.started = some (started.record, started.deployment) ∧
        Carries (changes cfg) row started.deployment) g := by
  unfold EditService.deploy
  refine keeps_bind.2 (yields_requireAdmin trivial (keeps_bind.2 (yields_clusterOr404 trivial ?_)))
  intro inventory _
  refine keeps_bind.2 (keeps_rowOr404 fun row => keeps_bind.2 (keeps_validated ?_))
  intro clean hclean
  refine keeps_act trivial ?_
  intro nodes
  dsimp only
  split
  · trivial
  · rename_i hnone
    have hcarries : Carries (changes cfg) row
        ⟨row.id, cluster, false, { clean with title := row.fields.title }, reason, principal.username⟩ := by
      refine ⟨rfl, fun hsound => ?_⟩
      rw [validate_idem hsound] at hclean
      obtain rfl := Except.ok.inj hclean
      rfl
    have hmay : MayGo (changes cfg) row
        ⟨row.id, cluster, false, { clean with title := row.fields.title }, reason, principal.username⟩ := by
      obtain ⟨-, -, -, hcluster | ⟨on, hon, -⟩⟩ := refuseDeploy_eq_none.1 hnone
      · exact .inr (.inl hcluster)
      · exact .inr (.inr (Option.isSome_iff_exists.2 ⟨on, hon⟩))
    exact keeps_bind.2 (keeps_launch rfl hcarries hmay fun record => ⟨row, rfl, rfl, hcarries⟩)

/-- **Every request of the change service keeps to the order.** -/
theorem keeps_edit (task : EditService.Task) : Keeps (changes cfg) (task.prog py encode cfg) (fun _ _ => True) g := by
  cases task with
  | create => exact keeps_create
  | update => exact keeps_update
  | delete => exact keeps_delete
  | deploy =>
    refine keeps_bind.2 (keeps_deploy.mono protocol_mono (fun _ h => h) ?_)
    rintro started g' ⟨row, hseen, hstarted, hcarries⟩
    exact keeps_deployNow rfl hseen hstarted hcarries

end Edits

/-! ### Catalogs -/

section Catalog

open CatalogService

attribute [local irreducible] Catalogs.validate Catalogs.refuseDeploy

/-- what a mark on a catalog draft is about -/
def catalogs (cfg : Config) : Meaning Catalogs.Fields (String × Dict String) :=
  ⟨fun fields => (fields.connector, fields.properties), fun _ => True, cfg.development⟩

variable {py : CatalogService.Python} {cfg : Config} {principal : Principal} {g : Tape Catalogs.Fields}

theorem keeps_validatedCatalog {pre name connector : String} {properties : List (String × Option String)}
    {P : Catalogs.Fields → Tape Catalogs.Fields → Prop} (h : ∀ fields, P fields g) :
    Keeps (catalogs cfg) (CatalogService.validated py pre name connector properties) P g := by
  unfold CatalogService.validated
  split
  · exact h _
  · trivial

/-- what passes the gate of a deployment -/
theorem keeps_allowed {row : CatalogService.Draft} {cluster : String} {P : Unit → Tape Catalogs.Fields → Prop}
    (h : Catalogs.refuseDeploy (toDraft row) cluster cfg.development = none → P () g) :
    Keeps (catalogs cfg) (CatalogService.allowed py cfg row cluster) P g := by
  unfold CatalogService.allowed
  rw [keeps_bind]
  refine keeps_validatedCatalog ?_
  intro fields
  split
  · trivial
  · rename_i hnone
    exact h hnone

theorem keeps_begin {inventory action cluster reason : String} {row : CatalogService.Draft} (hseen : g.seen = some row)
    (hmay : MayGo (catalogs cfg) row ⟨row.id, cluster, decide (action = "remove"), row.fields, reason, principal.username⟩) :
    Keeps (catalogs cfg) (CatalogService.begin py cfg principal inventory action row cluster reason) (fun started g' => ∃ row,
      g'.seen = some row ∧ g'.started = some (started.record, started.deployment) ∧
        Carries (catalogs cfg) row started.deployment) g := by
  unfold CatalogService.begin
  have hcarries : Carries (catalogs cfg) row
      ⟨row.id, cluster, decide (action = "remove"), row.fields, reason, principal.username⟩ := ⟨rfl, fun _ => rfl⟩
  exact keeps_bind.2 (keeps_launch hseen hcarries hmay fun record => ⟨row, hseen, rfl, hcarries⟩)

/-- a removal may go anywhere; anything else has passed the gate -/
theorem keeps_deployCatalog {id : ℕ} {cluster reason action : String} :
    Keeps (catalogs cfg) (CatalogService.deploy py cfg principal id cluster reason action) (fun started g' => ∃ row,
      g'.seen = some row ∧ g'.started = some (started.record, started.deployment) ∧
        Carries (catalogs cfg) row started.deployment) g := by
  unfold CatalogService.deploy
  refine keeps_bind.2 (yields_requireAdmin trivial (keeps_bind.2 (yields_clusterOr404 trivial ?_)))
  intro inventory _
  refine keeps_bind.2 (keeps_rowOr404 ?_)
  intro row
  refine yields_ite (fun _ => trivial) fun haction => yields_ite (fun _ => ?_) fun hdeploy => ?_
  · refine keeps_bind.2 ?_
    refine @keeps_allowed py cfg _ row cluster _ ?_
    intro hnone
    refine keeps_begin rfl ?_
    rcases Catalogs.refuseDeploy_eq_none.1 hnone with hcluster | ⟨on, hon, -⟩
    · exact .inr (.inl hcluster)
    · exact .inr (.inr (Option.isSome_iff_exists.2 ⟨on, hon⟩))
  · have hremove : action = "remove" := by
      by_contra hne
      exact haction ⟨hdeploy, hne⟩
    exact keeps_begin rfl (.inl (by simp [hremove]))

theorem keeps_createCatalog {name connector reason : String} {properties : List (String × Option String)}
    {notes : Option String} : Keeps (catalogs cfg) (CatalogService.create py principal name connector properties reason notes)
      (fun _ _ => True) g := by
  unfold CatalogService.create
  refine keeps_bind.2 (yields_requireAdmin trivial (keeps_bind.2 (keeps_validatedCatalog ?_)))
  intro fields
  refine keeps_bind.2 (keeps_audited ?_)
  exact keeps_act trivial fun r => yields_lift trivial fun _ _ => trivial

theorem keeps_save {id : ℕ} {connector reason : String} {properties : List (String × Option String)}
    {notes : Option String} : Keeps (catalogs cfg) (CatalogService.save py principal id connector properties reason notes)
      (fun _ _ => True) g := by
  unfold CatalogService.save
  refine keeps_bind.2 (yields_requireAdmin trivial (keeps_bind.2 (keeps_rowOr404 ?_)))
  intro row
  refine keeps_bind.2 (keeps_validatedCatalog fun fields => keeps_bind.2 (keeps_audited ?_))
  exact keeps_act trivial fun r => yields_lift trivial fun _ _ => trivial

theorem keeps_deleteCatalog {id : ℕ} {reason : String} :
    Keeps (catalogs cfg) (CatalogService.delete principal id reason) (fun _ _ => True) g := by
  unfold CatalogService.delete
  refine keeps_bind.2 (yields_requireAdmin trivial (keeps_bind.2 (keeps_rowOr404 fun row => keeps_audited ?_)))
  exact keeps_act trivial fun r => yields_lift trivial fun _ _ => trivial

/-- **Every request of the catalog service keeps to the order.** -/
theorem keeps_catalog (task : CatalogService.Task) : Keeps (catalogs cfg) (task.prog py cfg) (fun _ _ => True) g := by
  cases task with
  | create => exact keeps_createCatalog
  | save => exact keeps_save
  | delete => exact keeps_deleteCatalog
  | deploy =>
    refine keeps_bind.2 (keeps_deployCatalog.mono protocol_mono (fun _ h => h) ?_)
    rintro started g' ⟨row, hseen, hstarted, hcarries⟩
    exact keeps_deployNow rfl hseen hstarted hcarries

end Catalog

/-! ## Every interleaving -/

/-- the requests of a service and the threads they start, side by side; meanwhile scans of clusters are stored -/
def service {T : Type} (prog : T → M F Unit) (m : Meaning F K) : Pool.System T (Act F) Act.Answer Service.Exn Unit Oracle
    (String × Option (List ConfigScan.Node)) (World F) (Tape F) where
  program := prog
  protocol _ := marking m
  fresh := .blank
  handle := handle
  spawned _ w := w
  outside scan w := { w with scans := Function.update w.scans scan.1 scan.2 }

def World.init : World F := ⟨fun _ => none, 1, [], [], fun _ => false, fun _ => none, []⟩

theorem Inv.init : Inv m (World.init : World F) where
  marks _ _ hrow := by cases hrow
  sent _ hr := by cases hr
  sound _ _ hrow := by cases hrow

/-- programs that keep to the order, in any interleaving that meets the condition -/
theorem belongs_of_keeps {T : Type} {prog : T → M F Unit}
    (hprog : ∀ t, Keeps m (prog t) (fun _ _ => True) (Tape.blank : Tape F))
    {moves : List (Pool.Move T Oracle (String × Option (List ConfigScan.Node)))}
    (h : Meets (Pool.step (service prog m)) (Pool.Fits fun _ => Unmoved m) ⟨World.init, []⟩ moves) :
    Belongs m (Run.run (Pool.step (service prog m)) ⟨World.init, []⟩ moves).shared := by
  have hkeeps : ∀ t, wp (protocol (marking m)) (prog t) (fun _ _ => True) (Tape.blank : Tape F) :=
    fun t => wp_mono protocol_mono (fun _ _ _ => trivial) (hprog t)
  refine (Pool.pool_rely (service prog m) (Inv m) (fun _ => Knows m) Onward hkeeps ?_ ?_ ?_ ?_ h ?_ ?_ Inv.init).toBelongs
  · intro t w w' g hon hknows
    exact hknows.stable hon
  · intro t w hinv
    exact ⟨Onward.refl w, hinv, Knows.blank⟩
  · intro scan w hinv
    have hsame : SameEvidence w { w with scans := Function.update w.scans scan.1 scan.2 } := ⟨rfl, rfl⟩
    exact ⟨hsame.onward, hinv.rows hsame fun _ _ hrow => hinv.row hrow⟩
  · intro t o e w g hinv hknows hpermits hok
    have hstep := step_act hinv hknows o e hpermits hok
    exact ⟨hstep.onward, hstep.inv, hstep.knows⟩
  · intro th hth
    cases hth
  · intro th hth
    cases hth

/-- **A proof belongs to what was proved.** In any interleaving of any number of requests of either service, of the
threads their deployments run in and of scans: where every mark finds the draft as its deployment read it, and every save
that leaves a mark standing leaves the content, each mark stands for content that a development deployment carried and
succeeded with, and whatever went to another cluster was a removal or content proved so. -/
theorem marks_proved (cfg : Config) :
    (∀ (py : ConfigEdit.Letters) (encode : EditService.Encoding)
      (moves : List (Pool.Move EditService.Task Oracle (String × Option (List ConfigScan.Node)))),
      Meets (Pool.step (service (EditService.Task.prog py encode cfg) (changes cfg)))
        (Pool.Fits fun _ => Unmoved (changes cfg)) ⟨World.init, []⟩ moves →
      Belongs (changes cfg) (Run.run (Pool.step (service (EditService.Task.prog py encode cfg) (changes cfg)))
        ⟨World.init, []⟩ moves).shared) ∧
    (∀ (py : CatalogService.Python)
      (moves : List (Pool.Move CatalogService.Task Oracle (String × Option (List ConfigScan.Node)))),
      Meets (Pool.step (service (CatalogService.Task.prog py cfg) (catalogs cfg)))
        (Pool.Fits fun _ => Unmoved (catalogs cfg)) ⟨World.init, []⟩ moves →
      Belongs (catalogs cfg) (Run.run (Pool.step (service (CatalogService.Task.prog py cfg) (catalogs cfg)))
        ⟨World.init, []⟩ moves).shared) :=
  ⟨fun _ _ _ h => belongs_of_keeps keeps_edit h, fun _ _ h => belongs_of_keeps keeps_catalog h⟩

/-! ## An edit while the deployment runs -/

namespace Sample

abbrev Moves := List (Pool.Move EditService.Task Oracle (String × Option (List ConfigScan.Node)))

def changeService : Pool.System EditService.Task (Act ConfigEdit.Fields) Act.Answer Service.Exn Unit Oracle
    (String × Option (List ConfigScan.Node)) (World ConfigEdit.Fields) (Tape ConfigEdit.Fields) :=
  service (EditService.Task.prog letters encode cfg) (changes cfg)

/-- the next `n` effects of the thread at `i`, the outside serving -/
def next (i n : ℕ) : Moves := List.replicate n (.act i .serves)

def memory (value : String) : List ConfigEdit.RawEntry := [⟨some "query.max-memory", some "set", some value⟩]

/-- `dev` is scanned, a change of 50GB stored, and its deployment to `dev` started; the playbook runs -/
def deploying : Moves :=
  [.outside ("dev", some [⟨"w1", "worker", true, none, [], [], ["query.max-memory"]⟩]),
    .spawn (.create admin "memory" "worker" (memory "50GB") "" "more memory")] ++ next 0 3 ++
    [.spawn (.deploy admin 1 "dev" "more memory")] ++ next 1 7

/-- an edit of the change to 500GB, from start to end -/
def edit : Moves := .spawn (.update admin 1 "memory" "worker" (memory "500GB") "" "even more") :: next 2 4

/-- the deployment ends, and nothing has come between -/
def inOrder : Moves := deploying ++ next 1 3

/-- the edit comes first, and the deployment marks what it finds -/
def overtaken : Moves := deploying ++ edit ++ next 1 3

def after (moves : Moves) : World ConfigEdit.Fields := (Run.run (Pool.step changeService) ⟨World.init, []⟩ moves).shared

theorem meets_inOrder : Meets (Pool.step changeService) (Pool.Fits fun _ => Unmoved (changes cfg)) ⟨World.init, []⟩
    inOrder := by
  decide +kernel

end Sample

/-- an undisturbed deployment, and the mark is on what it carried -/
theorem marks_proved_inOrder : Belongs (changes Sample.cfg) (Sample.after Sample.inOrder) ∧
    ((Sample.after Sample.inOrder).rows 1).bind (·.verifiedOn) = some "dev" :=
  ⟨(marks_proved Sample.cfg).1 Sample.letters Sample.encode _ Sample.meets_inOrder, by decide +kernel⟩

/-- **A mark on what nobody deployed**: the change says 500GB, it is marked as proved on `dev`, and `dev` has had 50GB. -/
theorem mark_unproved : ((Sample.after Sample.overtaken).rows 1).map (fun row => (row.fields.entries, row.verifiedOn)) =
      some ([⟨"query.max-memory", .set, some "500GB"⟩], some "dev") ∧
    (Sample.after Sample.overtaken).succeeded.map (·.fields.entries) = [[⟨"query.max-memory", .set, some "50GB"⟩]] ∧
    ¬ Belongs (changes Sample.cfg) (Sample.after Sample.overtaken) := by
  have hrow : ((Sample.after Sample.overtaken).rows 1).map (fun row => (row.fields.entries, row.verifiedOn)) =
      some ([⟨"query.max-memory", .set, some "500GB"⟩], some "dev") := by decide +kernel
  have hsucceeded : (Sample.after Sample.overtaken).succeeded.map (·.fields.entries) =
      [[⟨"query.max-memory", .set, some "50GB"⟩]] := by decide +kernel
  refine ⟨hrow, hsucceeded, fun h => ?_⟩
  obtain ⟨row, hget, hpair⟩ := Option.map_eq_some_iff.1 hrow
  obtain ⟨hentries, hverified⟩ := Prod.mk.inj hpair
  obtain ⟨d, hd, -, -, hcontent⟩ := h.marks 1 row hget (by rw [hverified]; rfl)
  have hcarried : d.fields.entries = row.fields.entries := congrArg Prod.snd hcontent
  have hmem : d.fields.entries ∈ (Sample.after Sample.overtaken).succeeded.map (·.fields.entries) :=
    List.mem_map_of_mem hd
  rw [hsucceeded, hcarried, hentries] at hmem
  exact absurd hmem (by decide)

end TrinoManagement.Drafts
