/-
Does traffic come back on every exit?

Complete restores it before COMPLETED is stored, and abort before ABORTED is. Only `start` closes a sequence without
touching the Gateway again: when the deactivation raises, it takes it that traffic was never stopped.

- `traffic_restored`: over every run in which nobody else edits the Gateway and no deactivation both takes effect and
  raises, the only backend of a cluster is active whenever the cluster has no live sequence.
- `traffic_not_restored`: a deactivation that timed out after the Gateway applied it leaves an aborted sequence and an
  inactive backend.
-/
import Mathlib.Tactic
import TrinoManagement.Scenarios.Backends
import TrinoManagement.Scenarios.Evidence

namespace TrinoManagement.Service

open TrinoManagement.Collector TrinoManagement.Repository TrinoManagement.Sequence
open TrinoManagement.Run (Meets meets_of_forall run run_inv)

/-- every backend of the cluster takes queries -/
def AllActive (env : Env) (backends : List Backend) (cluster : String) : Prop :=
  ∀ b ∈ backends, env.clusterOf b = some cluster → b.active = true

instance (env : Env) (backends : List Backend) (cluster : String) : Decidable (AllActive env backends cluster) := by
  unfold AllActive; infer_instance

/-- whenever every sequence of the cluster is stored in a terminal state, the cluster takes queries -/
def TrafficRestored (env : Env) (cluster : String) (w : World) : Prop :=
  hasActive w.rows cluster = false → AllActive env w.backends cluster

instance (env : Env) (cluster : String) (w : World) : Decidable (TrafficRestored env cluster w) := by
  unfold TrafficRestored; infer_instance

/-! ## The premise and the condition -/

/-- one backend maps to the cluster, and no other has its name -/
def OnlyBackend (env : Env) (backends : List Backend) (cluster : String) (b : Backend) : Prop :=
  (backends.filter fun b => env.clusterOf b = some cluster) = [b] ∧ ∀ b' ∈ backends, b'.name = b.name → b' = b

instance (env : Env) (backends : List Backend) (cluster : String) (b : Backend) :
    Decidable (OnlyBackend env backends cluster b) := by unfold OnlyBackend; infer_instance

/-- nobody else edits the Gateway -/
def Unedited : Label → Prop
  | .editGateway _ => False
  | _ => True

instance : DecidablePred Unedited
  | .editGateway _ => inferInstanceAs (Decidable False)
  | .call .. | .clock _ | .storeQueries _ | .storeHealth _ | .pollGateway _ => inferInstanceAs (Decidable True)

/-- the answer says what happened: a switch that raises had no effect -/
def GatewayAnswer.Honest : GatewayAnswer → Prop
  | .appliedThenRaised .. => False
  | _ => True

instance (a : GatewayAnswer) : Decidable a.Honest := by cases a <;> unfold GatewayAnswer.Honest <;> infer_instance

/-- the condition on a step: the Gateway's answers to a start of the cluster are honest -/
def StartsHonestly (cluster : String) : Label → Prop
  | .call op os => op.startCluster = some cluster → ∀ o ∈ os, o.gateway.Honest
  | _ => True

instance (cluster : String) : DecidablePred (StartsHonestly cluster)
  | .call op os => inferInstanceAs (Decidable (op.startCluster = some cluster → ∀ o ∈ os, o.gateway.Honest))
  | .clock _ | .storeQueries _ | .storeHealth _ | .pollGateway _ | .editGateway _ => inferInstanceAs (Decidable True)

/-! ## While a request runs -/

/-- the backends of the cluster are those with the name -/
def Named (env : Env) (backends : List Backend) (cluster name : String) : Prop :=
  ∀ b ∈ backends, b.name = name ↔ env.clusterOf b = some cluster

theorem named_only {env : Env} {backends : List Backend} {cluster : String} {b : Backend}
    (h : OnlyBackend env backends cluster b) : Named env backends cluster b.name := by
  have hmem : ∀ b', b' ∈ backends ∧ env.clusterOf b' = some cluster ↔ b' = b := fun b' => by
    have := congrArg (b' ∈ ·) h.1
    simpa using this
  intro b' hb'
  constructor
  · intro hn
    rw [h.2 b' hb' hn]
    exact ((hmem b).2 rfl).2
  · intro hc
    rw [(hmem b').1 ⟨hb', hc⟩]

/-- what is so between two effects; a request that may close a sequence without another switch has traffic running -/
structure Restoring (env : Env) (cluster name : String) (w : World) (σ : Ghost) : Prop where
  tidy : Tidy env w
  named : Named env w.backends cluster name
  idle : TrafficRestored env cluster w
  running : ∀ g, σ.grip = some g → g.cluster = cluster → g.stage ∈ [Stage.created, .unstopped, .restored] →
    AllActive env w.backends cluster

section Request

variable {env : Env} {op : Op} {cluster name : String} {w w' : World} {σ : Ghost} {o : Oracle}

theorem named_setActive {backends : List Backend} {backend : String} {active : Bool} (h : Named env backends cluster name) :
    Named env (setActive backend active backends) cluster name := by
  intro b hb
  rcases mem_setActive.1 hb with ⟨hb, -⟩ | ⟨b₀, hb₀, -, rfl⟩
  · exact h b hb
  · exact h b₀ hb₀

theorem allActive_activate {backends : List Backend} {backend : String} (h : AllActive env backends cluster) :
    AllActive env (setActive backend true backends) cluster := by
  intro b hb hc
  rcases mem_setActive.1 hb with ⟨hb, -⟩ | ⟨b₀, -, -, rfl⟩
  · exact h b hb hc
  · rfl

theorem allActive_activated {backends : List Backend} (h : Named env backends cluster name) :
    AllActive env (setActive name true backends) cluster := by
  intro b hb hc
  rcases mem_setActive.1 hb with ⟨hb, hn⟩ | ⟨b₀, -, -, rfl⟩
  · exact absurd ((h b hb).2 hc) hn
  · rfl

theorem allActive_other {backends : List Backend} {backend : String} {active : Bool} (hn : Named env backends cluster name)
    (hne : backend ≠ name) (h : AllActive env backends cluster) : AllActive env (setActive backend active backends) cluster := by
  intro b hb hc
  rcases mem_setActive.1 hb with ⟨hb, -⟩ | ⟨b₀, hb₀, hname, rfl⟩
  · exact h b hb hc
  · exact absurd (hname.symm.trans ((hn b₀ hb₀).2 hc)) hne

/-- a request that works on another cluster switches another backend -/
theorem resolve_named {s : Option GatewaySnapshot} {c backend : String} (ht : Tidy env w)
    (hn : Named env w.backends cluster name) (hs : w.gateway = s) (hres : resolve s c = some backend) :
    backend = name ↔ c = cluster := by
  obtain ⟨b, hb, hname, hc⟩ := resolve_backend ht hs hres
  rw [← hname, hn b hb, hc]
  simp

/-- a sequence is closed where it already was, or while its request has traffic running -/
theorem closed_of_saveOk {kind : Kind} {g : Grip} {st : State} (h : SaveOk kind g st) (hst : st ∈ terminal) :
    g.base ∈ terminal ∨ g.stage ∈ [Stage.created, .unstopped, .restored] := by
  unfold SaveOk at h
  cases hs : g.stage <;> rw [hs] at h
  case loaded =>
    rcases h with rfl | ⟨-, rfl, -⟩ | ⟨-, rfl⟩ | ⟨-, rfl, -⟩
    · exact .inl hst
    all_goals simp [terminal] at hst
  case stopped => rcases h with ⟨-, rfl | ⟨rfl, -⟩⟩ <;> simp [terminal] at hst
  case launched => rw [h.2] at hst; simp [terminal] at hst
  all_goals simp

theorem hasActive_of_set {rows : List Row} {id : ℕ} {row row' : Row} (hrow : rows[id]? = some row)
    (h : hasActive (rows.set id row') cluster = false)
    (hst : row.cluster = cluster → row.state ∈ terminal) : hasActive rows cluster = false := by
  by_contra hactive
  obtain ⟨i, r, hr, hcl, hlive⟩ := hasActive_iff.1 (Bool.not_eq_false _ ▸ hactive)
  by_cases hi : i = id
  · subst hi
    obtain rfl : row = r := Option.some.inj (hrow.symm.trans hr)
    exact hlive (hst hcl)
  · have hr' : (rows.set id row')[i]? = some r := by rw [List.getElem?_set_ne (Ne.symm hi)]; exact hr
    exact hlive (terminal_of_not_hasActive h hr' hcl)

theorem restoring_save {stored : StoredSequence} {forceReason : Option String} (h : Restoring env cluster name w σ)
    (hl : Linked op w σ) (hp : Permits op σ (.save stored forceReason)) :
    Restoring env cluster name (handle env o (.save stored forceReason) w).2
      (σ.after (.save stored forceReason) (handle env o (.save stored forceReason) w).1) := by
  have tidy := tidy_handle (fun _ => True) o _ w σ trivial hl h.tidy hp
  obtain ⟨g, hg, hid, hst, hcases⟩ := save_linked env o hl hp
  simp only [handle] at tidy ⊢
  rcases hcases with ⟨e, he⟩ | ⟨row, row', r, t, hrow, hc, hb, hc', hs, he⟩
  · rw [he]
    exact ⟨h.tidy, h.named, h.idle, fun _ hg' => (by cases hg')⟩
  · rw [he] at tidy ⊢
    refine ⟨tidy, h.named, fun hidle => ?_, fun g' hg' hcl hstage => ?_⟩
    · by_cases hcluster : g.cluster = cluster
      · -- the sequence just written is closed, so it was before, or traffic is running
        have hterm : row'.state ∈ terminal :=
          terminal_of_not_hasActive hidle (getElem?_written hrow) (hc'.trans hcluster)
        rcases closed_of_saveOk hst (hs ▸ hterm) with hbase | hstage
        · exact h.idle (hasActive_of_set hrow hidle fun _ => hb ▸ hbase)
        · exact h.running g hg hcluster hstage
      · exact h.idle (hasActive_of_set hrow hidle fun hcl => absurd (hc.symm.trans hcl) hcluster)
    · obtain ⟨-, g₀, hg₀, rfl⟩ := after_save hg'
      rcases saved_cases g₀.stage with hsaved | hsaved
      · exact h.running g₀ hg₀ hcl (by simp [saved_eq_created hsaved])
      · simp [hsaved] at hstage

/-- a switch, taken or not; `r` is what the request is told -/
theorem restoring_switch {backend : String} {active : Bool} {r : Except Exn Unit} (h : Restoring env cluster name w σ)
    (hl : Linked op w σ) (hp : Permits op σ (.setActive backend active)) (hw : w' = w ∨ w' = w.switch backend active)
    (hok : r = .ok () → w' = w.switch backend active)
    (herr : ∀ e, r = .error e → op.startCluster = some cluster → w' = w) :
    Restoring env cluster name w' (σ.after (.setActive backend active) r) := by
  obtain ⟨g, hg, hsw, hstart, s, hs, hres⟩ := hp
  obtain ⟨hold, -⟩ := hl g hg
  have hname := resolve_named h.tidy h.named (hold.gateway s hs) hres
  have grip : ∀ g', (σ.after (.setActive backend active) r).grip = some g' →
      g' = { g with stage := g.stage.switched active r } := by
    intro g' hg'
    obtain ⟨g₀, hg₀, rfl⟩ := after_setActive hg'
    obtain rfl : g = g₀ := by simpa [hg] using hg₀
    rfl
  have hworld : Tidy env w' ∧ Named env w'.backends cluster name ∧ w'.rows = w.rows := by
    rcases hw with rfl | rfl
    · exact ⟨h.tidy, h.named, rfl⟩
    · exact ⟨h.tidy.same rfl rfl (mapping_setActive ..), named_setActive h.named, rfl⟩
  cases active with
  | false =>
    have hidle : TrafficRestored env cluster w' := fun hidle => by
      rw [hworld.2.2] at hidle
      -- the sequence that stops traffic is live, so it is another cluster's
      have hother : g.cluster ≠ cluster := fun hc => by
        obtain ⟨row, hrow, hcl, hb, -⟩ := hold.row
        have hterm := terminal_of_not_hasActive hidle hrow (hcl.trans hc)
        rw [hb, hsw.2] at hterm
        simp [terminal] at hterm
      rcases hw with rfl | rfl
      · exact h.idle hidle
      · exact allActive_other h.named (fun hn => hother (hname.1 hn)) (h.idle hidle)
    refine ⟨hworld.1, hworld.2.1, hidle, fun g' hg' hc hstage => ?_⟩
    obtain rfl := grip g' hg'
    rcases r with e | ⟨⟩
    · rw [herr e rfl ((hstart rfl).trans (congrArg some hc))]
      exact h.running g hg hc (by simp [hsw.1])
    · simp [Stage.switched] at hstage
  | true =>
    have hmono : AllActive env w.backends cluster → AllActive env w'.backends cluster := fun hall => by
      rcases hw with rfl | rfl
      · exact hall
      · exact allActive_activate hall
    refine ⟨hworld.1, hworld.2.1, fun hidle => hmono (h.idle (hworld.2.2 ▸ hidle)), fun g' hg' hc hstage => ?_⟩
    obtain rfl := grip g' hg'
    rcases r with e | ⟨⟩
    · simp [Stage.switched, hsw.1] at hstage
    · rw [hok rfl]
      obtain rfl := hname.2 hc
      exact allActive_activated h.named

/-- every permitted effect keeps it, if a start's answers are honest -/
theorem restoring_handle : Preserves env op (fun o => op.startCluster = some cluster → o.gateway.Honest)
    (Restoring env cluster name) := by
  intro o e w σ ho hl h hp
  have tidy := tidy_handle (fun _ => True) o e w σ trivial hl h.tidy hp
  cases e with
  | insert s roles =>
    simp only [handle]
    rcases @insertRow_cases env o w s roles with ⟨e, he⟩ | ⟨hfree, he⟩
    · rw [he]
      exact ⟨h.tidy, h.named, h.idle, fun g hg => h.running g hg⟩
    · rw [he]
      refine ⟨tidy_insert h.tidy hfree, h.named, fun hidle => h.idle ?_, fun g hg hc _ => ?_⟩
      · simp only [hasActive, List.any_append, Bool.or_eq_false_iff] at hidle ⊢
        exact hidle.1
      · obtain rfl := Option.some.inj hg
        exact h.idle (hc ▸ hfree)
  | save stored forceReason => exact restoring_save h hl hp
  | setActive backend active =>
    simp only [handle]
    rcases @switchBackend_cases o w backend active with he | ⟨e, he⟩ | ⟨⟨c, m, hgw⟩, e, he⟩
    · rw [he]
      exact restoring_switch h hl hp (.inr rfl) (fun _ => rfl) fun e he => by cases he
    · rw [he]
      exact restoring_switch h hl hp (.inl rfl) (fun he => by cases he) fun _ _ _ => rfl
    · rw [he]
      refine restoring_switch h hl hp (.inr rfl) (fun he => by cases he) ?_
      intro e _ hst
      have := ho hst
      rw [hgw] at this
      exact this.elim
  | execStart cluster id =>
    refine ⟨tidy, h.named, h.idle, fun g hg _ hstage => ?_⟩
    obtain ⟨g, -, rfl⟩ := after_execStart hg
    simp at hstage
  | _ =>
    refine ⟨tidy, h.named, h.idle, fun g hg hc hstage => ?_⟩
    rcases (after_quiet rfl _).2 g hg with hs | ⟨g₀, hg₀, -, hcl, -, hs⟩
    · simp [hs] at hstage
    · exact h.running g₀ hg₀ (hcl.symm.trans hc) (hs ▸ hstage)

end Request

/-! ## Every run -/

theorem restored_step {env : Env} {cluster name : String} {w : World} {l : Label}
    (h : Tidy env w ∧ Named env w.backends cluster name ∧ TrafficRestored env cluster w) (hu : Unedited l)
    (hc : StartsHonestly cluster l) :
    Tidy env (step env w l) ∧ Named env (step env w l).backends cluster name ∧ TrafficRestored env cluster (step env w l) := by
  have tidy := tidy_step h.1 l fun backends hl => by subst hl; exact hu
  cases l with
  | call op os =>
    obtain ⟨σ, hJ, -, -⟩ := request_inv os (@restoring_handle env op cluster name)
      (fun _ => trivial) (fun o ho hst => hc hst o ho)
      ⟨h.1.same rfl rfl rfl, h.2.1, h.2.2, fun _ hg => (by cases hg)⟩
    exact ⟨hJ.tidy, hJ.named, hJ.idle⟩
  | editGateway backends => exact hu.elim
  | _ => exact ⟨tidy, h.2⟩

/-- **Traffic comes back.** In every run in which nobody else edits the Gateway and the Gateway's answers to a start of
the cluster are honest, the cluster's only backend, active at the beginning, is active whenever every sequence of the
cluster is stored in a terminal state. Any other call may fail, or take effect and raise. -/
theorem traffic_restored (env : Env) (now : ℚ) (backends : List Backend) (cluster : String) (b : Backend) (ls : List Label)
    (honly : OnlyBackend env backends cluster b) (hactive : b.active = true) (hu : ∀ l ∈ ls, Unedited l)
    (h : ∀ l ∈ ls, StartsHonestly cluster l) :
    TrafficRestored env cluster (run (step env) (World.init now backends) ls) := by
  have hinit : AllActive env backends cluster := fun b' hb' hc => by
    rwa [honly.2 b' hb' ((named_only honly b' hb').2 hc)]
  exact (run_inv (fun w => Tidy env w ∧ Named env w.backends cluster b.name ∧ TrafficRestored env cluster w)
    (fun w l hw hok => restored_step hw hok.1 hok.2) ((meets_of_forall hu).and (meets_of_forall h))
    ⟨tidy_init now backends, named_only honly, fun _ => hinit⟩).2.2

attribute [irreducible] TrafficRestored

/-- a restart given up after the drain, whose reactivation takes effect and raises, and is tried again -/
def abortedRun : List Label :=
  [.pollGateway true, .call (.start Sample.admin "prod-a" "upgrade") [],
    .call (.abort Sample.admin 0 "") (List.replicate 9 { Oracle.serves with gateway := .appliedThenRaised "Timeout" "" }),
    .call (.abort Sample.admin 0 "") []]

theorem traffic_restored_abort :
    TrafficRestored Sample.env "prod-a" (run (step Sample.env) (World.init 0 [Sample.backend]) abortedRun) ∧
    (run (step Sample.env) (World.init 0 [Sample.backend]) abortedRun).rows.map (·.state) = [.aborted] :=
  ⟨traffic_restored Sample.env 0 [Sample.backend] "prod-a" Sample.backend abortedRun (by decide +kernel) rfl
    (by decide +kernel) (by decide +kernel), by decide +kernel⟩

/-- a start whose deactivation times out after the Gateway applied it -/
def timedOutRun : List Label :=
  [.pollGateway true, .call (.start Sample.admin "prod-a" "upgrade")
    (List.replicate 9 { Oracle.serves with gateway := .appliedThenRaised "Timeout" "" })]

/-- **Traffic does not come back.** The sequence is closed as if nothing had been changed. -/
theorem traffic_not_restored :
    OnlyBackend Sample.env [Sample.backend] "prod-a" Sample.backend ∧ (∀ l ∈ timedOutRun, Unedited l) ∧
    (run (step Sample.env) (World.init 0 [Sample.backend]) timedOutRun).rows.map (·.state) = [.aborted] ∧
    ¬ TrafficRestored Sample.env "prod-a" (run (step Sample.env) (World.init 0 [Sample.backend]) timedOutRun) := by
  decide +kernel

end TrinoManagement.Service
