/-
Is traffic really stopped while a cluster is restarted?

`_backend_name` resolves one backend, the first of the stored join mapped to the cluster, while the join maps by URL and
so may map several; the benchmark guard asks all of them.

- `traffic_stopped`: over every run in which the Gateway takes every switch and nobody else edits it, and whose requests
  leave no other backend behind (`StopsAll`), every backend of a cluster is inactive while its sequence is past its
  start and not yet done.
- `traffic_not_stopped`: with a second backend on the same coordinator URL, one goes on taking queries.
-/
import Mathlib.Tactic
import TrinoManagement.Scenarios.Backends
import TrinoManagement.Scenarios.Evidence

namespace TrinoManagement.Service

open TrinoManagement.Collector TrinoManagement.Repository TrinoManagement.Sequence
open TrinoManagement.Run (Meets meets_of_forall run run_inv)

/-- the states between the deactivation and the end of a sequence that is not aborted -/
def intakeStopped : List State := [.draining, .drained, .restarting, .verifying]

/-- no backend of a cluster whose sequence is under way takes queries -/
def TrafficStopped (env : Env) (w : World) : Prop :=
  ∀ row ∈ w.rows, row.state ∈ intakeStopped → AllInactive env w.backends row.cluster

instance (env : Env) (w : World) : Decidable (TrafficStopped env w) := by unfold TrafficStopped; infer_instance

/-! ## The premise and the condition -/

/-- the Gateway takes every switch, and nobody else edits it -/
def Undisturbed : Label → Prop
  | .call _ os => ∀ o ∈ os, o.gateway = .applied
  | .editGateway _ => False
  | _ => True

/-- the one backend a request switches is the only one that matters: when traffic is stopped, the cluster's other
backends are inactive already; when it is restored, no cluster under way shares the backend's name -/
def SwitchesAll (env : Env) (w : World) : Op → Prop
  | .start _ cluster _ => ∀ name ∈ resolve w.gateway cluster, ∀ b ∈ w.backends, env.clusterOf b = some cluster →
      b.name ≠ name → b.active = false
  | .complete _ id | .abort _ id _ => ∀ row ∈ w.rows[id]?, ∀ name ∈ resolve w.gateway row.cluster, ∀ b ∈ w.backends,
      b.name = name → ∀ r ∈ w.rows, r.state ∈ intakeStopped → env.clusterOf b = some r.cluster → r.cluster = row.cluster
  | _ => True

/-- the condition on a step, if the role check lets the request past; the completion must be recorded once traffic is back -/
def StopsAll (env : Env) (w : World) : Label → Prop
  | .call op os => op.admitted = true → SwitchesAll env w op ∧ (op.kind = .complete → ∀ o ∈ os, o.fault = none)
  | _ => True

instance : DecidablePred Undisturbed
  | .call _ os => inferInstanceAs (Decidable (∀ o ∈ os, o.gateway = .applied))
  | .editGateway _ => inferInstanceAs (Decidable False)
  | .clock _ | .storeQueries _ | .storeHealth _ | .pollGateway _ => inferInstanceAs (Decidable True)

instance (env : Env) (w : World) : DecidablePred (SwitchesAll env w)
  | .start _ cluster _ => inferInstanceAs (Decidable (∀ name ∈ resolve w.gateway cluster, ∀ b ∈ w.backends,
      env.clusterOf b = some cluster → b.name ≠ name → b.active = false))
  | .complete _ id | .abort _ id _ => inferInstanceAs (Decidable (∀ row ∈ w.rows[id]?,
      ∀ name ∈ resolve w.gateway row.cluster, ∀ b ∈ w.backends, b.name = name → ∀ r ∈ w.rows, r.state ∈ intakeStopped →
        env.clusterOf b = some r.cluster → r.cluster = row.cluster))
  | .refresh _ | .forceDrain .. | .restart .. | .markRestarted .. => inferInstanceAs (Decidable True)

instance (env : Env) (w : World) : DecidablePred (StopsAll env w)
  | .call op os => inferInstanceAs (Decidable (op.admitted = true →
      SwitchesAll env w op ∧ (op.kind = .complete → ∀ o ∈ os, o.fault = none)))
  | .clock _ | .storeQueries _ | .storeHealth _ | .pollGateway _ | .editGateway _ => inferInstanceAs (Decidable True)

/-! ## While a request runs -/

/-- what is so between two effects; a completion that has restored traffic has yet to record it -/
structure Stopping (env : Env) (op : Op) (w : World) (σ : Ghost) : Prop where
  tidy : Tidy env w
  rows : ∀ (id : ℕ) (row : Row), w.rows[id]? = some row → row.state ∈ intakeStopped →
    AllInactive env w.backends row.cluster ∨
      ∃ g, σ.grip = some g ∧ g.id = id ∧ g.stage = .restored ∧ op.kind = .complete
  stopped : ∀ g, σ.grip = some g → g.stage = .stopped →
    op.startCluster.isSome ∧ AllInactive env w.backends g.cluster
  clean : SwitchesAll env w op

section Request

variable {env : Env} {op : Op} {w w' : World} {σ : Ghost} {o : Oracle}

/-- a sequence saved under way was under way before and its traffic not restored, or this request stopped its traffic -/
theorem intake_of_saveOk {kind : Kind} {g : Grip} {st : State} (h : SaveOk kind g st) (hst : st ∈ intakeStopped) :
    (g.base ∈ intakeStopped ∧ g.stage ≠ .restored) ∨ g.stage = .stopped := by
  unfold SaveOk at h
  cases hs : g.stage with
  | loaded =>
    rw [hs] at h
    rcases h with rfl | ⟨hb, -⟩ | ⟨hb, -⟩ | ⟨-, rfl, -⟩
    · exact .inl ⟨hst, by simp⟩
    · exact .inl ⟨by simp [hb, intakeStopped], by simp⟩
    · exact .inl ⟨by simp [hb, intakeStopped], by simp⟩
    · simp [intakeStopped] at hst
  | created =>
    rw [hs] at h
    rcases h with ⟨-, rfl | rfl⟩ <;> simp [intakeStopped] at hst
  | stopped => exact .inr rfl
  | unstopped =>
    rw [hs] at h
    obtain ⟨-, rfl⟩ := h
    simp [intakeStopped] at hst
  | launched =>
    rw [hs] at h
    have hb := h.1
    simp only [List.mem_cons, List.not_mem_nil, or_false] at hb
    exact .inl ⟨by rcases hb with hb | hb <;> simp [hb, intakeStopped], by simp⟩
  | restored =>
    rw [hs] at h
    rcases h with ⟨-, rfl⟩ | ⟨-, rfl⟩ <;> simp [intakeStopped] at hst

theorem nonterminal_of_intake {st : State} (h : st ∈ intakeStopped) : st ∉ terminal := by
  simp only [intakeStopped, List.mem_cons, List.not_mem_nil, or_false] at h
  rcases h with rfl | rfl | rfl | rfl <;> simp [terminal]

/-- the condition reads the rows under way, the stored join, and the Gateway; switching backends off, or any backend
where the condition is about names only, does not break it -/
theorem SwitchesAll.mono (h : SwitchesAll env w op) (hgateway : w'.gateway = w.gateway)
    (hrow : ∀ id ∈ op.target, ∀ row ∈ w'.rows[id]?, ∃ row₀ ∈ w.rows[id]?, row₀.cluster = row.cluster)
    (hrows : op.target.isSome → ∀ r ∈ w'.rows, r.state ∈ intakeStopped →
      ∃ r₀ ∈ w.rows, r₀.state ∈ intakeStopped ∧ r₀.cluster = r.cluster)
    (hbackends : ∀ b ∈ w'.backends, ∃ b₀ ∈ w.backends, b₀.name = b.name ∧ env.clusterOf b₀ = env.clusterOf b ∧
      (op.startCluster.isSome → b₀.active = false → b.active = false)) : SwitchesAll env w' op := by
  have restores : ∀ id ∈ op.target, (∀ row ∈ w.rows[id]?, ∀ name ∈ resolve w.gateway row.cluster, ∀ b ∈ w.backends,
      b.name = name → ∀ r ∈ w.rows, r.state ∈ intakeStopped → env.clusterOf b = some r.cluster →
      r.cluster = row.cluster) → ∀ row ∈ w'.rows[id]?, ∀ name ∈ resolve w'.gateway row.cluster, ∀ b ∈ w'.backends,
      b.name = name → ∀ r ∈ w'.rows, r.state ∈ intakeStopped → env.clusterOf b = some r.cluster →
      r.cluster = row.cluster := by
    intro id hid h row hr name hname b hb hn r hr' hst hc
    obtain ⟨row₀, hrow₀, hcl⟩ := hrow id hid row hr
    obtain ⟨b₀, hb₀, hn₀, hc₀, -⟩ := hbackends b hb
    obtain ⟨r₀, hr₀, hst₀, hcl₀⟩ := hrows (Option.isSome_of_mem hid) r hr' hst
    rw [← hcl₀, ← hcl]
    refine h row₀ hrow₀ name (by rw [hcl, ← hgateway]; exact hname) b₀ hb₀ (hn₀.trans hn) r₀ hr₀ hst₀ ?_
    rw [hc₀, hc, hcl₀]
  cases op with
  | start p cluster reason =>
    intro name hname b hb hc hn
    obtain ⟨b₀, hb₀, hn₀, hc₀, hoff⟩ := hbackends b hb
    exact hoff rfl (h name (hgateway ▸ hname) b₀ hb₀ (hc₀.trans hc) (hn₀ ▸ hn))
  | complete p id => exact restores id rfl h
  | abort p id note => exact restores id rfl h
  | _ => trivial

theorem SwitchesAll.same (h : SwitchesAll env w op) (hgateway : w'.gateway = w.gateway) (hrows : w'.rows = w.rows)
    (hbackends : w'.backends = w.backends) : SwitchesAll env w' op :=
  h.mono hgateway (fun _ _ row hr => ⟨row, hrows ▸ hr, rfl⟩) (fun _ r hr hst => ⟨r, hrows ▸ hr, hst, rfl⟩)
    fun b hb => ⟨b, hbackends ▸ hb, rfl, rfl, fun _ h => h⟩

theorem stopping_quiet {e : Act} (hq : e.writes = false) (hp : Permits op σ e) (h : Stopping env op w σ) :
    Stopping env op (handle env o e w).2 (σ.after e (handle env o e w).1) := by
  have same := @handle_quiet env o w e hq
  refine ⟨h.tidy.same same.rows same.gateway (by rw [same.backends]), fun id row hr hst => ?_, fun g hg hs => ?_,
    h.clean.same same.gateway same.rows same.backends⟩
  · rw [same.rows] at hr
    rw [same.backends]
    rcases h.rows id row hr hst with hall | ⟨g, hg, hid, hs, hk⟩
    · exact .inl hall
    · obtain ⟨g', hg', hid', hs'⟩ := restored_quiet hq hp hg hs (handle env o e w).1
      exact .inr ⟨g', hg', hid'.trans hid, hs', hk⟩
  · rw [same.backends]
    rcases (@after_quiet σ e hq (handle env o e w).1).2 g hg with hl | ⟨g₀, hg₀, -, hc, -, hs₀⟩
    · rw [hl] at hs; cases hs
    · rw [hc]; exact h.stopped g₀ hg₀ (hs₀ ▸ hs)

theorem stopping_insert {s : RestartSequence} {roles : List String} {t : List Event} (h : Stopping env op w σ)
    (hp : Permits op σ (.insert s roles)) (hfree : hasActive w.rows s.cluster = false) :
    Stopping env op { w with rows := w.rows ++ [newRow w.now s roles], trace := t }
      (σ.after (.insert s roles) (.ok w.rows.length)) := by
  obtain ⟨hnone, hcluster, hpending⟩ := hp
  refine ⟨tidy_insert h.tidy hfree, fun id row hr hst => ?_, fun g hg hs => ?_, ?_⟩
  · rcases getElem?_inserted hr with hr | ⟨rfl, rfl⟩
    · refine .inl ((h.rows id row hr hst).resolve_right ?_)
      rintro ⟨g, hg, -⟩
      rw [hnone] at hg
      cases hg
    · simp [newRow, hpending, intakeStopped] at hst
  · obtain rfl := Option.some.inj hg
    cases hs
  · have htarget := target_of_start hcluster
    exact h.clean.mono rfl (fun id hid => by rw [htarget] at hid; cases hid) (fun hid => by rw [htarget] at hid; cases hid)
      fun b hb => ⟨b, hb, rfl, rfl, fun _ h => h⟩

theorem stopping_save {stored : StoredSequence} {forceReason : Option String} (h : Stopping env op w σ)
    (hl : Linked op w σ) (hp : Permits op σ (.save stored forceReason)) (hfault : op.kind = .complete → o.fault = none) :
    Stopping env op (handle env o (.save stored forceReason) w).2
      (σ.after (.save stored forceReason) (handle env o (.save stored forceReason) w).1) := by
  obtain ⟨g, hg, hid, hst, hcases⟩ := save_linked env o hl hp
  have notStopped : ∀ r g', (σ.after (.save stored forceReason) r).grip = some g' → g'.stage ≠ .stopped := by
    intro r g' hg'
    obtain ⟨-, g, -, rfl⟩ := after_save hg'
    rcases saved_cases g.stage with hs | hs <;> simp [hs]
  simp only [handle]
  rcases hcases with ⟨e, he⟩ | ⟨row, row', r, t, hrow, hc, hb, hc', hs, he⟩
  · -- a save that fails is not that of a completion past its switch
    obtain ⟨row, hrow, -⟩ := (hl g hg).1.row
    have hrestored : g.stage = .restored → op.kind = .complete → False := fun hs hk => by
      have hterm : stored.sequence.state ∈ terminal := by
        rw [SaveOk, hs] at hst
        rcases hst with ⟨-, hst⟩ | ⟨-, hst⟩ <;> simp [hst, terminal]
      have hfree : conflicts w.rows stored.id row stored.sequence.state = false := by simp [conflicts, hterm]
      rw [saveSequence_ok (hfault hk) (hid ▸ hrow) hfree] at he
      cases he
    rw [he]
    refine ⟨h.tidy, fun id row hr hst => .inl ((h.rows id row hr hst).resolve_right ?_), fun _ hg' => (by cases hg'),
      h.clean⟩
    rintro ⟨g', hg', -, hs, hk⟩
    obtain rfl : g = g' := by simpa [hg] using hg'
    exact hrestored hs hk
  · rw [he]
    -- the row written is under way only if its backends are inactive
    have hwritten : stored.sequence.state ∈ intakeStopped → AllInactive env w.backends g.cluster ∧
        (op.target.isSome → g.base ∈ intakeStopped) := fun hin => by
      rcases intake_of_saveOk hst hin with ⟨hbase, hne⟩ | hstop
      · refine ⟨?_, fun _ => hbase⟩
        rw [← hc]
        refine (h.rows g.id row hrow (hb ▸ hbase)).resolve_right ?_
        rintro ⟨g', hg', -, hs', -⟩
        obtain rfl : g = g' := by simpa [hg] using hg'
        exact hne hs'
      · obtain ⟨hstart, hall⟩ := h.stopped g hg hstop
        obtain ⟨c, hstart⟩ := Option.isSome_iff_exists.1 hstart
        exact ⟨hall, fun htarget => by rw [target_of_start hstart] at htarget; cases htarget⟩
    have hterm : row.state ∈ terminal → row'.state ∈ terminal := fun ht => by
      rw [hb] at ht
      rw [hs, saveOk_terminal hst ht]
      exact ht
    refine ⟨tidy_save h.tidy hrow (hc'.trans hc.symm) hterm, fun i r₁ hr hin => .inl ?_,
      fun g' hg' hs' => absurd hs' (notStopped r g' hg'), h.clean.mono rfl ?_ ?_ fun b hb => ⟨b, hb, rfl, rfl, fun _ h => h⟩⟩
    · rcases getElem?_set_cases hrow hr with ⟨rfl, rfl⟩ | ⟨hne, hr⟩
      · rw [hc']
        exact (hwritten (hs ▸ hin)).1
      · refine (h.rows i r₁ hr hin).resolve_right ?_
        rintro ⟨g', hg', hid', -⟩
        obtain rfl : g = g' := by simpa [hg] using hg'
        exact hne hid'.symm
    · intro id hid' r₁ hr
      rcases getElem?_set_cases hrow hr with ⟨rfl, rfl⟩ | ⟨-, hr⟩
      · exact ⟨row, hrow, hc.trans hc'.symm⟩
      · exact ⟨r₁, hr, rfl⟩
    · intro htarget r₁ hr hin
      obtain ⟨i, hi⟩ := List.mem_iff_getElem?.1 hr
      rcases getElem?_set_cases hrow hi with ⟨rfl, rfl⟩ | ⟨-, hi⟩
      · exact ⟨row, List.mem_of_getElem? hrow, hb ▸ (hwritten (hs ▸ hin)).2 htarget, hc.trans hc'.symm⟩
      · exact ⟨r₁, List.mem_of_getElem? hi, hin, rfl⟩

/-- a switch the Gateway takes -/
theorem stopping_switch {backend : String} {active : Bool} {t : List Event} (h : Stopping env op w σ) (hl : Linked op w σ)
    (hp : Permits op σ (.setActive backend active)) :
    Stopping env op { w with backends := setActive backend active w.backends, trace := t }
      (σ.after (.setActive backend active) (.ok ())) := by
  obtain ⟨g, hg, hsw, hstart, s, hs, hres⟩ := hp
  obtain ⟨hold, htarget⟩ := hl g hg
  have hgw : w.gateway = s := hold.gateway s hs
  have tidy : Tidy env { w with backends := setActive backend active w.backends, trace := t } :=
    h.tidy.same rfl rfl (mapping_setActive ..)
  have grip : ∀ g', (σ.after (.setActive backend active) (.ok ())).grip = some g' →
      g' = { g with stage := if active then .restored else .stopped } := by
    intro g' hg'
    obtain ⟨g₀, hg₀, rfl⟩ := after_setActive hg'
    obtain rfl : g = g₀ := by simpa [hg] using hg₀
    rfl
  have backends : (op.startCluster.isSome → active = false) → ∀ b ∈ setActive backend active w.backends,
      ∃ b₀ ∈ w.backends, b₀.name = b.name ∧ env.clusterOf b₀ = env.clusterOf b ∧
      (op.startCluster.isSome → b₀.active = false → b.active = false) := fun hoff b hb => by
    rcases mem_setActive.1 hb with ⟨hb, -⟩ | ⟨b₀, hb₀, -, rfl⟩
    · exact ⟨b, hb, rfl, rfl, fun _ h => h⟩
    · exact ⟨b₀, hb₀, rfl, rfl, fun hst _ => hoff hst⟩
  have clean : (op.startCluster.isSome → active = false) →
      SwitchesAll env { w with backends := setActive backend active w.backends, trace := t } op := fun hoff =>
    h.clean.mono rfl (fun _ _ row hr => ⟨row, hr, rfl⟩) (fun _ r hr hst => ⟨r, hr, hst, rfl⟩) (backends hoff)
  cases active with
  | false =>
    refine ⟨tidy, fun id row hr hst => .inl ?_, fun g' hg' _ => ?_, clean fun _ => rfl⟩
    · have hall := (h.rows id row hr hst).resolve_right fun ⟨g', hg', _, hs', _⟩ => by
        obtain rfl : g = g' := by simpa [hg] using hg'
        rw [hsw.1] at hs'
        cases hs'
      exact allInactive_deactivate fun b hb hc _ => hall b hb hc
    · obtain rfl := grip g' hg'
      have hcluster := hstart rfl
      refine ⟨by simp [hcluster], allInactive_deactivate fun b hb hc hn => ?_⟩
      cases op with
      | start p cluster reason =>
        obtain rfl := Option.some.inj hcluster
        exact h.clean backend (by rw [hgw]; exact hres) b hb hc hn
      | _ => simp [Op.startCluster] at hcluster
  | true =>
    obtain ⟨row₀, hrow₀, hc₀, hb₀, -⟩ := hold.row
    have hlive : row₀.state ∉ terminal := by
      rw [hb₀]
      rcases hsw.2 with ⟨-, hb, -⟩ | ⟨-, hb⟩ <;> simp [hb, terminal]
    have hkind : op.kind = .complete ∨ (op.kind = .abort ∧ g.base = .aborting) := hsw.2.imp (·.1) id
    refine ⟨tidy, fun id row hr hst => ?_, fun g' hg' hs' => ?_, clean fun hst => ?_⟩
    · by_cases hid : id = g.id
      · -- the sequence whose traffic this restores: a completion has yet to record it
        subst hid
        obtain rfl : row₀ = row := Option.some.inj (hrow₀.symm.trans hr)
        rcases hkind with hk | ⟨-, hb⟩
        · exact .inr ⟨_, congrArg (Option.map _) hg, rfl, rfl, hk⟩
        · rw [hb₀, hb] at hst
          simp [intakeStopped] at hst
      · -- any other sequence under way is that of another cluster
        have hother : row.cluster ≠ g.cluster := fun hc =>
          hid (h.tidy.single id g.id row row₀ hr hrow₀ (hc.trans hc₀.symm) (nonterminal_of_intake hst) hlive)
        have hall := (h.rows id row hr hst).resolve_right fun ⟨g', hg', _, hs', _⟩ => by
          obtain rfl : g = g' := by simpa [hg] using hg'
          rw [hsw.1] at hs'
          cases hs'
        refine .inl (allInactive_other hall fun b hb hn hc => hother ?_)
        have hres' : backend ∈ resolve w.gateway row₀.cluster := by rw [hgw, hc₀]; exact hres
        rw [← hc₀]
        cases op with
        | complete p i =>
          obtain rfl : g.id = i := htarget i rfl
          exact h.clean row₀ hrow₀ backend hres' b hb hn row (List.mem_of_getElem? hr) hst hc
        | abort p i note =>
          obtain rfl : g.id = i := htarget i rfl
          exact h.clean row₀ hrow₀ backend hres' b hb hn row (List.mem_of_getElem? hr) hst hc
        | _ => simp [Op.kind] at hkind
    · obtain rfl := grip g' hg'
      cases hs'
    · cases op <;> simp [Op.kind, Op.startCluster] at hkind hst

/-- every permitted effect keeps traffic stopped, if the Gateway takes every switch -/
theorem stopping_handle :
    Preserves env op (fun o => o.gateway = .applied ∧ (op.kind = .complete → o.fault = none)) (Stopping env op) := by
  intro o e w σ ho hl h hp
  cases e with
  | insert s roles =>
    simp only [handle]
    rcases @insertRow_cases env o w s roles with ⟨e, he⟩ | ⟨hfree, he⟩
    · rw [he]
      refine ⟨h.tidy, fun id row hr hst => .inl ((h.rows id row hr hst).resolve_right ?_), fun g hg => h.stopped g hg,
        h.clean⟩
      rintro ⟨g, hg, -⟩
      rw [hp.1] at hg
      cases hg
    · rw [he]
      exact stopping_insert h hp hfree
  | save stored forceReason => exact stopping_save h hl hp ho.2
  | setActive backend active =>
    simp only [handle, switchBackend, ho.1]
    exact stopping_switch h hl hp
  | execStart cluster id =>
    obtain ⟨g, hg, -, -, -, -, hstage, -⟩ := hp
    refine ⟨h.tidy.same rfl rfl rfl, fun i row hr hst => .inl ((h.rows i row hr hst).resolve_right ?_),
      fun g' hg' hs => ?_, h.clean.same rfl rfl rfl⟩
    · rintro ⟨g', hg', -, hs, -⟩
      obtain rfl : g = g' := by simpa [hg] using hg'
      rw [hstage] at hs
      cases hs
    · obtain ⟨g, -, rfl⟩ := after_execStart hg'
      cases hs
  | _ => exact stopping_quiet rfl hp h

end Request

/-! ## Every run -/

theorem stopped_step {env : Env} {w : World} {l : Label} (h : Tidy env w ∧ TrafficStopped env w) (hu : Undisturbed l)
    (hc : StopsAll env w l) : Tidy env (step env w l) ∧ TrafficStopped env (step env w l) := by
  refine ⟨tidy_step h.1 l fun backends hl => by subst hl; exact hu, ?_⟩
  cases l with
  | call op os =>
    cases hadmitted : op.admitted with
    | false =>
      rw [step_refused hadmitted]
      exact h.2
    | true =>
      obtain ⟨hclean, hrecorded⟩ := hc hadmitted
      obtain ⟨σ, hJ, -, hsettled⟩ := request_inv os (@stopping_handle env op) ⟨rfl, fun _ => rfl⟩
        (fun o ho => ⟨hu o ho, fun hk => hrecorded hk o ho⟩)
        ⟨h.1.same rfl rfl rfl, fun id row hr hst => .inl (h.2 row (List.mem_of_getElem? hr) hst), fun _ hg => (by cases hg),
          hclean.same rfl rfl rfl⟩
      intro row hr hst
      obtain ⟨id, hid⟩ := List.mem_iff_getElem?.1 hr
      exact (hJ.rows id row hid hst).resolve_right fun ⟨g, hg, _, hs, _⟩ => hsettled g hg hs
  | editGateway backends => exact hu.elim
  | _ => exact h.2

/-- **Traffic is stopped.** In every run in which the Gateway takes every switch and nobody else edits it, and whose
requests switch every backend that matters, each backend the join maps to a cluster is inactive while the cluster's
sequence is in DRAINING, DRAINED, RESTARTING or VERIFYING. -/
theorem traffic_stopped (env : Env) (now : ℚ) (backends : List Backend) (ls : List Label) (hu : ∀ l ∈ ls, Undisturbed l)
    (h : Meets (step env) (StopsAll env) (World.init now backends) ls) :
    TrafficStopped env (run (step env) (World.init now backends) ls) := by
  exact (run_inv (fun w => Tidy env w ∧ TrafficStopped env w) (fun w l hw hok => stopped_step hw hok.1 hok.2)
    ((meets_of_forall hu).and h) ⟨tidy_init now backends, fun row hr => (by cases hr)⟩).2

attribute [irreducible] TrafficStopped

/-- a restart of a cluster behind one backend -/
def stoppedRun : List Label :=
  [.pollGateway true, .clock 1000, .call (.start Sample.admin "prod-a" "upgrade") [], .clock 1010,
    .storeQueries (Sample.queries 1005 2 0), .call (.refresh 0) []]

theorem traffic_stopped_one_backend :
    TrafficStopped Sample.env (run (step Sample.env) (World.init 0 [Sample.backend]) stoppedRun) ∧
    (run (step Sample.env) (World.init 0 [Sample.backend]) stoppedRun).rows.map (·.state) = [.draining] :=
  ⟨traffic_stopped Sample.env 0 [Sample.backend] stoppedRun (by decide +kernel) (by decide +kernel), by decide +kernel⟩

/-- a second backend on the same coordinator, in another routing group -/
def secondBackend : Backend := ⟨"trino-prod-a-2", some "http://prod-a:8080", none, some "etl", true⟩

/-- **Traffic is not stopped.** Only the first of two backends mapped to the cluster is deactivated. -/
theorem traffic_not_stopped :
    (∀ l ∈ stoppedRun, Undisturbed l) ∧
    ¬ TrafficStopped Sample.env (run (step Sample.env) (World.init 0 [Sample.backend, secondBackend]) stoppedRun) := by
  decide +kernel

end TrinoManagement.Service
