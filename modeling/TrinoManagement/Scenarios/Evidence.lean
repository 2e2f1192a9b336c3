/-
What the record of a run says about a sequence and its cluster: when traffic was stopped for it, when it entered
VERIFYING, which request is being served. Both gates (`Scenarios.RestartGate`, `Scenarios.HealthGate`) are stated over
these.

- `Recorded`: the stored snapshots and rows are in the record, a sequence past PENDING and not aborted has a
  deactivation of its own there, and one in VERIFYING an entry into it.
- `recorded_step`: every step of a run keeps it, whatever the outside does.
-/
import Mathlib.Tactic
import TrinoManagement.Ops.Serial

namespace TrinoManagement.Service

open TrinoManagement.Collector TrinoManagement.Repository TrinoManagement.Sequence
open TrinoManagement.Run (Meets run run_inv)

/-! ## Reading the record (newest first) -/

def calledOp : Event → Option Op
  | .called op => some op
  | _ => none

/-- the request being served -/
def currentCall (past : List Event) : Option Op := past.findSome? calledOp

/-- what the request being served has done so far -/
def sameRequest (past : List Event) : List Event := past.takeWhile fun e => (calledOp e).isNone

def creates (id : ℕ) : Event → Bool
  | .created i _ => i == id
  | _ => false

/-- a deactivation the Gateway applied in the request that created the sequence -/
def deactivates (id : ℕ) (past : List Event) : Event → Option ℚ
  | .switched _ false t => if (sameRequest past).any (creates id) then some t else none
  | _ => none

/-- when the sequence deactivated its backend -/
def deactivatedAt (id : ℕ) : List Event → Option ℚ
  | [] => none
  | e :: past => (deactivates id past e).orElse fun _ => deactivatedAt id past

def verifies (id : ℕ) : Event → Option ℚ
  | .saved i .verifying _ _ t => if i = id then some t else none
  | _ => none

/-- when the sequence entered VERIFYING: the first time that state was stored -/
def verifyingSince (id : ℕ) : List Event → Option ℚ
  | [] => none
  | e :: past => (verifyingSince id past).orElse fun _ => verifies id e

def forces (id : ℕ) : Event → Bool
  | .saved i _ _ forced _ => i == id && forced
  | _ => false

/-- a force drain of the sequence succeeded -/
def Forced (id : ℕ) (past : List Event) : Prop := past.any (forces id) = true

instance (id : ℕ) (past : List Event) : Decidable (Forced id past) := by unfold Forced; infer_instance

theorem deactivatedAt_cons {id : ℕ} {e : Event} {past : List Event} (h : (deactivatedAt id past).isSome) :
    (deactivatedAt id (e :: past)).isSome := by
  simp only [deactivatedAt]
  cases deactivates id past e with
  | none => exact h
  | some t => rfl

theorem verifyingSince_cons {id : ℕ} {e : Event} {past : List Event} (h : (verifyingSince id past).isSome) :
    (verifyingSince id (e :: past)).isSome := by
  obtain ⟨t, ht⟩ := Option.isSome_iff_exists.1 h
  simp [verifyingSince, ht]

/-! ## The record and the store agree -/

/-- states in which a sequence has deactivated its backend and not been aborted -/
def pastStart : List State := [.draining, .drained, .restarting, .verifying, .completed]

structure Recorded (w : World) : Prop where
  queries : ∀ c s, w.queries c = some s → s.cluster = c ∧ Event.storedQueries s ∈ w.trace
  health : ∀ c s, w.health c = some s → s.cluster = c ∧ Event.storedHealth s ∈ w.trace
  created : ∀ id row, w.rows[id]? = some row → Event.created id row.cluster ∈ w.trace
  deactivated : ∀ id row, w.rows[id]? = some row → row.state ∈ pastStart → (deactivatedAt id w.trace).isSome
  verifying : ∀ id row, w.rows[id]? = some row → row.state = .verifying → (verifyingSince id w.trace).isSome

/-- one more event, no row touched: the snapshots that are stored then are in the record -/
theorem Recorded.stored {w w' : World} {e : Event} (h : Recorded w) (hrows : w'.rows = w.rows) (ht : w'.trace = e :: w.trace)
    (hq : ∀ c s, w'.queries c = some s → s.cluster = c ∧ Event.storedQueries s ∈ w'.trace)
    (hh : ∀ c s, w'.health c = some s → s.cluster = c ∧ Event.storedHealth s ∈ w'.trace) : Recorded w' := by
  refine ⟨hq, hh, fun id row hr => ?_, fun id row hr hst => ?_, fun id row hr hst => ?_⟩
  · rw [hrows] at hr; rw [ht]; exact List.mem_cons_of_mem _ (h.created id row hr)
  · rw [hrows] at hr; rw [ht]; exact deactivatedAt_cons (h.deactivated id row hr hst)
  · rw [hrows] at hr; rw [ht]; exact verifyingSince_cons (h.verifying id row hr hst)

/-- one more event, nothing stored -/
theorem Recorded.event {w w' : World} {e : Event} (h : Recorded w) (hrows : w'.rows = w.rows)
    (hq : w'.queries = w.queries) (hh : w'.health = w.health) (ht : w'.trace = e :: w.trace) : Recorded w' := by
  refine h.stored hrows ht ?_ ?_
  · intro c s hs
    rw [hq] at hs
    rw [ht]
    exact (h.queries c s hs).imp_right (List.mem_cons_of_mem _)
  · intro c s hs
    rw [hh] at hs
    rw [ht]
    exact (h.health c s hs).imp_right (List.mem_cons_of_mem _)

theorem Recorded.same {w w' : World} (h : Recorded w) (hs : SameButAudit w w') : Recorded w' := by
  rw [hs]
  exact ⟨h.queries, h.health, h.created, h.deactivated, h.verifying⟩

/-- a sequence that is saved past its start was there before, or this request stopped its traffic -/
theorem base_of_saveOk {kind : Kind} {g : Grip} {st : State} (h : SaveOk kind g st) (hst : st ∈ pastStart) :
    g.base ∈ pastStart ∨ g.stage = .stopped := by
  unfold SaveOk at h
  cases hs : g.stage with
  | loaded =>
    rw [hs] at h
    rcases h with rfl | ⟨hb, -⟩ | ⟨hb, -⟩ | ⟨-, rfl, -⟩
    · exact .inl hst
    · exact .inl (by simp [hb, pastStart])
    · exact .inl (by simp [hb, pastStart])
    · simp [pastStart] at hst
  | created =>
    rw [hs] at h
    rcases h with ⟨-, rfl | rfl⟩ <;> simp [pastStart] at hst
  | stopped => exact .inr rfl
  | unstopped =>
    rw [hs] at h
    obtain ⟨-, rfl⟩ := h
    simp [pastStart] at hst
  | launched =>
    rw [hs] at h
    have hb := h.1
    simp only [List.mem_cons, List.not_mem_nil, or_false] at hb
    exact .inl (by rcases hb with hb | hb <;> simp [hb, pastStart])
  | restored =>
    rw [hs] at h
    rcases h with ⟨hb, -⟩ | ⟨-, rfl⟩
    · exact .inl (by simp [hb, pastStart])
    · simp [pastStart] at hst

/-! ## While a request runs -/

structure Traced (op : Op) (w : World) (σ : Ghost) : Prop where
  call : currentCall w.trace = some op
  recorded : Recorded w
  created : ∀ g, σ.grip = some g → g.stage = .created → (sameRequest w.trace).any (creates g.id)
  stopped : ∀ g, σ.grip = some g → g.stage = .stopped → (deactivatedAt g.id w.trace).isSome

section Trace

variable {env : Env} {op : Op} {w : World} {σ : Ghost}

theorem traced_quiet {o : Oracle} {e : Act} (hq : e.writes = false) (h : Traced op w σ) :
    Traced op (handle env o e w).2 (σ.after e (handle env o e w).1) := by
  have same := @handle_quiet env o w e hq
  have grips := (@after_quiet σ e hq (handle env o e w).1).2
  refine ⟨by rw [same.trace]; exact h.call, h.recorded.same same, fun g hg hs => ?_, fun g hg hs => ?_⟩
  · rcases grips g hg with hl | ⟨g₀, hg₀, hid, -, -, hst⟩
    · rw [hl] at hs; cases hs
    · rw [same.trace, hid]; exact h.created g₀ hg₀ (hst ▸ hs)
  · rcases grips g hg with hl | ⟨g₀, hg₀, hid, -, -, hst⟩
    · rw [hl] at hs; cases hs
    · rw [same.trace, hid]; exact h.stopped g₀ hg₀ (hst ▸ hs)

theorem recorded_insert {s : RestartSequence} {roles : List String} (h : Recorded w) (hs : s.state = .pending) :
    Recorded { w with rows := w.rows ++ [newRow w.now s roles]
                      trace := .created w.rows.length s.cluster :: w.trace } := by
  refine ⟨fun c q hq => (h.queries c q hq).imp_right (List.mem_cons_of_mem _),
    fun c q hq => (h.health c q hq).imp_right (List.mem_cons_of_mem _), fun id row hr => ?_,
    fun id row hr hst => ?_, fun id row hr hst => ?_⟩
  · rcases getElem?_inserted hr with hr | ⟨rfl, rfl⟩
    · exact List.mem_cons_of_mem _ (h.created id row hr)
    · exact List.mem_cons_self
  · rcases getElem?_inserted hr with hr | ⟨rfl, rfl⟩
    · exact deactivatedAt_cons (h.deactivated id row hr hst)
    · simp [newRow, hs, pastStart] at hst
  · rcases getElem?_inserted hr with hr | ⟨rfl, rfl⟩
    · exact verifyingSince_cons (h.verifying id row hr hst)
    · simp [newRow, hs] at hst

theorem recorded_save {id : ℕ} {row row' : Row} {forced : Bool} {f : Option ℚ} {t : ℚ} (h : Recorded w)
    (hrow : w.rows[id]? = some row) (hc : row'.cluster = row.cluster)
    (hd : row'.state ∈ pastStart → (deactivatedAt id w.trace).isSome) :
    Recorded { w with rows := w.rows.set id row', trace := .saved id row'.state f forced t :: w.trace } := by
  refine ⟨fun c q hq => (h.queries c q hq).imp_right (List.mem_cons_of_mem _),
    fun c q hq => (h.health c q hq).imp_right (List.mem_cons_of_mem _), fun i r hr => ?_, fun i r hr hst => ?_,
    fun i r hr hst => ?_⟩
  · rcases getElem?_set_cases hrow hr with ⟨rfl, rfl⟩ | ⟨-, hr⟩
    · rw [hc]; exact List.mem_cons_of_mem _ (h.created i row hrow)
    · exact List.mem_cons_of_mem _ (h.created i r hr)
  · rcases getElem?_set_cases hrow hr with ⟨rfl, rfl⟩ | ⟨-, hr⟩
    · exact deactivatedAt_cons (hd hst)
    · exact deactivatedAt_cons (h.deactivated i r hr hst)
  · rcases getElem?_set_cases hrow hr with ⟨rfl, rfl⟩ | ⟨-, hr⟩
    · simp only [verifyingSince, hst]
      cases verifyingSince i w.trace <;> simp [verifies]
    · exact verifyingSince_cons (h.verifying i r hr hst)

/-- every permitted effect of a request keeps the record -/
theorem traced_handle (A : Oracle → Prop) : Preserves env op A (Traced op) := by
  intro o e w σ _ hl h hp
  cases e with
  | insert s roles =>
    simp only [handle]
    rcases @insertRow_cases env o w s roles with ⟨e, he⟩ | ⟨-, he⟩
    · rw [he]; exact h
    · rw [he]
      refine ⟨h.call, recorded_insert h.recorded hp.2.2, fun g hg _ => ?_, fun g hg hs => ?_⟩
      · obtain rfl := Option.some.inj hg
        simp [sameRequest, calledOp, creates]
      · obtain rfl := Option.some.inj hg
        cases hs
  | save stored forceReason =>
    obtain ⟨g, hg, hid, hc, hst, -⟩ := hp
    simp only [handle]
    rcases @saveSequence_cases env o w stored forceReason with ⟨e, he⟩ | ⟨row, n, r, forced, hrow, -, he⟩
    · rw [he]
      exact ⟨h.call, h.recorded, fun _ hg' => (by cases hg'), fun _ hg' => (by cases hg')⟩
    · rw [he]
      have hbase : row.state = g.base := by
        obtain ⟨row₀, hrow₀, -, hb, -⟩ := (hl g hg).1.row
        rw [hid, hrow₀] at hrow
        obtain rfl := Option.some.inj hrow
        exact hb
      have hdeact : stored.sequence.state ∈ pastStart → (deactivatedAt stored.id w.trace).isSome := fun hp => by
        rcases base_of_saveOk hst hp with hb | hb
        · exact h.recorded.deactivated _ row hrow (hbase ▸ hb)
        · exact hid ▸ h.stopped g hg hb
      refine ⟨h.call, recorded_save h.recorded hrow rfl hdeact, fun g' hg' hs => ?_, fun g' hg' hs => ?_⟩
      · obtain ⟨-, g, hg, rfl⟩ := after_save hg'
        have := h.created g hg (saved_eq_created hs)
        simp only [sameRequest, calledOp, List.takeWhile_cons, Option.isNone_none, if_true, List.any_cons,
          Bool.or_eq_true]
        exact .inr this
      · obtain ⟨-, g, hg, rfl⟩ := after_save hg'
        rcases saved_cases g.stage with hl | hl <;> simp [hl] at hs
  | setActive backend active =>
    obtain ⟨g, hg, hsw, -⟩ := hp
    have grip : ∀ r g', (σ.after (.setActive backend active) r).grip = some g' →
        g'.id = g.id ∧ g'.stage = g.stage.switched active r := by
      intro r g' hg'
      obtain ⟨g₀, hg₀, rfl⟩ := after_setActive hg'
      obtain rfl : g = g₀ := by simpa [hg] using hg₀
      exact ⟨rfl, rfl⟩
    have notCreated : ∀ r, g.stage.switched active r ≠ .created := by
      intro r
      cases active with
      | true => rw [hsw.1]; rcases r with e | ⟨⟩ <;> simp [Stage.switched]
      | false => rcases r with e | ⟨⟩ <;> simp [Stage.switched]
    have notStopped : ∀ e, g.stage.switched active (.error e) ≠ .stopped := by
      intro e
      cases active with
      | true => rw [hsw.1]; simp [Stage.switched]
      | false => simp [Stage.switched]
    have hrec : Recorded (w.switch backend active) := h.recorded.event rfl rfl rfl rfl
    simp only [handle]
    rcases @switchBackend_cases o w backend active with he | ⟨e, he⟩ | ⟨-, e, he⟩
    · rw [he]
      refine ⟨h.call, hrec, fun g' hg' hs => absurd ((grip _ g' hg').2.symm.trans hs) (notCreated _), fun g' hg' hs => ?_⟩
      obtain ⟨hid, hstage⟩ := grip _ g' hg'
      have hactive : active = false := by
        rw [hstage] at hs
        cases active with
        | true => simp [Stage.switched] at hs
        | false => rfl
      subst hactive
      simp [hid, World.switch, deactivatedAt, deactivates, h.created g hg hsw.1]
    · rw [he]
      exact ⟨h.call, h.recorded, fun g' hg' hs => absurd ((grip _ g' hg').2.symm.trans hs) (notCreated _),
        fun g' hg' hs => absurd ((grip _ g' hg').2.symm.trans hs) (notStopped e)⟩
    · rw [he]
      exact ⟨h.call, hrec, fun g' hg' hs => absurd ((grip _ g' hg').2.symm.trans hs) (notCreated _),
        fun g' hg' hs => absurd ((grip _ g' hg').2.symm.trans hs) (notStopped e)⟩
  | execStart cluster id =>
    have grip : ∀ g', (σ.after (.execStart cluster id) (startAnswer o)).grip = some g' → g'.stage = .launched := by
      intro g' hg'
      obtain ⟨g, -, rfl⟩ := after_execStart hg'
      rfl
    simp only [handle]
    exact ⟨h.call, h.recorded.event rfl rfl rfl rfl, fun g' hg' hs => (by rw [grip g' hg'] at hs; cases hs),
      fun g' hg' hs => (by rw [grip g' hg'] at hs; cases hs)⟩
  | _ => exact traced_quiet rfl h

theorem traced_called (h : Recorded w) : Traced op (w.called op) ⟨none, false⟩ :=
  ⟨rfl, h.event rfl rfl rfl rfl, fun _ hg => (by cases hg), fun _ hg => (by cases hg)⟩

/-- **The record is kept**, by every step and whatever the outside does. -/
theorem recorded_step (h : Recorded w) (l : Label) : Recorded (step env w l) := by
  cases l with
  | call op os =>
    obtain ⟨_, hJ, -⟩ := request_inv os (traced_handle fun _ => True) trivial (fun _ _ => trivial)
      (@traced_called op w h)
    exact hJ.recorded
  | clock t => exact ⟨h.queries, h.health, h.created, h.deactivated, h.verifying⟩
  | storeQueries s =>
    refine h.stored rfl rfl (fun c q hq => ?_) fun c q hq => (h.health c q hq).imp_right (List.mem_cons_of_mem _)
    simp only [step, Function.update_apply] at hq
    split_ifs at hq with hc
    · obtain rfl := Option.some.inj hq
      exact ⟨hc.symm, List.mem_cons_self⟩
    · exact (h.queries c q hq).imp_right (List.mem_cons_of_mem _)
  | storeHealth s =>
    refine h.stored rfl rfl (fun c q hq => (h.queries c q hq).imp_right (List.mem_cons_of_mem _)) fun c q hq => ?_
    simp only [step, Function.update_apply] at hq
    split_ifs at hq with hc
    · obtain rfl := Option.some.inj hq
      exact ⟨hc.symm, List.mem_cons_self⟩
    · exact (h.health c q hq).imp_right (List.mem_cons_of_mem _)
  | pollGateway answers => exact ⟨h.queries, h.health, h.created, h.deactivated, h.verifying⟩
  | editGateway backends => exact ⟨h.queries, h.health, h.created, h.deactivated, h.verifying⟩

theorem recorded_init (now : ℚ) (backends : List Backend) : Recorded (World.init now backends) :=
  ⟨fun _ _ h => (by cases h), fun _ _ h => (by cases h), fun _ _ h => (by cases h), fun _ _ h => (by cases h),
    fun _ _ h => (by cases h)⟩

end Trace

/-! ## Gates

A gate is a law about each event of the record, given what came before it, which holds of what a request does as long as
the request found what the law needs before it wrote anything. -/

/-- every event obeyed the law when it happened -/
def Obeys (law : List Event → Event → Prop) : List Event → Prop
  | [] => True
  | e :: past => law past e ∧ Obeys law past

instance Obeys.decidable (law : List Event → Event → Prop) [∀ past e, Decidable (law past e)] :
    ∀ trace, Decidable (Obeys law trace)
  | [] => isTrue trivial
  | e :: past =>
    have := Obeys.decidable law past
    inferInstanceAs (Decidable (law past e ∧ Obeys law past))

/-- the request has met nothing but its condition, and until something is written it still does -/
structure Guarded (law : List Event → Event → Prop) (finds : Op → World → Prop) (op : Op) (w : World) (σ : Ghost) : Prop
    where
  traced : Traced op w σ
  obeys : Obeys law w.trace
  finds : σ.written = false → finds op w

/-- the law, the condition on a request, and why the one gives the other -/
structure Gate where
  law : List Event → Event → Prop
  finds : Op → World → Prop
  same : ∀ op w w', finds op w → SameButAudit w w' → finds op w'
  called : ∀ op w, finds op w → finds op (w.called op)
  /-- what happens outside requests is not the law's business -/
  outside : ∀ past, (∀ op, law past (.called op)) ∧ (∀ s, law past (.storedQueries s)) ∧ ∀ s, law past (.storedHealth s)
  emits : ∀ op w σ e ev, Linked op w σ → Guarded law finds op w σ → Permits op σ e → Emits w e ev → law w.trace ev

/-- the condition on a step; a request that the role check refuses finds nothing -/
def Gate.ok (gate : Gate) (w : World) : Label → Prop
  | .call op _ => op.admitted = true → gate.finds op w
  | _ => True

instance (gate : Gate) [∀ op w, Decidable (gate.finds op w)] (w : World) (l : Label) : Decidable (gate.ok w l) := by
  cases l <;> unfold Gate.ok <;> infer_instance

theorem guarded_handle {env : Env} {op : Op} (gate : Gate) (A : Oracle → Prop) :
    Preserves env op A (Guarded gate.law gate.finds op) := by
  intro o e w σ ho hl h hp
  refine ⟨traced_handle A o e w σ ho hl h.traced hp, ?_, ?_⟩
  · rcases @handle_trace env o w e with ht | ⟨ev, hev, ht⟩
    · rw [ht]; exact h.obeys
    · rw [ht]; exact ⟨gate.emits op w σ e ev hl h hp hev, h.obeys⟩
  · cases e with
    | insert s roles =>
      simp only [handle]
      rcases @insertRow_cases env o w s roles with ⟨e, he⟩ | ⟨-, he⟩
      · rw [he]; exact h.finds
      · rw [he]; exact fun hw => by cases hw
    | save stored forceReason =>
      simp only [handle]
      exact fun hw => by simp at hw
    | setActive backend active => exact fun hw => by cases hw
    | execStart cluster id =>
      simp only [handle]
      exact fun hw => by simp at hw
    | _ => exact fun hw => gate.same _ _ _ (h.finds ((after_quiet rfl _).1.symm.trans hw)) (handle_quiet rfl)

/-- **Gate rule.** In every run whose requests find what the gate needs, every event obeys its law. -/
theorem gate_run (gate : Gate) (env : Env) {now : ℚ} {backends : List Backend} {ls : List Label}
    (h : Meets (step env) gate.ok (World.init now backends) ls) :
    Obeys gate.law (run (step env) (World.init now backends) ls).trace := by
  refine (run_inv (fun w => Recorded w ∧ Obeys gate.law w.trace) (fun w l hw hok => ?_) h
    ⟨recorded_init now backends, trivial⟩).2
  refine ⟨recorded_step hw.1 l, ?_⟩
  cases l with
  | call op os =>
    cases hadmitted : op.admitted with
    | false =>
      rw [step_refused hadmitted]
      exact ⟨(gate.outside _).1 op, hw.2⟩
    | true =>
      obtain ⟨_, hJ, -⟩ := request_inv os (guarded_handle gate fun _ => True) trivial (fun _ _ => trivial)
        (J := Guarded gate.law gate.finds op)
        ⟨traced_called hw.1, ⟨(gate.outside _).1 op, hw.2⟩, fun _ => gate.called op w (hok hadmitted)⟩
      exact hJ.obeys
  | storeQueries s => exact ⟨(gate.outside _).2.1 s, hw.2⟩
  | storeHealth s => exact ⟨(gate.outside _).2.2 s, hw.2⟩
  | _ => exact hw.2

/-! ## A small deployment, for runs on fixed inputs -/

namespace Sample

def asciiLower (s : String) : String := String.ofList (s.toList.map Char.toLower)

def admin : Audit.Principal := ⟨"ops", ["admin"]⟩

/-- one cluster behind one backend, Postgres, restarts by hand -/
def env : Env :=
  { clusters := [⟨"prod-a", "http://prod-a:8080", "prod"⟩], gateway := true, configStore := false, automated := false
    storage := .postgres, lower := asciiLower, staleThreshold := 30 }

def backend : Backend := ⟨"trino-prod-a-1", some "http://prod-a:8080/", none, some "adhoc", true⟩

/-- a queries snapshot to be trusted -/
def queries (collectedAt : ℚ) (running queued : ℕ) : QueriesSnapshot :=
  ⟨⟨"prod-a", collectedAt, some ⟨[], ⟨running, queued, 0, running + queued⟩, 0, 5⟩, none, none⟩, fun _ => rfl⟩

def health (collectedAt : ℚ) (state : Health.State) : HealthSnapshot := ⟨"prod-a", collectedAt, ⟨state, true, false⟩, none, none⟩

end Sample

end TrinoManagement.Service
