/-
Requests one at a time. While a request runs nothing else changes the world, so what it knows of its sequence is so.

- `Holds`: the grip agrees with the stored row and with the snapshots read; `linked_handle`: every permitted effect
  keeps it.
- `request_inv`: the induction over the effects of a request. An invariant of the world and the typestate, preserved by
  every permitted effect of a request whose grip holds, is there at its end.
-/
import Mathlib.Tactic
import TrinoManagement.Ops.Conforms
import TrinoManagement.Ops.World

namespace TrinoManagement.Service

open TrinoManagement.Audit TrinoManagement.Collector TrinoManagement.Repository TrinoManagement.Sequence
open TrinoManagement.Prog

/-! ## What a request knows is so -/

/-- the stored row is as the request last saw it, and so are the snapshots it has read -/
structure Holds (w : World) (g : Grip) : Prop where
  row : ∃ row, w.rows[g.id]? = some row ∧ row.cluster = g.cluster ∧ row.state = g.base ∧
    row.runningQueries = g.remembered ∧ row.healthState = g.rememberedHealth
  queries : ∀ q, g.queries = some q → w.queries g.cluster = q
  health : ∀ h, g.health = some h → w.health g.cluster = h
  gateway : ∀ s, g.gateway = some s → w.gateway = s

/-- the request's grip holds, and it is the grip of the sequence the request names -/
def Linked (op : Op) (w : World) (σ : Ghost) : Prop := ∀ g, σ.grip = some g → Holds w g ∧ ∀ t ∈ op.target, g.id = t

theorem target_of_start {op : Op} {cluster : String} (h : op.startCluster = some cluster) : op.target = none := by
  cases op <;> first | rfl | simp [Op.startCluster] at h

section Link

variable {env : Env} {o : Oracle} {op : Op} {w : World} {σ : Ghost}

theorem readStore_ok {α : Type} {a b : α} (h : readStore env o a = .ok b) : b = a := by
  unfold readStore at h
  split at h <;> simp_all

theorem load_eq {k : Storage} {rows : List Row} {id : ℕ} {stored : StoredSequence} (h : load k rows id = some stored) :
    ∃ row, rows[id]? = some row ∧ stored = loadRow k id row := by
  simp only [load, Option.map_eq_some_iff] at h
  obtain ⟨row, hrow, rfl⟩ := h
  exact ⟨row, hrow, rfl⟩

theorem holds_load {id : ℕ} {row : Row} (h : w.rows[id]? = some row) :
    Holds w (.ofStored (loadRow env.storage id row)) :=
  ⟨⟨row, h, rfl, rfl, rfl, rfl⟩, by simp [Grip.ofStored], by simp [Grip.ofStored], by simp [Grip.ofStored]⟩

theorem holds_saved {stored : StoredSequence} {g : Grip} {row row' : Row} {t : List Event} (hw : Holds w g)
    (hid : stored.id = g.id) (hrow : w.rows[stored.id]? = some row) (hc : row'.cluster = row.cluster)
    (hst : row'.state = stored.sequence.state) (hr : row'.runningQueries = stored.sequence.runningQueries)
    (hh : row'.healthState = stored.sequence.healthState) :
    Holds { w with rows := w.rows.set stored.id row', trace := t }
      { g with base := stored.sequence.state, remembered := stored.sequence.runningQueries
               rememberedHealth := stored.sequence.healthState, stage := g.stage.saved } := by
  obtain ⟨row₀, hrow₀, hc₀, -⟩ := hw.row
  obtain rfl : row = row₀ := Option.some.inj (hrow.symm.trans (hid ▸ hrow₀))
  refine ⟨⟨row', ?_, hc.trans hc₀, hst, hr, hh⟩, hw.queries, hw.health, hw.gateway⟩
  rw [← hid]
  exact getElem?_written hrow

/-- **Serial requests.** Every permitted effect leaves the request with a grip that holds. -/
theorem linked_handle {e : Act} (hl : Linked op w σ) (hp : Permits op σ e) :
    Linked op (handle env o e w).2 (σ.after e (handle env o e w).1) := by
  cases e with
  | load id =>
    intro g hg
    simp only [handle] at hg ⊢
    cases hr : readStore env o (load env.storage w.rows id) with
    | error e => rw [hr] at hg; cases hg
    | ok found =>
      rw [hr] at hg
      cases found with
      | none => cases hg
      | some stored =>
        obtain rfl : Grip.ofStored stored = g := Option.some.inj hg
        obtain ⟨row, hrow, rfl⟩ := load_eq (readStore_ok hr).symm
        exact ⟨holds_load hrow, hp.1⟩
  | insert s roles =>
    simp only [handle]
    rcases @insertRow_cases env o w s roles with ⟨e, he⟩ | ⟨-, he⟩
    · rw [he]; exact hl
    · rw [he]
      intro g hg
      obtain rfl := Option.some.inj hg
      refine ⟨⟨⟨newRow w.now s roles, by simp, rfl, rfl, rfl, rfl⟩, ?_, ?_, ?_⟩, fun t ht => ?_⟩
      · exact fun _ h => by cases h
      · exact fun _ h => by cases h
      · exact fun _ h => by cases h
      · rw [target_of_start hp.2.1] at ht; cases ht
  | save stored forceReason =>
    obtain ⟨g, hg, hid, -⟩ := hp
    simp only [handle]
    rcases @saveSequence_cases env o w stored forceReason with ⟨e, he⟩ | ⟨row, n, r, forced, hrow, -, he⟩
    · rw [he]; exact fun _ h => by cases h
    · rw [he]
      rcases r with e | ⟨⟩
      · exact fun _ h => by cases h
      · intro g' hg'
        simp only [Ghost.after, hg, Option.map_some, Option.some.injEq] at hg'
        subst hg'
        exact ⟨holds_saved (hl g hg).1 hid hrow rfl rfl rfl rfl, (hl g hg).2⟩
  | setActive backend active =>
    have hworld : (handle env o (.setActive backend active) w).2.rows = w.rows ∧
        (handle env o (.setActive backend active) w).2.queries = w.queries ∧
        (handle env o (.setActive backend active) w).2.health = w.health ∧
        (handle env o (.setActive backend active) w).2.gateway = w.gateway := by
      simp only [handle]
      rcases @switchBackend_cases o w backend active with he | ⟨e, he⟩ | ⟨-, e, he⟩ <;> simp [he, World.switch]
    intro g' hg'
    simp only [Ghost.after, Option.map_eq_some_iff] at hg'
    obtain ⟨g, hg, rfl⟩ := hg'
    obtain ⟨hrow, hq, hh, hgw⟩ := (hl g hg).1
    refine ⟨⟨?_, ?_, ?_, ?_⟩, (hl g hg).2⟩
    · rw [hworld.1]; exact hrow
    · rw [hworld.2.1]; exact hq
    · rw [hworld.2.2.1]; exact hh
    · rw [hworld.2.2.2]; exact hgw
  | execStart cluster id =>
    intro g' hg'
    simp only [handle] at hg' ⊢
    generalize startAnswer o = r at hg'
    rcases r with e | s
    · cases hg'
    · simp only [Ghost.after, Option.map_eq_some_iff] at hg'
      obtain ⟨g, hg, rfl⟩ := hg'
      exact ⟨⟨(hl g hg).1.row, (hl g hg).1.queries, (hl g hg).1.health, (hl g hg).1.gateway⟩, (hl g hg).2⟩
  | loadQueries cluster =>
    simp only [handle]
    cases hr : readStore env o (w.queries cluster) with
    | error e => exact hl
    | ok q =>
      intro g' hg'
      simp only [Ghost.after, Option.map_eq_some_iff] at hg'
      obtain ⟨g, hg, rfl⟩ := hg'
      obtain ⟨hold, ht⟩ := hl g hg
      split_ifs with hc
      · refine ⟨⟨hold.row, fun q' hq' => ?_, hold.health, hold.gateway⟩, ht⟩
        obtain rfl := Option.some.inj hq'
        rw [readStore_ok hr, ← hc]
      · exact ⟨hold, ht⟩
  | loadHealth cluster =>
    simp only [handle]
    cases hr : readStore env o (w.health cluster) with
    | error e => exact hl
    | ok h =>
      intro g' hg'
      simp only [Ghost.after, Option.map_eq_some_iff] at hg'
      obtain ⟨g, hg, rfl⟩ := hg'
      obtain ⟨hold, ht⟩ := hl g hg
      split_ifs with hc
      · refine ⟨⟨hold.row, hold.queries, fun h' hh' => ?_, hold.gateway⟩, ht⟩
        obtain rfl := Option.some.inj hh'
        rw [readStore_ok hr, ← hc]
      · exact ⟨hold, ht⟩
  | loadGateway =>
    simp only [handle]
    cases hr : readStore env o w.gateway with
    | error e => exact hl
    | ok s =>
      intro g' hg'
      simp only [Ghost.after, Option.map_eq_some_iff] at hg'
      obtain ⟨g, hg, rfl⟩ := hg'
      obtain ⟨hold, ht⟩ := hl g hg
      refine ⟨⟨hold.row, hold.queries, hold.health, fun s' hs' => ?_⟩, ht⟩
      obtain rfl := Option.some.inj hs'
      exact (readStore_ok hr).symm
  | auditWrite record => exact fun g hg => ⟨⟨(hl g hg).1.row, (hl g hg).1.queries, (hl g hg).1.health,
      (hl g hg).1.gateway⟩, (hl g hg).2⟩
  | _ => exact hl

end Link

/-! ## A request -/

/-- the permitted effects of a request whose grip holds, answered by an oracle in `A`, preserve `J` -/
def Preserves (env : Env) (op : Op) (A : Oracle → Prop) (J : World → Ghost → Prop) : Prop :=
  ∀ o e w σ, A o → Linked op w σ → J w σ → Permits op σ e → J (handle env o e w).2 (σ.after e (handle env o e w).1)

/-- **Request rule.** What every permitted effect preserves is there when the request ends, and so is what its program
ends with. -/
theorem request_ends {env : Env} {op : Op} {A : Oracle → Prop} {J : World → Ghost → Prop} {K : View → Ghost → Prop}
    {w : World} (os : List Oracle) (hprog : Keeps op Settled (op.prog env.toConfig) K ⟨none, false⟩)
    (hpres : Preserves env op A J) (hd : A default) (hos : ∀ o ∈ os, A o) (hJ : J (w.called op) ⟨none, false⟩) :
    ∃ σ, J (step env w (.call op os)) σ ∧ Linked op (step env w (.call op os)) σ ∧
      Ends Settled K (Prog.run (handle env) os (op.prog env.toConfig) (w.called op)).1 σ := by
  obtain ⟨σ, ⟨hl, hj⟩, hend⟩ := protocol_run (J := fun w σ => Linked op w σ ∧ J w σ) (H := handle env) (A := A)
    (fun o e w σ ho hJ hp => ⟨linked_handle hJ.1 hp, hpres o e w σ ho hJ.1 hJ.2 hp⟩) hd hos hprog
    (s := w.called op) ⟨fun _ h => (by cases h), hJ⟩
  exact ⟨σ, hj, hl, hend⟩

theorem request_inv {env : Env} {op : Op} {A : Oracle → Prop} {J : World → Ghost → Prop} {w : World} (os : List Oracle)
    (hpres : Preserves env op A J) (hd : A default) (hos : ∀ o ∈ os, A o) (hJ : J (w.called op) ⟨none, false⟩) :
    ∃ σ, J (step env w (.call op os)) σ ∧ Linked op (step env w (.call op os)) σ ∧ Settled σ := by
  obtain ⟨σ, hj, hl, hend⟩ := request_ends os (conforms env.toConfig op) hpres hd hos hJ
  refine ⟨σ, hj, hl, ?_⟩
  revert hend
  cases (Prog.run (handle env) os (op.prog env.toConfig) (w.called op)).1 <;> exact id

section Effects

variable {op : Op} {w : World} {σ : Ghost}

/-- a permitted save raises and writes nothing, or moves the row of its sequence from the state last seen to a state the
contract allows -/
theorem save_linked (env : Env) (o : Oracle) {stored : StoredSequence} {forceReason : Option String} (hl : Linked op w σ)
    (hp : Permits op σ (.save stored forceReason)) :
    ∃ g, σ.grip = some g ∧ stored.id = g.id ∧ SaveOk op.kind g stored.sequence.state ∧
      ((∃ e, saveSequence env o stored forceReason w = (.error e, w)) ∨
        ∃ row row' r t, w.rows[g.id]? = some row ∧ row.cluster = g.cluster ∧ row.state = g.base ∧
          row'.cluster = g.cluster ∧ row'.state = stored.sequence.state ∧
          saveSequence env o stored forceReason w = (r, { w with rows := w.rows.set g.id row', trace := t })) := by
  obtain ⟨g, hg, hid, hc, hst, -⟩ := hp
  refine ⟨g, hg, hid, hst, ?_⟩
  rcases @saveSequence_cases env o w stored forceReason with he | ⟨row, n, r, forced, hrow, -, he⟩
  · exact .inl he
  · obtain ⟨row₀, hrow₀, hcl, hb, -⟩ := (hl g hg).1.row
    rw [hid] at hrow he
    obtain rfl : row₀ = row := Option.some.inj (hrow₀.symm.trans hrow)
    exact .inr ⟨row₀, row₀.written env.storage w.now stored forceReason n, r, _, hrow, hcl, hb, hcl, rfl, he⟩

/-- a quiet effect: the world is the same but for the audit log, and the grip is fresh or the one before -/
theorem after_quiet {e : Act} (h : e.writes = false) (r : e.Answer) :
    (σ.after e r).written = σ.written ∧ ∀ g', (σ.after e r).grip = some g' →
      g'.stage = .loaded ∨ ∃ g, σ.grip = some g ∧ g'.id = g.id ∧ g'.cluster = g.cluster ∧ g'.base = g.base ∧
        g'.stage = g.stage := by
  have same : ∀ g', σ.grip = some g' → g'.stage = .loaded ∨ ∃ g, σ.grip = some g ∧ g'.id = g.id ∧
      g'.cluster = g.cluster ∧ g'.base = g.base ∧ g'.stage = g.stage :=
    fun g' hg' => .inr ⟨g', hg', rfl, rfl, rfl, rfl⟩
  cases e with
  | insert | save | setActive | execStart => simp [Act.writes] at h
  | load id =>
    refine ⟨?_, fun g' hg' => .inl ?_⟩
    · rcases r with e | _ | s <;> rfl
    rcases r with e | _ | s
    · cases hg'
    · cases hg'
    · obtain rfl := Option.some.inj hg'
      rfl
  | loadQueries cluster =>
    rcases r with e | q
    · exact ⟨rfl, same⟩
    · refine ⟨rfl, fun g' hg' => .inr ?_⟩
      simp only [Ghost.after, Option.map_eq_some_iff] at hg'
      obtain ⟨g, hg, rfl⟩ := hg'
      refine ⟨g, hg, ?_⟩
      split_ifs <;> exact ⟨rfl, rfl, rfl, rfl⟩
  | loadHealth cluster =>
    rcases r with e | q
    · exact ⟨rfl, same⟩
    · refine ⟨rfl, fun g' hg' => .inr ?_⟩
      simp only [Ghost.after, Option.map_eq_some_iff] at hg'
      obtain ⟨g, hg, rfl⟩ := hg'
      refine ⟨g, hg, ?_⟩
      split_ifs <;> exact ⟨rfl, rfl, rfl, rfl⟩
  | loadGateway =>
    rcases r with e | s
    · exact ⟨rfl, same⟩
    · refine ⟨rfl, fun g' hg' => .inr ?_⟩
      simp only [Ghost.after, Option.map_eq_some_iff] at hg'
      obtain ⟨g, hg, rfl⟩ := hg'
      exact ⟨g, hg, rfl, rfl, rfl, rfl⟩
  | _ => exact ⟨rfl, same⟩

theorem written_quiet {e : Act} (hq : e.writes = false) {r : e.Answer} : (σ.after e r).written = σ.written :=
  (after_quiet hq r).1

/-- once it has written, a request gets no grip it did not have -/
theorem grip_quiet {e : Act} (hq : e.writes = false) (hp : Permits op σ e) (hw : σ.written = true) {r : e.Answer}
    (hg : (σ.after e r).grip.isSome) : σ.grip.isSome := by
  cases hgrip : σ.grip with
  | some g => rfl
  | none =>
    obtain ⟨g', hg'⟩ := Option.isSome_iff_exists.1 hg
    cases e with
    | insert | save | setActive | execStart => simp [Act.writes] at hq
    | load id => rw [hp.2.2 hgrip] at hw; cases hw
    | loadQueries | loadHealth | loadGateway => rcases r with e | q <;> simp [Ghost.after, hgrip] at hg'
    | _ => simp [Ghost.after, hgrip] at hg'

/-- a quiet effect loses no grip on a sequence whose traffic is back and not recorded -/
theorem restored_quiet {e : Act} {g : Grip} (hq : e.writes = false) (hp : Permits op σ e) (hg : σ.grip = some g)
    (hs : g.stage = .restored) (r : e.Answer) : ∃ g', (σ.after e r).grip = some g' ∧ g'.id = g.id ∧ g'.stage = .restored := by
  cases e with
  | insert | save | setActive | execStart => simp [Act.writes] at hq
  | load id => exact absurd hs (hp.2.1 g hg)
  | loadQueries cluster =>
    rcases r with e | q
    · exact ⟨g, hg, rfl, hs⟩
    · refine ⟨_, congrArg (Option.map _) hg, ?_⟩
      dsimp only
      split_ifs <;> exact ⟨rfl, hs⟩
  | loadHealth cluster =>
    rcases r with e | q
    · exact ⟨g, hg, rfl, hs⟩
    · refine ⟨_, congrArg (Option.map _) hg, ?_⟩
      dsimp only
      split_ifs <;> exact ⟨rfl, hs⟩
  | loadGateway =>
    rcases r with e | s
    · exact ⟨g, hg, rfl, hs⟩
    · exact ⟨_, congrArg (Option.map _) hg, rfl, hs⟩
  | _ => exact ⟨g, hg, rfl, hs⟩

end Effects

end TrinoManagement.Service
