/-
Which backends a request switches, as long as nobody else edits the Gateway.

- `Single`: a cluster has one live sequence at most, after every step whatsoever (`single_step`).
- `Tidy`: and the stored join still says which backend maps to which cluster. Every request keeps it (`tidy_handle`) and
  so does every step that is not an outside edit (`tidy_step`).
- `resolve_backend`: the name a request resolves is that of a backend of its cluster.
-/
import Mathlib.Tactic
import TrinoManagement.Ops.Serial

namespace TrinoManagement.Service

open TrinoManagement.Collector TrinoManagement.Repository TrinoManagement.Sequence

/-- the cluster the live join maps a backend to -/
def Env.clusterOf (env : Env) (b : Backend) : Option String := Collector.clusterOf env.lower env.clusters b

/-- every backend of the cluster is inactive -/
def AllInactive (env : Env) (backends : List Backend) (cluster : String) : Prop :=
  ∀ b ∈ backends, env.clusterOf b = some cluster → b.active = false

/-- a cluster has one live sequence at most -/
def Single (w : World) : Prop :=
  ∀ (i j : ℕ) (r s : Row), w.rows[i]? = some r → w.rows[j]? = some s → r.cluster = s.cluster → r.state ∉ terminal →
    s.state ∉ terminal → i = j

/-- and the stored join still holds -/
structure Tidy (env : Env) (w : World) : Prop where
  single : Single w
  maps : ∀ s ∈ w.gateway, ∀ p ∈ s.payload,
    p.backends.map (fun b => (b.name, b.cluster)) = mapping env.lower env.clusters w.backends

section Backends

variable {env : Env} {w w' : World}

instance (backends : List Backend) (cluster : String) : Decidable (AllInactive env backends cluster) := by
  unfold AllInactive; infer_instance

theorem single_init (now : ℚ) (backends : List Backend) : Single (World.init now backends) := fun _ _ _ _ h => by cases h

theorem tidy_init (now : ℚ) (backends : List Backend) : Tidy env (World.init now backends) :=
  ⟨single_init now backends, fun _ h => (by cases h)⟩

theorem Tidy.same (h : Tidy env w) (hrows : w'.rows = w.rows) (hgateway : w'.gateway = w.gateway)
    (hbackends : mapping env.lower env.clusters w'.backends = mapping env.lower env.clusters w.backends) :
    Tidy env w' :=
  ⟨by rw [Single, hrows]; exact h.single, by rw [hgateway, hbackends]; exact h.maps⟩

/-! ## Resolving a backend -/

theorem resolve_backend {s : Option GatewaySnapshot} {cluster name : String} (h : Tidy env w) (hs : w.gateway = s)
    (hres : resolve s cluster = some name) : ∃ b ∈ w.backends, b.name = name ∧ env.clusterOf b = some cluster := by
  unfold resolve at hres
  split at hres
  · rename_i p hp
    obtain ⟨s, rfl, hp⟩ := Option.bind_eq_some_iff.1 hp
    obtain ⟨row, hrow, rfl⟩ := Option.map_eq_some_iff.1 hres
    have hcluster : row.cluster = some cluster := by simpa using List.find?_some hrow
    have hmem : (row.name, row.cluster) ∈ mapping env.lower env.clusters w.backends := by
      rw [← h.maps s hs p hp]
      exact List.mem_map_of_mem (List.mem_of_find?_eq_some hrow)
    obtain ⟨b, hb, he⟩ := List.mem_map.1 hmem
    obtain ⟨hn, hc⟩ := Prod.mk.inj he
    exact ⟨b, hb, hn, hc.trans hcluster⟩
  · cases hres

theorem allInactive_deactivate {backends : List Backend} {cluster name : String}
    (h : ∀ b ∈ backends, env.clusterOf b = some cluster → b.name ≠ name → b.active = false) :
    AllInactive env (setActive name false backends) cluster := by
  intro b hb hc
  rcases mem_setActive.1 hb with ⟨hb, hn⟩ | ⟨b₀, hb₀, -, rfl⟩
  · exact h b hb hc hn
  · rfl

/-- switching a backend of another cluster changes nothing for this one -/
theorem allInactive_other {backends : List Backend} {cluster name : String} {active : Bool}
    (h : AllInactive env backends cluster) (hother : ∀ b ∈ backends, b.name = name → env.clusterOf b ≠ some cluster) :
    AllInactive env (setActive name active backends) cluster := by
  intro b hb hc
  rcases mem_setActive.1 hb with ⟨hb, -⟩ | ⟨b₀, hb₀, hn, rfl⟩
  · exact h b hb hc
  · exact absurd hc (hother b₀ hb₀ hn)

/-! ## One live sequence a cluster -/

theorem single_insert {s : RestartSequence} {roles : List String} {t : List Event} (h : Single w)
    (hfree : hasActive w.rows s.cluster = false) :
    Single { w with rows := w.rows ++ [newRow w.now s roles], trace := t } := by
  have free : ∀ (id : ℕ) (row : Row), w.rows[id]? = some row → row.cluster = s.cluster → row.state ∈ terminal :=
    fun id row hrow hc => terminal_of_not_hasActive hfree hrow hc
  intro i j r r' hi hj hc hr hr'
  rcases getElem?_inserted hi with hi | ⟨rfl, rfl⟩ <;> rcases getElem?_inserted hj with hj | ⟨rfl, rfl⟩
  · exact h i j r r' hi hj hc hr hr'
  · exact absurd (free i r hi hc) hr
  · exact absurd (free j r' hj hc.symm) hr'
  · rfl

theorem single_save {id : ℕ} {row row' : Row} {t : List Event} (h : Single w) (hrow : w.rows[id]? = some row)
    (hc : row'.cluster = row.cluster) (hst : row.state ∈ terminal → row'.state ∈ terminal) :
    Single { w with rows := w.rows.set id row', trace := t } := by
  intro i j r s hi hj hcl hr hs
  rcases getElem?_set_cases hrow hi with ⟨rfl, rfl⟩ | ⟨-, hi'⟩ <;>
    rcases getElem?_set_cases hrow hj with ⟨rfl, rfl⟩ | ⟨-, hj'⟩
  · rfl
  · exact h _ j row s hrow hj' (hc.symm.trans hcl) (fun ht => hr (hst ht)) hs
  · exact h i _ r row hi' hrow (hcl.trans hc) hr fun ht => hs (hst ht)
  · exact h i j r s hi' hj' hcl hr hs

/-- so no save of a live sequence conflicts with another -/
theorem conflicts_single {id : ℕ} {row : Row} (h : Single w) (hrow : w.rows[id]? = some row) (hlive : row.state ∉ terminal)
    (st : State) : conflicts w.rows id row st = false := by
  have hother : hasActive (w.rows.eraseIdx id) row.cluster = false := by
    by_contra hactive
    obtain ⟨i, r, hr, hc, hst⟩ := hasActive_iff.1 (Bool.not_eq_false _ ▸ hactive)
    rw [List.getElem?_eraseIdx] at hr
    split_ifs at hr with hlt
    · have := h i id r row hr hrow hc hst hlive
      omega
    · have := h (i + 1) id r row hr hrow hc hst hlive
      omega
  simp [conflicts, hother]

theorem single_handle {op : Op} (A : Oracle → Prop) : Preserves env op A fun w _ => Single w := by
  intro o e w σ _ hl h hp
  cases e with
  | insert s roles =>
    simp only [handle]
    rcases @insertRow_cases env o w s roles with ⟨e, he⟩ | ⟨hfree, he⟩
    · rw [he]; exact h
    · rw [he]; exact single_insert h hfree
  | save stored forceReason =>
    obtain ⟨g, hg, -, hst, ⟨e, he⟩ | ⟨row, row', r, t, hrow, hc, hb, hc', hs, he⟩⟩ :=
      save_linked env o hl hp
    · simp only [handle]; rw [he]; exact h
    · simp only [handle]
      rw [he]
      refine single_save h hrow (hc'.trans hc.symm) ?_
      intro ht
      rw [hb] at ht
      rw [hs, saveOk_terminal hst ht]
      exact ht
  | setActive backend active =>
    simp only [handle]
    rcases @switchBackend_cases o w backend active with he | ⟨e, he⟩ | ⟨-, e, he⟩ <;> rw [he] <;> exact h
  | _ => exact h

/-- whatever the outside does -/
theorem single_step (h : Single w) (l : Label) : Single (step env w l) := by
  cases l with
  | call op os =>
    obtain ⟨_, hJ, -⟩ := request_inv os (@single_handle env op fun _ => True) trivial (fun _ _ => trivial) h
    exact hJ
  | _ => exact h

/-! ## A tidy store -/

theorem tidy_insert {s : RestartSequence} {roles : List String} {t : List Event} (h : Tidy env w)
    (hfree : hasActive w.rows s.cluster = false) :
    Tidy env { w with rows := w.rows ++ [newRow w.now s roles], trace := t } :=
  ⟨single_insert h.single hfree, h.maps⟩

theorem tidy_save {id : ℕ} {row row' : Row} {t : List Event} (h : Tidy env w) (hrow : w.rows[id]? = some row)
    (hc : row'.cluster = row.cluster) (hst : row.state ∈ terminal → row'.state ∈ terminal) :
    Tidy env { w with rows := w.rows.set id row', trace := t } :=
  ⟨single_save h.single hrow hc hst, h.maps⟩

/-- every permitted effect of a request keeps the store tidy -/
theorem tidy_handle {op : Op} (A : Oracle → Prop) : Preserves env op A fun w _ => Tidy env w := by
  intro o e w σ ho hl h hp
  refine ⟨single_handle A o e w σ ho hl h.single hp, ?_⟩
  cases e with
  | insert s roles =>
    simp only [handle]
    rcases @insertRow_cases env o w s roles with ⟨e, he⟩ | ⟨-, he⟩ <;> rw [he] <;> exact h.maps
  | save stored forceReason =>
    simp only [handle]
    rcases @saveSequence_cases env o w stored forceReason with ⟨e, he⟩ | ⟨row, n, r, forced, -, -, he⟩ <;> rw [he] <;>
      exact h.maps
  | setActive backend active =>
    have hswitch : ∀ s ∈ w.gateway, ∀ p ∈ s.payload, p.backends.map (fun b => (b.name, b.cluster)) =
        mapping env.lower env.clusters (setActive backend active w.backends) := by
      rw [mapping_setActive]
      exact h.maps
    simp only [handle]
    rcases @switchBackend_cases o w backend active with he | ⟨e, he⟩ | ⟨-, e, he⟩ <;> rw [he]
    · exact hswitch
    · exact h.maps
    · exact hswitch
  | _ => exact h.maps

/-- every step keeps the store tidy, but for an outside edit of the Gateway -/
theorem tidy_step (h : Tidy env w) (l : Label) (hl : ∀ backends, l ≠ .editGateway backends) : Tidy env (step env w l) := by
  cases l with
  | call op os =>
    obtain ⟨_, hJ, -⟩ := request_inv os (@tidy_handle env op fun _ => True) trivial (fun _ _ => trivial)
      (h.same rfl rfl rfl)
    exact hJ
  | clock t => exact h.same rfl rfl rfl
  | storeQueries s => exact h.same rfl rfl rfl
  | storeHealth s => exact h.same rfl rfl rfl
  | pollGateway answers =>
    refine ⟨h.single, fun s hs p hp => ?_⟩
    obtain rfl := Option.some.inj hs
    cases answers with
    | false => cases hp
    | true =>
      obtain rfl := Option.some.inj hp
      simp only [joinBackends, mapping, List.map_map]
      rfl
  | editGateway backends => exact absurd rfl (hl backends)

end Backends

end TrinoManagement.Service
