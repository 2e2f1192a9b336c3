/-
Requests side by side: any number of callers, interleaved at the effects of each request.

Every request loads its sequence, works on the copy, and writes the copy back; nothing in an UPDATE says which state it
was loaded in.

- `concurrent`: the service as a system of threads, one a request.
- `no_lost_update`: over every interleaving in which no request saves, or starts the executor, after another one has
  changed the stored state since it last loaded or saved it, the stored states of a sequence follow the state machine
  and closing one is final.
- `lost_update`: a refresh that loaded its sequence before it was aborted writes DRAINED over ABORTED, and the executor
  is started after all.
-/
import Mathlib.Tactic
import TrinoManagement.Core.Pool
import TrinoManagement.Scenarios.Evidence

namespace TrinoManagement.Service

open TrinoManagement.Collector TrinoManagement.Repository TrinoManagement.Sequence
open TrinoManagement.Run (Meets run)

/-- the service under concurrent callers; a request is a thread, so the outside makes none -/
def concurrent (env : Env) : Pool.System Op Act Act.Answer Exn View Oracle Label World Ghost where
  program op := op.prog env.toConfig
  protocol := contract
  fresh := ⟨none, false⟩
  handle := handle env
  spawned op w := w.called op
  outside l w :=
    match l with
    | .call .. => w
    | l => step env w l

abbrev Moves := List (Pool.Move Op Oracle Label)

/-- the end of an interleaving from an empty store -/
def interleave (env : Env) (now : ℚ) (backends : List Backend) (moves : Moves) : World :=
  (run (Pool.step (concurrent env)) ⟨World.init now backends, []⟩ moves).shared

/-! ## What is stored, one state after another -/

/-- the state a sequence was last stored in -/
def lastStored (id : ℕ) : List Event → Option State
  | [] => none
  | .created i _ :: past => if i = id then some .pending else lastStored id past
  | .saved i st _ _ _ :: past => if i = id then some st else lastStored id past
  | _ :: past => lastStored id past

/-- the terminal state and the finishing time an event stores for a sequence -/
def closedAs (id : ℕ) : Event → Option (State × Option ℚ)
  | .saved i st f _ _ => if i = id ∧ st ∈ terminal then some (st, f) else none
  | _ => none

/-- a save stores the state stored before, or one that transitions lead to from there -/
def MovesOn (past : List Event) : Event → Prop
  | .saved id st _ _ _ => ∀ prev ∈ lastStored id past, Reach prev st
  | _ => True

/-- a sequence is closed with a finishing time; after that nothing else is stored of it, and the executor is not started
for it -/
def Final (past : List Event) : Event → Prop
  | .saved id st f _ _ => (st ∈ terminal → f.isSome) ∧ ∀ e ∈ past, ∀ c ∈ closedAs id e, c = (st, f)
  | .launched _ id _ => ∀ e ∈ past, closedAs id e = none
  | _ => True

instance (past : List Event) (e : Event) : Decidable (Final past e) := by
  unfold Final
  split <;> infer_instance

/-- no update is lost -/
def NoLostUpdate (w : World) : Prop := Obeys MovesOn w.trace ∧ Obeys Final w.trace

theorem NoLostUpdate.final {w : World} (h : NoLostUpdate w) : Obeys Final w.trace := h.2

/-! ## The condition -/

/-- the stored state is the one the request last loaded or saved -/
def Current (w : World) (σ : Ghost) : Prop := ∀ g ∈ σ.grip, ∀ row ∈ w.rows[g.id]?, row.state = g.base

instance (w : World) (σ : Ghost) : Decidable (Current w σ) := by unfold Current; infer_instance

/-- the condition on an effect: no other request has changed the state under a request that saves or starts the
executor -/
def Unraced (_ : Op) (w : World) (σ : Ghost) : Act → Prop
  | .save .. | .execStart .. => Current w σ
  | _ => True

instance (op : Op) (w : World) (σ : Ghost) (e : Act) : Decidable (Unraced op w σ e) := by
  unfold Unraced
  split <;> infer_instance

/-! ## One effect -/

/-- the record says what is stored, and closing was final so far -/
structure Chronicle (w : World) : Prop where
  latest : ∀ (id : ℕ) (row : Row), w.rows[id]? = some row → lastStored id w.trace = some row.state
  closed : ∀ (id : ℕ) (row : Row), w.rows[id]? = some row → row.state ∈ terminal → row.finishedAt.isSome
  final : ∀ (id : ℕ), ∀ e ∈ w.trace, ∀ c ∈ closedAs id e, ∃ row, w.rows[id]? = some row ∧ c = (row.state, row.finishedAt)
  noLostUpdate : NoLostUpdate w

section Effects

variable {env : Env} {op : Op} {w w' : World} {σ : Ghost} {o : Oracle}

theorem closedAs_terminal {id : ℕ} {e : Event} {c : State × Option ℚ} (h : c ∈ closedAs id e) : c.1 ∈ terminal := by
  cases e with
  | saved i st f forced t =>
    simp only [closedAs] at h
    split_ifs at h with hc
    · obtain rfl := Option.some.inj h
      exact hc.2
    · cases h
  | _ => cases h

/-- an event that stores nothing -/
theorem Chronicle.event {e : Event} (h : Chronicle w) (hrows : w'.rows = w.rows) (ht : w'.trace = e :: w.trace)
    (hlast : ∀ id, lastStored id (e :: w.trace) = lastStored id w.trace) (hclosed : ∀ id, closedAs id e = none)
    (hmoves : MovesOn w.trace e) (hfinal : Final w.trace e) : Chronicle w' := by
  refine ⟨fun id row hr => ?_, fun id row hr => ?_, fun id e' he' c hc => ?_, ?_⟩
  · rw [hrows] at hr
    rw [ht, hlast]
    exact h.latest id row hr
  · rw [hrows] at hr
    exact h.closed id row hr
  · rw [ht] at he'
    rw [hrows]
    rcases List.mem_cons.1 he' with rfl | he'
    · rw [hclosed] at hc; cases hc
    · exact h.final id e' he' c hc
  · rw [NoLostUpdate, ht]
    exact ⟨⟨hmoves, h.noLostUpdate.1⟩, hfinal, h.noLostUpdate.2⟩

theorem Chronicle.same (h : Chronicle w) (hrows : w'.rows = w.rows) (ht : w'.trace = w.trace) : Chronicle w' :=
  ⟨by rw [hrows, ht]; exact h.latest, by rw [hrows]; exact h.closed, by rw [hrows, ht]; exact h.final,
    by rw [NoLostUpdate, ht]; exact h.noLostUpdate⟩

theorem chronicle_insert {s : RestartSequence} {roles : List String} (h : Chronicle w) (hs : s.state = .pending) :
    Chronicle { w with rows := w.rows ++ [newRow w.now s roles]
                       trace := .created w.rows.length s.cluster :: w.trace } := by
  have bound : ∀ (id : ℕ) (row : Row), w.rows[id]? = some row → w.rows.length ≠ id := fun id row hr => by
    obtain ⟨hlt, -⟩ := List.getElem?_eq_some_iff.1 hr
    omega
  refine ⟨fun id row hr => ?_, fun id row hr hst => ?_, fun id e he c hc => ?_, ⟨trivial, h.noLostUpdate.1⟩, trivial,
    h.noLostUpdate.2⟩
  · rcases getElem?_inserted hr with hr | ⟨rfl, rfl⟩
    · simp only [lastStored, if_neg (bound id row hr)]
      exact h.latest id row hr
    · simp [lastStored, newRow, hs]
  · rcases getElem?_inserted hr with hr | ⟨rfl, rfl⟩
    · exact h.closed id row hr hst
    · simp [newRow, hs, terminal] at hst
  · rcases List.mem_cons.1 he with rfl | he
    · cases hc
    · obtain ⟨row, hr, hc⟩ := h.final id e he c hc
      obtain ⟨hlt, -⟩ := List.getElem?_eq_some_iff.1 hr
      exact ⟨row, by rw [List.getElem?_append_left hlt]; exact hr, hc⟩

/-- a save over the state it was made from -/
theorem chronicle_save {id : ℕ} {row : Row} (row' : Row) {forced : Bool} {t : ℚ} (h : Chronicle w) (hrow : w.rows[id]? = some row)
    (hreach : Reach row.state row'.state) (hfinish : row'.state ∈ terminal → row'.finishedAt.isSome)
    (hkept : row.state ∈ terminal → row'.finishedAt = row.finishedAt) :
    Chronicle { w with rows := w.rows.set id row'
                       trace := .saved id row'.state row'.finishedAt forced t :: w.trace } := by
  -- what was stored when the sequence was closed is stored now
  have kept : ∀ e ∈ w.trace, ∀ c ∈ closedAs id e, c = (row'.state, row'.finishedAt) := fun e he c hc => by
    obtain ⟨row₀, hrow₀, hc'⟩ := h.final id e he c hc
    obtain rfl : row = row₀ := Option.some.inj (hrow.symm.trans hrow₀)
    have hterm : row.state ∈ terminal := by simpa [hc'] using closedAs_terminal hc
    rw [hc', hkept hterm, hreach.of_terminal hterm]
  refine ⟨fun i r hr => ?_, fun i r hr hst => ?_, fun i e he c hc => ?_, ⟨?_, h.noLostUpdate.1⟩, ⟨hfinish, kept⟩,
    h.noLostUpdate.2⟩
  · rcases getElem?_set_cases hrow hr with ⟨rfl, rfl⟩ | ⟨hne, hr⟩
    · simp [lastStored]
    · simp only [lastStored, if_neg (Ne.symm hne)]
      exact h.latest i r hr
  · rcases getElem?_set_cases hrow hr with ⟨rfl, rfl⟩ | ⟨-, hr⟩
    · exact hfinish hst
    · exact h.closed i r hr hst
  · by_cases hi : i = id
    · subst hi
      refine ⟨row', getElem?_written hrow, ?_⟩
      rcases List.mem_cons.1 he with rfl | he
      · simp only [closedAs, true_and] at hc
        split_ifs at hc
        · exact (Option.some.inj hc).symm
        · cases hc
      · exact kept e he c hc
    · rcases List.mem_cons.1 he with rfl | he
      · simp [closedAs, Ne.symm hi] at hc
      · obtain ⟨r, hr, hc⟩ := h.final i e he c hc
        exact ⟨r, by simp only [List.getElem?_set_ne (Ne.symm hi)]; exact hr, hc⟩
  · intro prev hprev
    rw [h.latest id row hrow] at hprev
    obtain rfl := Option.some.inj hprev
    exact hreach

/-- every permitted effect that is not raced keeps the chronicle -/
theorem chronicle_handle {e : Act} (h : Chronicle w) (hp : Permits op σ e) (hc : Unraced op w σ e) :
    Chronicle (handle env o e w).2 := by
  cases e with
  | insert s roles =>
    simp only [handle]
    rcases @insertRow_cases env o w s roles with ⟨e, he⟩ | ⟨-, he⟩
    · rw [he]; exact h
    · rw [he]; exact chronicle_insert h hp.2.2
  | save stored forceReason =>
    obtain ⟨g, hg, hid, -, hst, -⟩ := hp
    simp only [handle]
    rcases @saveSequence_cases env o w stored forceReason with ⟨e, he⟩ | ⟨row, n, r, forced, hrow, -, he⟩
    · rw [he]; exact h
    · rw [he]
      have hbase : row.state = g.base := hc g hg row (hid ▸ hrow)
      refine chronicle_save (row.written env.storage w.now stored forceReason n) h hrow
        (hbase ▸ reach_of_saveOk hst) (fun hterm => ?_) fun hterm => ?_
      · change stored.sequence.state ∈ terminal at hterm
        change (env.storage.finish w.now stored.sequence.state row.finishedAt).isSome
        rw [finish_of_terminal hterm]
        cases row.finishedAt <;> rfl
      · have hsame := saveOk_terminal hst (hbase ▸ hterm)
        obtain ⟨f, hf⟩ := Option.isSome_iff_exists.1 (h.closed _ row hrow hterm)
        change env.storage.finish w.now stored.sequence.state row.finishedAt = row.finishedAt
        rw [finish_of_terminal (by rw [hsame, ← hbase]; exact hterm), hf]
        rfl
  | setActive backend active =>
    have switched : Chronicle (w.switch backend active) :=
      h.event rfl rfl (fun _ => rfl) (fun _ => rfl) trivial trivial
    simp only [handle]
    rcases @switchBackend_cases o w backend active with he | ⟨e, he⟩ | ⟨-, e, he⟩
    · rw [he]; exact switched
    · rw [he]; exact h
    · rw [he]; exact switched
  | execStart cluster id =>
    obtain ⟨g, hg, -, hid, -, -, -, hbase, -⟩ := hp
    subst hid
    refine h.event rfl rfl (fun _ => rfl) (fun _ => rfl) trivial ?_
    intro e he
    cases hclosed : closedAs g.id e with
    | none => rfl
    | some c =>
      -- the stored state is one the executor is started from, so nothing was closed
      obtain ⟨row, hrow, rfl⟩ := h.final g.id e he c hclosed
      have hterm := closedAs_terminal hclosed
      rw [hc g hg row hrow] at hterm
      simp only [List.mem_cons, List.not_mem_nil, or_false] at hbase
      rcases hbase with hb | hb <;> simp [hb, terminal] at hterm
  | auditWrite record => exact h.same rfl rfl
  | _ => exact h

end Effects

/-! ## Every interleaving -/

theorem chronicle_outside {env : Env} {w : World} (l : Label) (h : Chronicle w) :
    Chronicle ((concurrent env).outside l w) := by
  cases l with
  | storeQueries s => exact h.event rfl rfl (fun _ => rfl) (fun _ => rfl) trivial trivial
  | storeHealth s => exact h.event rfl rfl (fun _ => rfl) (fun _ => rfl) trivial trivial
  | call op os => exact h
  | _ => exact h.same rfl rfl

/-- **No lost update.** In every interleaving of any number of requests none of which is raced, each state stored of a
sequence is equal to the one stored before or joined to it by transitions of the state machine; once COMPLETED or ABORTED
is stored the state never changes again, its finishing time stays, and the executor is not started for the sequence. -/
theorem no_lost_update (env : Env) (now : ℚ) (backends : List Backend) (moves : Moves)
    (h : Meets (Pool.step (concurrent env)) (Pool.Fits Unraced) ⟨World.init now backends, []⟩ moves) :
    NoLostUpdate (interleave env now backends moves) := by
  have hprog : ∀ op, Prog.wp (Prog.protocol (contract op)) (op.prog env.toConfig) (fun _ _ => True) ⟨none, false⟩ :=
    fun op => Prog.wp_mono Prog.protocol_mono (fun _ _ _ => trivial) (conforms env.toConfig op)
  refine (Pool.pool_inv (concurrent env) Chronicle hprog (fun op w hw => ?_) (fun l w hw => chronicle_outside l hw)
    (fun op o e w σ hw hp hc => chronicle_handle hw hp hc) h (fun _ hth => (by cases hth)) ?_).noLostUpdate
  · exact hw.event rfl rfl (fun _ => rfl) (fun _ => rfl) trivial trivial
  · exact ⟨fun _ _ hr => (by cases hr), fun _ _ hr => (by cases hr), fun _ _ he => (by cases he), trivial, trivial⟩

attribute [irreducible] NoLostUpdate

/-- the next `n` effects of the thread at `i`, the outside serving -/
def acts (i n : ℕ) : Moves := List.replicate n (.act i .serves)

/-- a start, then a refresh and an abort of the same sequence, both begun; the cluster is empty by now -/
def begun : Moves :=
  [.outside (.pollGateway true), .spawn (.start Sample.admin "prod-a" "upgrade")] ++ acts 0 30 ++
    [.outside (.storeQueries (Sample.queries 5 0 0)), .spawn (.refresh 0), .spawn (.abort Sample.admin 0 "")]

/-- the refresh saves before the abort loads -/
def unraced : Moves := begun ++ acts 1 5 ++ acts 2 3 ++ acts 1 1 ++ acts 2 30

theorem meets_unraced :
    Meets (Pool.step (concurrent Sample.env)) (Pool.Fits Unraced) ⟨World.init 0 [Sample.backend], []⟩ unraced := by
  decide +kernel

theorem no_lost_update_unraced :
    NoLostUpdate (interleave Sample.env 0 [Sample.backend] unraced) ∧
    (interleave Sample.env 0 [Sample.backend] unraced).rows.map (·.state) = [.aborted] :=
  ⟨no_lost_update Sample.env 0 [Sample.backend] unraced meets_unraced, by decide +kernel⟩

/-- the refresh loads before the abort and saves after it; then a restart is requested -/
def raced : Moves :=
  begun ++ acts 1 4 ++ acts 2 30 ++ acts 1 2 ++ [.spawn (.restart Sample.admin 0)] ++ acts 3 30

theorem not_final_raced : ¬ Obeys Final (interleave Sample.env 0 [Sample.backend] raced).trace := by
  decide +kernel

/-- **An update is lost.** DRAINED is stored after ABORTED, the finishing time is gone, and the executor is started. -/
theorem lost_update : ¬ NoLostUpdate (interleave Sample.env 0 [Sample.backend] raced) :=
  mt NoLostUpdate.final not_final_raced

end TrinoManagement.Service
