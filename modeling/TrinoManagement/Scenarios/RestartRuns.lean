/-
Starting playbooks, reading their runs and the threads behind them, in any order.

- `Inv`: a run object says where its thread stands, and only the last launch of a sequence can be live or have succeeded.
- `started_once`: nothing that is live, or has succeeded, is launched again; whatever the runners do. `execStart_once`: so the
  executor that the restart sequence asks.
- `restart_lifecycle`: every run ends as its playbook did, exactly if no runner raises. `playbook_stuck` is one that does.
-/
import Mathlib.Tactic
import TrinoManagement.Core.Run
import TrinoManagement.Ops.Ansible

namespace TrinoManagement.Ansible

open TrinoManagement.Run (Meets meets_iff run run_inv run_snoc)

variable {timeoutSeconds : ℚ} {e : Executor}

/-! ## The invariant -/

structure Inv (e : Executor) : Prop where
  sane : ∀ l ∈ e.launches, l.Sane
  current : ∀ id i, e.current id = some i → ∃ l, e.launches[i]? = some l ∧ l.id = id
  superseded : ∀ (i : ℕ) l, e.launches[i]? = some l → e.current l.id ≠ some i →
    (∃ how, l.phase = .ended how) ∧ l.run.state = .failed

theorem inv_init : Inv init where
  sane := by simp [init]
  current := by simp [init]
  superseded := by simp [init]

/-- what a thread does with its run object -/
structure ThreadStep (f : Launch → Launch) : Prop where
  id : ∀ l, (f l).id = l.id
  sane : ∀ l, l.Sane → (f l).Sane
  ended : ∀ l how, l.phase = .ended how → f l = l

theorem threadStep_line (text : String) : ThreadStep (·.line text) :=
  ⟨fun l => l.id_line text, fun _ h => Launch.sane_line h text, fun _ _ h => Launch.ended_line h text⟩

theorem threadStep_ends (how : RunnerEnd) : ThreadStep (·.ends how) :=
  ⟨fun l => l.id_ends how, fun _ h => Launch.sane_ends h how, fun _ _ h => Launch.ended_ends h⟩

theorem threadStep_settle (timeoutSeconds : ℚ) : ThreadStep (·.settle timeoutSeconds) :=
  ⟨fun l => l.id_settle timeoutSeconds, fun _ h => Launch.sane_settle h timeoutSeconds,
    fun _ _ h => Launch.ended_settle h timeoutSeconds⟩

/-- one launch is stepped, the others are as they were -/
theorem on_getElem? (e : Executor) (i : ℕ) (f : Launch → Launch) (j : ℕ) :
    (e.on i f).launches[j]? = e.launches[j]?.map fun l => if i = j then f l else l := by
  rw [Executor.on, List.getElem?_modify]
  split_ifs <;> simp

theorem Inv.on (h : Inv e) {f : Launch → Launch} (hf : ThreadStep f) (i : ℕ) : Inv (e.on i f) where
  sane := by
    intro l hl
    obtain ⟨j, hj⟩ := List.mem_iff_getElem?.1 hl
    rw [on_getElem?] at hj
    obtain ⟨l', hl', rfl⟩ := Option.map_eq_some_iff.1 hj
    have hsane := h.sane l' (List.mem_of_getElem? hl')
    split_ifs
    · exact hf.sane l' hsane
    · exact hsane
  current := by
    intro id j hj
    obtain ⟨l, hl, rfl⟩ := h.current id j hj
    refine ⟨_, by rw [on_getElem?, hl]; rfl, ?_⟩
    split_ifs
    · exact hf.id l
    · rfl
  superseded := by
    intro j l hl hne
    rw [on_getElem?] at hl
    obtain ⟨l', hl', rfl⟩ := Option.map_eq_some_iff.1 hl
    have hsame : (if i = j then f l' else l') = l' := by
      split_ifs with hij
      · have hid : e.current l'.id ≠ some j := by simpa [hij, hf.id, Executor.on] using hne
        obtain ⟨⟨how, hended⟩, -⟩ := h.superseded j l' hl' hid
        exact hf.ended l' how hended
      · rfl
    rw [hsame] at hne ⊢
    exact h.superseded j l' hl' hne

/-- the run of a sequence is that of its current launch -/
theorem Inv.runs_some (h : Inv e) {id : ℕ} {r : Service.PlaybookRun} (hr : e.runs id = some r) :
    ∃ i l, e.current id = some i ∧ e.launches[i]? = some l ∧ l.id = id ∧ l.run = r := by
  obtain ⟨i, hi, hrun⟩ := Option.bind_eq_some_iff.1 hr
  obtain ⟨l, hl, rfl⟩ := Option.map_eq_some_iff.1 hrun
  obtain ⟨l', hl', hid⟩ := h.current id i hi
  obtain rfl := Option.some.inj (hl.symm.trans hl')
  exact ⟨i, l, hi, hl, hid, rfl⟩

theorem Inv.runs_none (h : Inv e) {id : ℕ} (hr : e.runs id = none) : e.current id = none := by
  cases hi : e.current id with
  | none => rfl
  | some i =>
    obtain ⟨l, hl, -⟩ := h.current id i hi
    simp [Executor.runs, hi, hl] at hr

/-- a launch that is neither live nor a success may be followed by another -/
theorem Inv.launch (h : Inv e) {id : ℕ} (hfree : ∀ i l, e.current id = some i → e.launches[i]? = some l →
    (∃ how, l.phase = .ended how) ∧ l.run.state = .failed) : Inv (e.launch id) where
  sane := by
    intro l hl
    rcases List.mem_append.1 hl with hl | hl
    · exact h.sane l hl
    · obtain rfl := List.mem_singleton.1 hl
      rfl
  current := by
    intro id' i hi
    by_cases hid : id' = id
    · subst hid
      have hlast : i = e.launches.length := by simpa [Executor.launch, eq_comm] using hi
      exact ⟨⟨id', .launched, .live⟩, by simp [Executor.launch, hlast], rfl⟩
    · simp only [Executor.launch, Function.update_of_ne hid] at hi ⊢
      obtain ⟨l, hl, hl'⟩ := h.current id' i hi
      exact ⟨l, by rw [List.getElem?_append_left (List.getElem?_eq_some_iff.1 hl).1, hl], hl'⟩
  superseded := by
    intro i l hl hne
    simp only [Executor.launch] at hl hne
    by_cases hlt : i < e.launches.length
    · rw [List.getElem?_append_left hlt] at hl
      by_cases hid : l.id = id
      · by_cases hcurrent : e.current id = some i
        · exact hfree i l hcurrent hl
        · exact h.superseded i l hl (hid ▸ hcurrent)
      · rw [Function.update_of_ne hid] at hne
        exact h.superseded i l hl hne
    · rw [List.getElem?_append_right (not_lt.1 hlt)] at hl
      have hzero : i - e.launches.length = 0 := by
        by_contra hpos
        rw [List.getElem?_eq_none (by simpa using Nat.one_le_iff_ne_zero.2 hpos)] at hl
        cases hl
      rw [hzero] at hl
      obtain rfl := Option.some.inj hl
      have hlast : i = e.launches.length := by omega
      simp [hlast] at hne

theorem Inv.start (h : Inv e) (id : ℕ) : Inv (e.start id).2 := by
  unfold Executor.start
  cases hr : e.runs id with
  | none =>
    refine h.launch fun i l hi _ => ?_
    rw [h.runs_none hr] at hi
    cases hi
  | some r =>
    dsimp only
    split_ifs with hbusy
    · exact h
    · refine h.launch fun i l hi hl => ?_
      obtain ⟨i', l', hi', hl', -, rfl⟩ := h.runs_some hr
      obtain rfl := Option.some.inj (hi.symm.trans hi')
      obtain rfl := Option.some.inj (hl.symm.trans hl')
      exact (h.sane l (List.mem_of_getElem? hl)).failed hbusy

theorem inv_step (h : Inv e) (ev : Event) : Inv (step timeoutSeconds e ev) := by
  cases ev with
  | start id refused =>
    cases refused with
    | true => exact h
    | false => exact h.start id
  | status id => exact h
  | linesSince id index => exact h
  | line i text => exact h.on (threadStep_line text) i
  | ends i how => exact h.on (threadStep_ends how) i
  | settles i => exact h.on (threadStep_settle timeoutSeconds) i

theorem inv_run (es : List Event) : Inv (run (step timeoutSeconds) init es) :=
  run_inv Inv (fun _ ev hs _ => inv_step hs ev) (Run.meets_of_forall (p := fun _ => True) fun _ _ => trivial) inv_init

/-! ## Launched once -/

/-- the playbook of the sequence is live or has succeeded -/
def Busy (e : Executor) (id : ℕ) : Prop :=
  ∃ l ∈ e.launches, l.id = id ∧ ((∀ how, l.phase ≠ .ended how) ∨ l.run.state = .succeeded)

/-- **Launched once**: `start` leaves what is live or has succeeded alone. -/
theorem started_once (h : Inv e) {id : ℕ} (hbusy : Busy e id) : (e.start id).2 = e := by
  obtain ⟨l, hl, rfl, hstands⟩ := hbusy
  obtain ⟨i, hi⟩ := List.mem_iff_getElem?.1 hl
  have hcurrent : e.current l.id = some i := by
    by_contra hne
    obtain ⟨⟨how, hended⟩, hfailed⟩ := h.superseded i l hi hne
    rcases hstands with hlive | hsucceeded
    · exact hlive how hended
    · rw [hfailed] at hsucceeded
      cases hsucceeded
  have hruns : e.runs l.id = some l.run := by simp [Executor.runs, hcurrent, hi]
  have hstate : l.run.state = .running ∨ l.run.state = .succeeded := by
    rcases hstands with hlive | hsucceeded
    · exact .inl ((h.sane l hl).busy hlive)
    · exact .inr hsucceeded
  unfold Executor.start
  simp only [hruns, if_pos hstate]

/-- **The executor of the sequences**, asked over the runs of any events, leaves them alone too. -/
theorem execStart_once {es : List Event} {id : ℕ} (hbusy : Busy (run (step timeoutSeconds) init es) id) :
    (Service.execStart (run (step timeoutSeconds) init es).runs id).2 = (run (step timeoutSeconds) init es).runs := by
  have hinv := @inv_run timeoutSeconds es
  have hcurrent : ∀ id i, (run (step timeoutSeconds) init es).current id = some i →
      i < (run (step timeoutSeconds) init es).launches.length := by
    intro id i hi
    obtain ⟨l, hl, -⟩ := hinv.current id i hi
    exact (List.getElem?_eq_some_iff.1 hl).1
  rw [← runs_start _ id hcurrent, started_once hinv hbusy]

/-! ## How every run ends -/

/-- once its thread is over, a run is not RUNNING, and SUCCEEDED exactly if its runner returned exit code 0 in time -/
def Settled (e : Executor) : Prop :=
  ∀ l ∈ e.launches, ∀ how, l.phase = .ended how → l.run.state ≠ .running ∧
    (l.run.state = .succeeded ↔ ∃ result, how = .returned result ∧ Success result)

/-- settled in every state, and nothing launched again that is live or has succeeded -/
structure Lifecycle (timeoutSeconds : ℚ) (es : List Event) : Prop where
  settled : ∀ before after, es = before ++ after → Settled (run (step timeoutSeconds) init before)
  once : ∀ before id refused after, es = before ++ .start id refused :: after →
    Busy (run (step timeoutSeconds) init before) id →
      (run (step timeoutSeconds) init (before ++ [.start id refused])).launches =
        (run (step timeoutSeconds) init before).launches

/-- no thread is ended by an exception -/
def Returns (e : Executor) : Event → Prop
  | .ends i (.raised _) => ∀ l, e.launches[i]? = some l → l.phase ≠ .live
  | _ => True

/-- no thread was ended by an exception so far -/
def Unraised (e : Executor) : Prop := ∀ l ∈ e.launches, ∀ err, l.phase ≠ .ended (.raised err)

theorem Unraised.on (h : Unraised e) {f : Launch → Launch} {i : ℕ}
    (hf : ∀ l, e.launches[i]? = some l → (∀ err, l.phase ≠ .ended (.raised err)) → ∀ err, (f l).phase ≠ .ended (.raised err)) :
    Unraised (e.on i f) := by
  intro l hl err
  obtain ⟨j, hj⟩ := List.mem_iff_getElem?.1 hl
  rw [on_getElem?] at hj
  obtain ⟨l', hl', rfl⟩ := Option.map_eq_some_iff.1 hj
  have hunraised := h l' (List.mem_of_getElem? hl')
  split_ifs with hij
  · subst hij
    exact hf l' hl' hunraised err
  · exact hunraised err

theorem unraised_step (h : Unraised e) {ev : Event} (hev : Returns e ev) : Unraised (step timeoutSeconds e ev) := by
  cases ev with
  | start id refused =>
    cases refused with
    | true => exact h
    | false =>
      have hlaunch : Unraised (e.launch id) := by
        intro l hl err
        rcases List.mem_append.1 hl with hl | hl
        · exact h l hl err
        · obtain rfl := List.mem_singleton.1 hl
          nofun
      change Unraised (e.start id).2
      unfold Executor.start
      cases e.runs id with
      | none => exact hlaunch
      | some r =>
        dsimp only
        split_ifs
        · exact h
        · exact hlaunch
  | status id => exact h
  | linesSince id index => exact h
  | line i text =>
    refine h.on fun l _ hl => ?_
    unfold Launch.line
    split
    · exact hl
    · exact hl
    · exact hl
  | ends i how =>
    refine h.on fun l hi hl => ?_
    obtain ⟨id, r, phase⟩ := l
    cases phase with
    | live =>
      cases how with
      | returned result => nofun
      | raised err => exact absurd rfl (hev _ hi)
    | returned result => exact hl
    | ended how => exact hl
  | settles i =>
    refine h.on fun l _ hl => ?_
    obtain ⟨id, r, phase⟩ := l
    cases phase with
    | live => exact hl
    | returned result => nofun
    | ended how => exact hl

theorem settled_of_unraised (h : Inv e) (hunraised : Unraised e) : Settled e := by
  intro l hl how hended
  have hsane := h.sane l hl
  cases how with
  | raised err => exact absurd hended (hunraised l hl err)
  | returned result =>
    have hstate : l.run.state = if Success result then .succeeded else .failed := by simpa [Launch.Sane, hended] using hsane
    rw [hstate]
    by_cases hsuccess : Success result
    · simp [hsuccess]
    · simp [hsuccess]

/-- **Restart executor lifecycle.** In every state of a run of events, each run whose thread is over is settled, and nothing
live or done is launched again, exactly if no runner raises. -/
theorem restart_lifecycle (timeoutSeconds : ℚ) (es : List Event) :
    Lifecycle timeoutSeconds es ↔ Meets (step timeoutSeconds) Returns init es := by
  constructor
  · intro h
    refine meets_iff.2 fun before ev after hes => ?_
    by_contra hraises
    -- the thread is over, and its run says RUNNING
    have hsettled := h.settled (before ++ [ev]) after (by simp [hes])
    have hinv := @inv_run timeoutSeconds before
    rw [run_snoc] at hsettled
    cases ev with
    | ends i how =>
      cases how with
      | returned result => exact hraises trivial
      | raised err =>
        simp only [Returns, not_forall, not_not] at hraises
        obtain ⟨l, hl, hlive⟩ := hraises
        have hrunning : l.run.state = .running :=
          (hinv.sane l (List.mem_of_getElem? hl)).busy (by simp [hlive])
        have hstuck : (l.ends (.raised err)) ∈
            (step timeoutSeconds (run (step timeoutSeconds) init before) (.ends i (.raised err))).launches := by
          refine List.mem_of_getElem? (i := i) ?_
          change ((run (step timeoutSeconds) init before).on i _).launches[i]? = _
          rw [on_getElem?, hl]
          simp
        have hends : l.ends (.raised err) = { l with phase := .ended (.raised err) } := by simp [Launch.ends, hlive]
        rw [hends] at hstuck
        exact (hsettled _ hstuck _ rfl).1 hrunning
    | start id refused => exact hraises trivial
    | status id => exact hraises trivial
    | linesSince id index => exact hraises trivial
    | line i text => exact hraises trivial
    | settles i => exact hraises trivial
  · intro h
    refine ⟨fun before after hes => ?_, fun before id refused after hes hbusy => ?_⟩
    · subst hes
      have hunraised : Unraised (run (step timeoutSeconds) init before) :=
        run_inv Unraised (fun _ _ hs hev => unraised_step hs hev) (Run.meets_append.1 h).1 (by simp [init, Unraised])
      exact settled_of_unraised (inv_run before) hunraised
    · rw [run_snoc]
      cases refused with
      | true => rfl
      | false => exact congrArg Executor.launches (started_once (inv_run before) hbusy)

/-- a playbook prints a byte that is no UTF-8 -/
def undecodable : Process where
  spawn := .started
  stdout := [.ok "PLAY [coordinator]\n", .error ⟨"UnicodeDecodeError", "invalid start byte"⟩]
  returncode := 0
  expired := false

/-- the thread dies, the run stays RUNNING, and no other is launched -/
def stuck : List Event :=
  [.start 7 false, .line 0 "PLAY [coordinator]", .ends 0 (streamCommand id undecodable).2, .status 7, .start 7 false]

theorem playbook_stuck :
    (run (step 600) init stuck).launches =
        [⟨7, ⟨.running, ["PLAY [coordinator]"], none⟩, .ended (.raised ⟨"UnicodeDecodeError", "invalid start byte"⟩)⟩] ∧
      (run (step 600) init stuck).status 7 = .running ∧ ¬Lifecycle 600 stuck := by
  have hlaunches : (run (step 600) init stuck).launches =
      [⟨7, ⟨.running, ["PLAY [coordinator]"], none⟩, .ended (.raised ⟨"UnicodeDecodeError", "invalid start byte"⟩)⟩] := by
    decide +kernel
  refine ⟨hlaunches, by decide +kernel, fun h => ?_⟩
  have hsettled := h.settled stuck [] (by simp)
  exact (hsettled _ (by rw [hlaunches]; exact List.mem_singleton_self _) _ rfl).1 rfl

end TrinoManagement.Ansible
