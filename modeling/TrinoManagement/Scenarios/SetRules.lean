/-
Query sets under any edits: what the limit, the names and the allowlist of statements come to over every sequence of
requests, whatever the stores do.

Whether a save adds a query is decided twice. The service takes every name but the original one for an addition; the store
adds when the original name is not there.
- `RulesHold`: the rules, on every set. `SpuriousLimit`: an edit of a query that is there, refused because of the limit.
- `set_rules`: both are right in every run whose saves stay clear of the two cases the service takes for the other one.
- `full_set_misjudged`: at the limit a rename is refused, and an edit of a query that is gone adds one more.
-/
import Mathlib.Tactic
import TrinoManagement.Bench.Service
import TrinoManagement.Core.Run

namespace TrinoManagement.Bench

open TrinoManagement.Audit TrinoManagement.Guard
open TrinoManagement.Prog (onOk)
open TrinoManagement.Run (Meets run run_append run_cons run_nil)
open TrinoManagement.Service (Exn)
open TrinoManagement.Text (strip)

/-! ## Requests -/

/-- the edits of `BenchmarkService`; the statement of a save is as it was typed -/
inductive SetTask where
  | saveSet (key title description : String)
  | createSet (key title description name : String) (statement : List Char)
  | deleteSet (key : String)
  | saveQuery (key : String) (q : Save)
  | deleteQuery (key name : String)
deriving DecidableEq, Repr

/-- who asks for what, and the weather of each of its effects -/
structure SetRequest where
  principal : Principal
  reason : Option String
  task : SetTask
  weather : List (Oracle Weather)

section Requests

variable (lib : Lib) (b : Backend)

def SetRequest.program (r : SetRequest) : BenchM Unit :=
  match r.task with
  | .saveSet key title description => saveSet lib r.principal key title description r.reason
  | .createSet key title description name statement =>
    createSet lib r.principal key title description name statement r.reason
  | .deleteSet key => deleteSet lib r.principal key r.reason
  | .saveQuery key q => saveQuery lib r.principal key q.name q.title q.sql r.reason q.position q.originalName
  | .deleteQuery key name => deleteQuery lib r.principal key name r.reason

def answer (site : Site BenchWorld) (r : SetRequest) : Except Exn Unit :=
  (Prog.run (handle (serve b)) r.weather (r.program lib) site).1

def edit (site : Site BenchWorld) (r : SetRequest) : Site BenchWorld :=
  (Prog.run (handle (serve b)) r.weather (r.program lib) site).2

/-! ## The rules -/

/-- the rules for one set -/
structure SetRules (found : QuerySet) : Prop where
  limit : found.queries.length ≤ maxQueries
  distinct : (namesOf found.queries).Nodup
  statements : ∀ q ∈ found.queries, refuseStatement lib.beyond lib.repr q.sql = none

def RulesHold (sets : Sets) : Prop := ∀ p ∈ sets, SetRules lib p.2

/-- the save is of a query of the set, so it leaves their number as it is -/
def Edits (found : QuerySet) (q : Save) : Prop := ∃ original ∈ q.original, original ∈ namesOf found.queries

/-- an edit or a rename that is refused because of the limit -/
def SpuriousLimit (site : Site BenchWorld) (r : SetRequest) : Prop :=
  match r.task with
  | .saveQuery key q => (∃ found, site.service.sets.lookup key = some found ∧ Edits found q) ∧
      answer lib b site r = .error (.invalidRequest (limitMessage lib key))
  | _ => False

/-- the checks before the limit -/
def Acceptable (principal : Principal) (q : Save) : Prop :=
  principal.can manageHealth = true ∧ refuseName lib.repr q.name "query name" = none ∧
    refuseStatement lib.beyond lib.repr (cleanStatement q.sql) = none

/-- at the limit, the service and the store agree on whether the save adds a query -/
def Clear (principal : Principal) (sets : Sets) (key : String) (q : Save) : Prop :=
  ∀ found, sets.lookup key = some found → maxQueries ≤ found.queries.length → Acceptable lib principal q →
    (Edits found q ↔ q.originalName = some q.name)

/-- what a request must stay clear of -/
def KeepsToLimit (site : Site BenchWorld) (r : SetRequest) : Prop :=
  match r.task with
  | .saveQuery key q => Clear lib r.principal site.service.sets key q
  | _ => True

end Requests

/-! ## Messages -/

/-- the last two characters, by which the message of the limit differs from every other one -/
def ending (message : String) : List Char := message.toList.reverse.take 2

theorem ending_append (a b : String) (h : 2 ≤ b.toList.length) : ending (a ++ b) = ending b := by
  have hlen : 2 ≤ b.toList.reverse.length := by rwa [List.length_reverse]
  rw [ending, String.toList_append, List.reverse_append, List.take_append_of_le_length hlen, ending]

section Messages

variable (lib : Lib) (key : String)

/-- the refusal this scenario is about -/
def atLimit : Exn := .invalidRequest (limitMessage lib key)

theorem ending_limit : ending (limitMessage lib key) = ['.', 'e'] := by
  rw [limitMessage, ending_append _ _ (by decide)]
  decide

variable {lib key}

theorem ne_atLimit {message : String} (h : ending message ≠ ['.', 'e']) : Exn.invalidRequest message ≠ atLimit lib key := by
  intro heq
  rw [Exn.invalidRequest.inj heq, ending_limit] at h
  exact h rfl

theorem name_ne_atLimit {repr : String → String} {name what refusal : String} (h : refuseName repr name what = some refusal) :
    Exn.invalidRequest refusal ≠ atLimit lib key := by
  unfold refuseName at h
  split_ifs at h
  obtain rfl := Option.some.inj h
  refine ne_atLimit ?_
  rw [ending_append _ _ (by decide)]
  decide

/-- a refusal, with the words around it -/
theorem statement_ne_atLimit {beyond : Char → List Char} {repr : String → String} {sql : List Char} {refusal : String}
    (h : refuseStatement beyond repr sql = some refusal) :
    Exn.invalidRequest ("That statement cannot be benchmarked: " ++ refusal ++ ".") ≠ atLimit lib key := by
  have hends : ∀ start rest : String, 2 ≤ (rest ++ ".").toList.length → refusal = start ++ rest →
      ending ("That statement cannot be benchmarked: " ++ refusal ++ ".") = ending (rest ++ ".") := by
    intro start rest hlen hrefusal
    rw [hrefusal, ← String.append_assoc, String.append_assoc, ending_append _ _ hlen]
  refine ne_atLimit ?_
  unfold refuseStatement at h
  dsimp only at h
  split_ifs at h
  · rw [hends "" "the statement is empty" (by decide) (Option.some.inj h).symm]
    decide
  · rw [hends _ " characters" (by decide) (Option.some.inj h).symm]
    decide
  · rw [hends "" "more than one statement; a benchmark query must be a single statement" (by decide)
      (Option.some.inj h).symm]
    decide
  · rw [hends _ ")" (by decide) (Option.some.inj h).symm]
    decide

end Messages

/-! ## What each store does to the sets -/

section Stores

variable {lib : Lib} {b : Backend} {sets : Sets} {key : String}

theorem rules_set {found : QuerySet} (h : RulesHold lib sets) (hfound : SetRules lib found) :
    RulesHold lib (sets.set key found) := by
  intro p hp
  rcases Dict.mem_set hp with hp | rfl
  · exact h p hp
  · exact hfound

theorem rules_of_lookup {found : QuerySet} (h : RulesHold lib sets) (hfound : sets.lookup key = some found) :
    SetRules lib found := h _ (Dict.mem_of_lookup hfound)

theorem rules_empty {title description : String} : SetRules lib ⟨title, description, []⟩ where
  limit := Nat.zero_le _
  distinct := List.nodup_nil
  statements := by simp

theorem rules_saveSet (h : RulesHold lib sets) (title description : String) :
    RulesHold lib (b.saveSet sets key title description) := by
  cases b with
  | memory =>
    simp only [Backend.saveSet, InMemory.saveSet]
    split
    · exact rules_set h rules_empty
    · rename_i found hfound
      obtain ⟨hlimit, hdistinct, hstatements⟩ := rules_of_lookup h hfound
      exact rules_set h ⟨hlimit, hdistinct, hstatements⟩
  | postgres =>
    simp only [Backend.saveSet, Postgres.saveSet]
    split
    · exact rules_set h rules_empty
    · rename_i found hfound
      obtain ⟨hlimit, hdistinct, hstatements⟩ := rules_of_lookup h hfound
      exact rules_set h ⟨hlimit, hdistinct, hstatements⟩

theorem rules_deleteSet (h : RulesHold lib sets) : RulesHold lib (b.deleteSet sets key).2 := by
  intro p hp
  exact h p (List.mem_filter.1 hp).1

theorem rules_deleteQuery {name : String} {removed : Bool} {sets' : Sets} (h : RulesHold lib sets)
    (hdelete : b.deleteQuery sets key name = .ok (removed, sets')) : RulesHold lib sets' := by
  unfold Backend.deleteQuery at hdelete
  split at hdelete
  · split_ifs at hdelete
    obtain ⟨-, rfl⟩ := Prod.mk.inj (Except.ok.inj hdelete)
    exact h
  · rename_i found hfound
    dsimp only at hdelete
    split_ifs at hdelete
    · obtain ⟨-, rfl⟩ := Prod.mk.inj (Except.ok.inj hdelete)
      exact h
    · obtain ⟨-, rfl⟩ := Prod.mk.inj (Except.ok.inj hdelete)
      have hrules := rules_of_lookup h hfound
      refine rules_set h ⟨?_, ?_, ?_⟩
      · exact (List.length_filter_le _ _).trans hrules.limit
      · exact hrules.distinct.sublist (List.filter_sublist.map _)
      · intro q hq
        exact hrules.statements q (List.mem_filter.1 hq).1

/-- a save within the rules: its statement was accepted, and it does not add to a full set -/
theorem rules_saveQuery {q : Save} {sets' : Sets} (h : RulesHold lib sets) (hname : q.name ≠ "")
    (hstatement : refuseStatement lib.beyond lib.repr q.sql = none)
    (hroom : ∀ found, sets.lookup key = some found → Edits found q ∨ found.queries.length < maxQueries)
    (hsave : b.saveQuery sets key q = .ok sets') : RulesHold lib sets' := by
  unfold Backend.saveQuery at hsave
  split at hsave
  · cases hsave
  · rename_i found hfound
    obtain ⟨queries, hqueries, hset⟩ := bind_eq_ok.1 hsave
    obtain rfl := Except.ok.inj hset
    have hrules := rules_of_lookup h hfound
    have hsaved := savedQueries_saved hrules.distinct hname hqueries
    refine rules_set h ⟨?_, hsaved.distinct, ?_⟩
    · change queries.length ≤ maxQueries
      rw [hsaved.length]
      split_ifs with hedits
      · exact hrules.limit
      · rcases hroom found hfound with hedits' | hroom
        · exact absurd hedits' hedits
        · exact hroom
    · intro row hrow
      rcases hsaved.statements row hrow with hold | hnew
      · exact hrules.statements row hold
      · rw [hnew]
        exact hstatement

/-- a faulty store leaves the sets as they were, or as the operation leaves them -/
theorem rules_strike {α : Type} {fault : Fault} {w : BenchWorld} {r : Except SetError (α × Sets)}
    (h : RulesHold lib w.sets) (hr : ∀ a sets', r = .ok (a, sets') → RulesHold lib sets') :
    RulesHold lib (fault.strike SetError.unavailable w (w.editSets r)).2.sets := by
  have hedit : RulesHold lib (w.editSets r).2.sets := by
    unfold BenchWorld.editSets
    split
    · exact hr _ _ rfl
    · exact h
  rcases strike_cases fault SetError.unavailable w (w.editSets r) with heq | ⟨m, -, heq | heq⟩
  · rw [heq]
    exact hedit
  · rw [heq]
    exact h
  · rw [heq]
    exact hedit

/-- the effects that are no edit leave the sets alone -/
theorem reads_sets {e : BenchAct} {o : Weather} {w : BenchWorld}
    (he : e = .active ∨ ∃ key, e = .getSet key) : (serve b o e w).2.sets = w.sets := by
  rcases he with rfl | ⟨key, rfl⟩
  · unfold serve serveSettled
    cases o.fault <;> rfl
  · unfold serve serveSettled
    cases o.fault <;> rfl

end Stores

/-! ## Programs -/

section Programs

variable {lib : Lib} {b : Backend} {principal : Principal} {key : String} {w : BenchWorld}

/-- any weather -/
def anyWeather : Oracle Weather → Prop := fun _ => True

/-- the programs are read in states with the sets `sets`, where `Q` takes every refusal but that of the limit -/
structure Refusable {α : Type} (lib : Lib) (key : String) (sets : Sets) (Q : Except Exn α → BenchWorld → Prop) : Prop where
  refused : ∀ e w, w.sets = sets → e ≠ atLimit lib key → Q (.error e) w

/-- a check before the rest of a program hands its refusals on -/
theorem onOk_refusable {α β : Type} {sets : Sets} {Q : Except Exn β → BenchWorld → Prop} {f : α → BenchWorld → Prop}
    (hQ : Refusable lib key sets Q) : Refusable lib key sets (onOk f Q) := ⟨hQ.refused⟩

theorem post_refused {o : Option Exn} {Q : Except Exn Unit → BenchWorld → Prop} (hQ : Refusable lib key w.sets Q)
    (hok : o = none → Q (.ok ()) w) (hne : ∀ e, o = some e → e ≠ atLimit lib key) :
    Post (serve b) anyWeather (refuse o) Q w :=
  post_refuse hok fun e he => hQ.refused e w rfl (hne e he)

/-- a set that is read is the set that is stored, but for titles and order -/
theorem post_setOr404 {key' : String} {Q : Except Exn QuerySet → BenchWorld → Prop} (hQ : Refusable lib key w.sets Q)
    (hok : ∀ found w', w'.sets = w.sets → b.get w.sets key' = some found → Q (.ok found) w') :
    Post (serve b) anyWeather (setOr404 lib key') Q w := by
  refine post_bind (post_op ?_)
  intro o _
  have hsets := reads_sets (b := b) (o := o.inner) (w := w) (.inr ⟨key', rfl⟩)
  refine post_bind (post_lift ?_ ?_)
  · intro found hfound
    have hget : found = b.get w.sets key' := by
      unfold serve serveSettled at hfound
      cases hfault : o.inner.fault <;> rw [hfault] at hfound <;> simp_all [Fault.strike, BenchWorld.settle]
    cases found with
    | none => exact post_throw (hQ.refused _ _ hsets (by simp [noSuchSet, atLimit]))
    | some found => exact post_pure (hok found _ hsets hget.symm)
  · intro e he
    refine hQ.refused _ _ hsets ?_
    cases e <;> simp [SetError.audited, SetError.raw, atLimit]

theorem post_notWhileRunning {key' : String} {Q : Except Exn Unit → BenchWorld → Prop} (hQ : Refusable lib key w.sets Q)
    (hok : ∀ w', w'.sets = w.sets → Q (.ok ()) w') : Post (serve b) anyWeather (notWhileRunning lib key') Q w := by
  refine post_bind (post_op ?_)
  intro o _
  have hsets := reads_sets (b := b) (o := o.inner) (w := w) (.inl rfl)
  refine post_refuse ?_ ?_
  · intro _
    exact hok _ hsets
  · intro e he
    refine hQ.refused _ _ hsets ?_
    split_ifs at he
    obtain rfl := Option.some.inj he
    refine ne_atLimit ?_
    rw [ending_append _ _ (by decide)]
    decide

theorem post_admin {Q : Except Exn Unit → BenchWorld → Prop} (hQ : Refusable lib key w.sets Q)
    (hok : principal.can manageHealth = true → Q (.ok ()) w) :
    Post (serve b) anyWeather (requireAdmin principal adminMessage) Q w := by
  refine post_refused hQ ?_ ?_
  · intro hnone
    split_ifs at hnone with hcan
    exact hok hcan
  · intro e he
    split_ifs at he
    obtain rfl := Option.some.inj he
    simp [atLimit]

theorem post_refuseQuery {name : String} {sql : List Char} {Q : Except Exn Unit → BenchWorld → Prop}
    (hQ : Refusable lib key w.sets Q) (hok : refuseName lib.repr name "query name" = none →
      refuseStatement lib.beyond lib.repr sql = none → Q (.ok ()) w) :
    Post (serve b) anyWeather (refuseQuery lib name sql) Q w := by
  refine post_bind (post_refuse ?_ ?_)
  · intro hname
    refine post_refused hQ ?_ ?_
    · intro hstatement
      exact hok (Option.map_eq_none_iff.1 hname) (Option.map_eq_none_iff.1 hstatement)
    · intro e he
      obtain ⟨refusal, hrefusal, rfl⟩ := Option.map_eq_some_iff.1 he
      exact statement_ne_atLimit hrefusal
  · intro e he
    obtain ⟨refusal, hrefusal, rfl⟩ := Option.map_eq_some_iff.1 he
    exact hQ.refused _ _ rfl (name_ne_atLimit hrefusal)

/-- after an edit: the rules hold, and it was not refused because of the limit -/
def Within {α : Type} (lib : Lib) (key : String) (x : Except Exn α) (w : BenchWorld) : Prop :=
  RulesHold lib w.sets ∧ x ≠ .error (atLimit lib key)

variable (key) in
theorem within_refusable {α : Type} (h : RulesHold lib w.sets) : Refusable lib key w.sets (Within (α := α) lib key) := by
  refine ⟨?_⟩
  intro e w' hsets hne
  refine ⟨hsets ▸ h, ?_⟩
  intro heq
  exact hne (Except.error.inj heq)

variable (key) in
/-- the audited write of an edit -/
theorem post_write {α : Type} {p : BenchM (Except SetError α)} {target : Target} {reason : Option String}
    (h : RulesHold lib w.sets)
    (hp : Post (serve b) anyWeather p (fun x w' => (∃ r, x = .ok r) ∧ RulesHold lib w'.sets) w) :
    Post (serve b) anyWeather (audited principal target reason (do lift SetError.audited (← p))) (Within lib key) w := by
  have hQ := within_refusable (α := α) key h
  refine post_audited ?_ ?_ ?_
  · intro _
    exact hQ.refused _ _ rfl (by simp [atLimit])
  · intro _
    exact hQ.refused _ _ rfl (by simp [atLimit, auditDown])
  · refine post_bind (post_mono hp ?_)
    intro x w' hx
    obtain ⟨⟨r, rfl⟩, hrules⟩ := hx
    refine post_lift ?_ ?_
    · intro a _
      exact ⟨hrules, by simp⟩
    · intro e _
      refine (within_refusable key hrules).refused _ _ rfl ?_
      cases e <;> simp [SetError.audited, SetError.raw, atLimit]

theorem saveRefusal_ne {key' name : String} {e : Exn} (h : e ≠ atLimit lib key) : saveRefusal lib key' name e ≠ atLimit lib key := by
  unfold saveRefusal
  split_ifs
  · refine ne_atLimit ?_
    rw [ending_append _ _ (by decide)]
    decide
  · simp [atLimit]
  · exact h

variable (key) in
/-- the refusals of the store, in the words of the service -/
theorem post_saveRefusal {α : Type} {p : BenchM α} {key' name : String}
    (hp : Post (serve b) anyWeather p (Within lib key) w) :
    Post (serve b) anyWeather (tryCatch p fun e => throw (saveRefusal lib key' name e)) (Within lib key) w := by
  refine post_tryCatch (post_mono hp ?_)
  intro x w' hx
  cases x with
  | ok a => exact hx
  | error e =>
    refine post_throw ⟨hx.1, ?_⟩
    intro heq
    exact saveRefusal_ne (fun he => hx.2 (congrArg Except.error he)) (Except.error.inj heq)

/-! ## Every request -/

variable (key) in
theorem saveSet_within {title description : String} {reason : Option String} (h : RulesHold lib w.sets) :
    Post (serve b) anyWeather (saveSet lib principal key title description reason) (Within lib key) w := by
  have hQ := within_refusable (α := Unit) key h
  refine post_bind (post_admin (onOk_refusable hQ) ?_)
  intro _
  refine post_bind (post_refused (onOk_refusable hQ) ?_ ?_)
  · intro _
    refine post_bind (post_notWhileRunning (onOk_refusable hQ) ?_)
    intro w' hsets
    have h' : RulesHold lib w'.sets := hsets ▸ h
    refine post_write key h' (post_op ?_)
    intro o _
    refine ⟨⟨_, rfl⟩, rules_strike h' ?_⟩
    intro a sets' heq
    obtain ⟨-, rfl⟩ := Prod.mk.inj (Except.ok.inj heq)
    exact rules_saveSet h' _ _
  · intro e he
    obtain ⟨refusal, hrefusal, rfl⟩ := Option.map_eq_some_iff.1 he
    exact name_ne_atLimit hrefusal

variable (key) in
/-- how a deletion opens: an administrator asks, the set is stored and no run is under way -/
theorem within_opened {key' : String} {rest : QuerySet → BenchM Unit} (h : RulesHold lib w.sets)
    (hrest : ∀ found w', RulesHold lib w'.sets → Post (serve b) anyWeather (rest found) (Within lib key) w') :
    Post (serve b) anyWeather (do
      requireAdmin principal adminMessage
      let found ← setOr404 lib key'
      notWhileRunning lib key'
      rest found) (Within lib key) w := by
  have hQ := within_refusable (α := Unit) key h
  refine post_bind (post_admin (onOk_refusable hQ) ?_)
  intro _
  refine post_bind (post_setOr404 (onOk_refusable hQ) ?_)
  intro found w' hsets _
  have h' : RulesHold lib w'.sets := hsets ▸ h
  refine post_bind (post_notWhileRunning (onOk_refusable (within_refusable key h')) ?_)
  intro w'' hsets'
  exact hrest found w'' (hsets' ▸ h')

variable (key) in
theorem deleteSet_within {key' : String} {reason : Option String} (h : RulesHold lib w.sets) :
    Post (serve b) anyWeather (deleteSet lib principal key' reason) (Within lib key) w := by
  refine within_opened key h ?_
  intro found w'' h''
  refine post_bind (post_mono (post_write key h'' (post_op ?_)) ?_)
  · intro o _
    refine ⟨⟨_, rfl⟩, rules_strike h'' ?_⟩
    intro a sets' heq
    have hdeleted : sets' = (b.deleteSet w''.sets key').2 := (congrArg Prod.snd (Except.ok.inj heq)).symm
    rw [hdeleted]
    exact rules_deleteSet h''
  · intro x w₃ hx
    cases x with
    | ok a => exact post_pure ⟨hx.1, by simp⟩
    | error e => exact ⟨hx.1, fun heq => hx.2 (congrArg Except.error (Except.error.inj heq))⟩

variable (key) in
theorem deleteQuery_within {key' name : String} {reason : Option String} (h : RulesHold lib w.sets) :
    Post (serve b) anyWeather (deleteQuery lib principal key' name reason) (Within lib key) w := by
  refine within_opened key h ?_
  intro found w'' h''
  refine post_bind (post_mono (post_saveRefusal key (post_write key h'' (post_op ?_))) ?_)
  · intro o _
    refine ⟨⟨_, rfl⟩, rules_strike h'' ?_⟩
    intro a sets' heq
    exact rules_deleteQuery h'' heq
  · intro x w₃ hx
    cases x with
    | ok removed =>
      refine post_refused (within_refusable key hx.1) ?_ ?_
      · intro _
        exact ⟨hx.1, by simp⟩
      · intro e he
        split_ifs at he
        obtain rfl := Option.some.inj he
        simp [atLimit]
    | error e => exact ⟨hx.1, fun heq => hx.2 (congrArg Except.error (Except.error.inj heq))⟩

/-- the set that is read has as many queries as the one that is stored -/
theorem get_length {sets : Sets} {found : QuerySet} (h : b.get sets key = some found) :
    ∃ stored, sets.lookup key = some stored ∧ found.queries.length = stored.queries.length := by
  cases b with
  | memory => exact ⟨found, h, rfl⟩
  | postgres =>
    obtain ⟨stored, hstored, rfl⟩ := Option.map_eq_some_iff.1 h
    refine ⟨stored, hstored, ?_⟩
    rw [Postgres.load, length_sorted, List.length_map]

theorem name_ne_empty {repr : String → String} {name what : String} (h : refuseName repr name what = none) : name ≠ "" := by
  intro heq
  subst heq
  unfold refuseName at h
  split_ifs at h with hname
  exact absurd hname (by decide)

/-- after a save: the rules hold, and if it was refused because of the limit it would have added a query -/
def SaveWithin (lib : Lib) (key : String) (sets : Sets) (q : Save) (x : Except Exn Unit) (w : BenchWorld) : Prop :=
  RulesHold lib w.sets ∧ (x = .error (atLimit lib key) → ¬∃ found, sets.lookup key = some found ∧ Edits found q)

theorem Within.save {sets : Sets} {q : Save} {x : Except Exn Unit} (h : Within lib key x w) :
    SaveWithin lib key sets q x w := ⟨h.1, fun heq => absurd heq h.2⟩

theorem save_refusable {sets : Sets} {q : Save} (h : RulesHold lib w.sets) :
    Refusable lib key w.sets (SaveWithin lib key sets q) := by
  refine ⟨?_⟩
  intro e w' hsets hne
  exact ((within_refusable key h).refused e w' hsets hne).save

/-- **Saving a query.** Clear of the two cases the service and the store disagree about, a save keeps the rules, and only an
addition is refused because of the limit. -/
theorem saveQuery_rules {q : Save} (reason : Option String) (h : RulesHold lib w.sets)
    (hclear : Clear lib principal w.sets key q) :
    Post (serve b) anyWeather (saveQuery lib principal key q.name q.title q.sql reason q.position q.originalName)
      (SaveWithin lib key w.sets q) w := by
  refine post_bind (post_admin (onOk_refusable (save_refusable h)) ?_)
  intro hcan
  refine post_bind (post_setOr404 (onOk_refusable (save_refusable h)) ?_)
  intro found w' hsets hfound
  obtain ⟨stored, hstored, hlength⟩ := get_length hfound
  have h' : RulesHold lib w'.sets := hsets ▸ h
  refine post_bind (post_refuseQuery (onOk_refusable (save_refusable h')) ?_)
  intro hname hstatement
  have hboth : maxQueries ≤ stored.queries.length → (Edits stored q ↔ q.originalName = some q.name) := by
    intro hfull
    exact hclear stored hstored hfull ⟨hcan, hname, hstatement⟩
  refine post_bind (post_refuse ?_ ?_)
  · intro hlimit
    have hroom : Edits stored q ∨ stored.queries.length < maxQueries := by
      rcases Nat.lt_or_ge stored.queries.length maxQueries with hlt | hfull
      · exact .inr hlt
      · refine .inl ((hboth hfull).2 ?_)
        by_contra hne
        exact absurd hlimit (by rw [if_pos ⟨hne, hlength ▸ hfull⟩]; simp)
    refine post_mono (Q := Within lib key) ?_ (fun x w'' hx => hx.save)
    refine post_bind (post_notWhileRunning (onOk_refusable (within_refusable key h')) ?_)
    intro w'' hsets'
    have h'' : RulesHold lib w''.sets := hsets' ▸ h'
    refine post_saveRefusal key (post_write key h'' (post_op ?_))
    intro o _
    refine ⟨⟨_, rfl⟩, rules_strike h'' ?_⟩
    intro a sets' heq
    obtain ⟨sets'', hsave, hpair⟩ := map_eq_ok.1 heq
    obtain ⟨-, rfl⟩ := Prod.mk.inj hpair
    refine rules_saveQuery (q := ⟨q.name, strip q.title, cleanStatement q.sql, q.position, q.originalName⟩) h''
      (name_ne_empty hname) hstatement ?_ hsave
    intro found' hfound'
    rw [hsets', hsets, hstored] at hfound'
    obtain rfl := Option.some.inj hfound'
    exact hroom
  · intro e he
    split_ifs at he with hfull
    refine ⟨h', ?_⟩
    intro _ hex
    obtain ⟨found', hfound', hedits⟩ := hex
    rw [hstored] at hfound'
    obtain rfl := Option.some.inj hfound'
    exact hfull.1 ((hboth (hlength ▸ hfull.2)).1 hedits)

/-- a save without an original name only ever adds -/
theorem clear_none {sets : Sets} {q : Save} (hq : q.originalName = none) : Clear lib principal sets key q := by
  intro found _ _ _
  simp [Edits, Save.original, hq]

/-- the rules hold, whatever the answer is -/
def StillHold (lib : Lib) {α : Type} (_ : Except Exn α) (w : BenchWorld) : Prop := RulesHold lib w.sets

theorem createSet_rules {title description name : String} {statement : List Char} {reason : Option String}
    (h : RulesHold lib w.sets) :
    Post (serve b) anyWeather (createSet lib principal key title description name statement reason)
      (StillHold lib) w := by
  have hany : ∀ (α : Type) (w' : BenchWorld), RulesHold lib w'.sets → Refusable (α := α) lib key w'.sets (StillHold lib) := by
    intro α w' h'
    refine ⟨?_⟩
    intro e w'' hsets _
    exact (hsets ▸ h' : RulesHold lib w''.sets)
  refine post_bind (post_admin (onOk_refusable (hany _ w h)) ?_)
  intro _
  refine post_bind (post_refused (onOk_refusable (hany _ w h)) ?_ ?_)
  on_goal 2 =>
    intro e he
    obtain ⟨refusal, hrefusal, rfl⟩ := Option.map_eq_some_iff.1 he
    exact name_ne_atLimit hrefusal
  intro _
  refine post_bind (post_refuseQuery (onOk_refusable (hany _ w h)) ?_)
  intro _ _
  refine post_bind (post_op ?_)
  intro o _
  have h' : RulesHold lib (serve b o.inner (.getSet key) w).2.sets := by
    rw [reads_sets (.inr ⟨key, rfl⟩)]
    exact h
  refine post_bind (post_lift ?_ ?_)
  on_goal 2 =>
    intro _ _
    exact h'
  intro existing _
  refine post_bind (post_refuse ?_ ?_)
  on_goal 2 =>
    intro _ _
    exact h'
  intro _
  refine post_bind (post_mono (saveSet_within key h') ?_)
  intro x w'' hx
  cases x with
  | error e => exact hx.1
  | ok _ =>
    refine post_mono (saveQuery_rules (q := ⟨name, "", cleanStatement statement, 0, none⟩) reason hx.1 (clear_none rfl)) ?_
    intro y w₃ hy
    exact hy.1

end Programs

/-! ## Runs -/

section Runs

variable (lib : Lib) (b : Backend)

/-- the rules hold, and nothing was refused that leaves the number of queries as it is -/
def StepRight (site : Site BenchWorld) (r : SetRequest) : Prop :=
  RulesHold lib (edit lib b site r).service.sets ∧ ¬SpuriousLimit lib b site r

variable {lib b}

theorem edit_right {site : Site BenchWorld} {r : SetRequest} (h : RulesHold lib site.service.sets)
    (hclear : KeepsToLimit lib site r) : StepRight lib b site r := by
  obtain ⟨principal, reason, task, weather⟩ := r
  have hrun : ∀ {p : BenchM Unit} {Q : Except Exn Unit → BenchWorld → Prop}, Post (serve b) anyWeather p Q site.service →
      Q (Prog.run (handle (serve b)) weather p site).1 (Prog.run (handle (serve b)) weather p site).2.service := by
    intro p Q hp
    exact post_run trivial (fun _ _ => trivial) hp
  cases task with
  | saveSet key title description => exact ⟨(hrun (saveSet_within key h)).1, id⟩
  | createSet key title description name statement => exact ⟨hrun (createSet_rules h), id⟩
  | deleteSet key => exact ⟨(hrun (deleteSet_within key h)).1, id⟩
  | deleteQuery key name => exact ⟨(hrun (deleteQuery_within key h)).1, id⟩
  | saveQuery key q =>
    obtain ⟨hrules, hlimit⟩ := hrun (saveQuery_rules reason h hclear)
    exact ⟨hrules, fun hspurious => hlimit hspurious.2 hspurious.1⟩

/-- **Query-set rules.** Over every sequence of requests whose saves are clear of the two cases at the limit that the service
and the store disagree about, every set keeps the limit, distinct names and accepted statements, and no edit or rename is
refused because of the limit. -/
theorem set_rules {site : Site BenchWorld} {rs : List SetRequest} (h : RulesHold lib site.service.sets)
    (hclear : Meets (edit lib b) (KeepsToLimit lib) site rs) : Meets (edit lib b) (StepRight lib b) site rs := by
  induction rs generalizing site with
  | nil => exact trivial
  | cons r rs ih =>
    have hright := edit_right (b := b) h hclear.1
    exact ⟨hright, ih hright.1 hclear.2⟩

end Runs

/-! ## At the limit -/

/-- ASCII only, and texts as they are -/
def plainLib : Lib := ⟨id, fun _ => []⟩

def operator : Principal := ⟨"ops", ["admin"]⟩

def noSets : Site BenchWorld := ⟨⟨[], [], []⟩, []⟩

/-- creates a set with the query `q0` -/
def firstQuery : SetRequest := ⟨operator, some "fill", .createSet "s" "" "" "q0" "SELECT 1".toList, []⟩

/-- and adds `q1` to `q49` -/
def fill : List SetRequest :=
  firstQuery :: (List.range 49).map fun i =>
    ⟨operator, some "fill", .saveQuery "s" ⟨"q" ++ toString (i + 1), "", "SELECT 1".toList, i + 1, none⟩, []⟩

/-- renames `q0` to `first` -/
def renameRequest : SetRequest :=
  ⟨operator, some "tidy up", .saveQuery "s" ⟨"first", "", "SELECT 1".toList, 0, some "q0"⟩, []⟩

/-- edits `gone`, which somebody has deleted -/
def staleEdit : SetRequest :=
  ⟨operator, some "tidy up", .saveQuery "s" ⟨"gone", "", "SELECT 1".toList, 0, some "gone"⟩, []⟩

theorem rename_clear : Meets (edit plainLib .memory) (KeepsToLimit plainLib) noSets [firstQuery, renameRequest] := by
  have hshort : ∀ found ∈ (edit plainLib .memory noSets firstQuery).service.sets.lookup "s",
      found.queries.length < maxQueries := by decide +kernel
  refine ⟨trivial, ?_, trivial⟩
  intro found hfound hfull
  exact absurd hfull (Nat.not_le.2 (hshort found hfound))

theorem set_rules_renamed : RulesHold plainLib noSets.service.sets ∧
    Meets (edit plainLib .memory) (StepRight plainLib .memory) noSets [firstQuery, renameRequest] :=
  ⟨List.forall_mem_nil _, set_rules (List.forall_mem_nil _) rename_clear⟩

/-- **At the limit.** In a set of fifty queries `q0` cannot be renamed, and the edit of a query that is gone is the
fifty-first. -/
theorem full_set_misjudged :
    SpuriousLimit plainLib .memory (run (edit plainLib .memory) noSets fill) renameRequest ∧
      ¬RulesHold plainLib (run (edit plainLib .memory) noSets (fill ++ [staleEdit])).service.sets := by
  have hfull : (∃ found, (run (edit plainLib .memory) noSets fill).service.sets.lookup "s" = some found ∧
      "q0" ∈ namesOf found.queries) ∧ answer plainLib .memory (run (edit plainLib .memory) noSets fill) renameRequest =
        .error (.invalidRequest (limitMessage plainLib "s")) ∧
      ∃ found, (edit plainLib .memory (run (edit plainLib .memory) noSets fill) staleEdit).service.sets.lookup "s" = some found ∧
        maxQueries < found.queries.length := by decide +kernel
  obtain ⟨hthere, hanswer, hover⟩ := hfull
  constructor
  · obtain ⟨found, hfound, hmem⟩ := hthere
    exact ⟨⟨found, hfound, "q0", by decide +kernel, hmem⟩, hanswer⟩
  · intro hrules
    obtain ⟨found, hfound, hlength⟩ := hover
    rw [run_append, run_cons, run_nil] at hrules
    exact absurd (rules_of_lookup hrules hfound).limit (Nat.not_le.2 hlength)

end TrinoManagement.Bench
