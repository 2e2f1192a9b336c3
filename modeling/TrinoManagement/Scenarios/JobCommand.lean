/-
Fleet jobs from the request to the exit code: what reaches the command line, and what is left of it in the job's row.

TMS holds SSH keys to every node. A request names a job and some values; the command is the administrator's.
- `Values`: what became of the declared parameters. `values_of_clean`: what `clean` returns is so.
- `Starting`: the ways `start_job` may go, each with all that it did. `adds_startJob`: there are no others.
- `Working`: the same for the job's thread.
- `job_command`: every start and every thread, whatever the stores and the machine do.
-/
import Mathlib.Tactic
import TrinoManagement.Api.Brackets
import TrinoManagement.Fleet.Jobs

namespace TrinoManagement.FleetJobs

open TrinoManagement.Audit TrinoManagement.Guard
open TrinoManagement.Jobs (Outcome)
open TrinoManagement.Service (Exn)
open TrinoManagement.Trace (Adds adds_bind adds_mono adds_perform adds_pure adds_throw traced traced_adds)

/-! ## Values -/

/-- the values of a job's parameters: sorted by name, one for each that is declared, and each the number that was submitted
for it or its default, within its bounds -/
structure Values (job : JobDefinition) (submitted : Dict Value) (values : List (String × ℤ)) : Prop where
  sorted : values.Pairwise fun a b => a.1 ≤ b.1
  nodup : (values.map Prod.fst).Nodup
  every : ∀ p ∈ job.parameters, ∃ v, (p.name, v) ∈ values
  declared : ∀ v ∈ values, ∃ p ∈ job.parameters, p.name = v.1 ∧ p.minimum ≤ v.2 ∧ v.2 ≤ p.maximum ∧
    wholeNumber ((submitted.lookup p.name).getD (.int p.default)) = some v.2

theorem clean_eq_ok {p : JobParameter} {raw : Value} {v : ℤ} (h : p.clean raw = .ok v) :
    wholeNumber raw = some v ∧ p.minimum ≤ v ∧ v ≤ p.maximum := by
  unfold JobParameter.clean at h
  cases hnumber : wholeNumber raw with
  | none =>
    rw [hnumber] at h
    cases h
  | some value =>
    rw [hnumber] at h
    dsimp only at h
    split_ifs at h with hbounds
    obtain rfl := Except.ok.inj h
    exact ⟨rfl, hbounds⟩

/-- a dict holds of pairs the last of each key -/
theorem mem_ofPairs {pairs : List (String × ℤ)} :
    (∀ p ∈ Dict.ofPairs pairs, p ∈ pairs) ∧ ∀ p ∈ pairs, ∃ v, (p.1, v) ∈ Dict.ofPairs pairs := by
  constructor
  · rintro ⟨k, v⟩ hp
    have hlookup := Dict.lookup_of_mem (Dict.nodup_ofPairs pairs) hp
    rw [Dict.lookup_ofPairs] at hlookup
    exact List.mem_reverse.1 (Assoc.mem_of_lookup hlookup)
  · rintro ⟨k, v⟩ hp
    cases hlookup : pairs.reverse.lookup k with
    | none =>
      have hkey := Assoc.lookup_eq_none.1 hlookup
      exact absurd (List.mem_map_of_mem (List.mem_reverse.2 hp)) hkey
    | some v' => exact ⟨v', Dict.mem_of_lookup ((Dict.lookup_ofPairs pairs k).trans hlookup)⟩

theorem values_of_clean {job : JobDefinition} {submitted : Dict Value} {cleaned : Dict ℤ} (h : job.clean submitted = .ok cleaned) :
    Values job submitted (sortedItems cleaned) := by
  obtain ⟨pairs, hpairs, rfl⟩ := map_eq_ok.1 h
  obtain ⟨hall, honly⟩ := mapM_elements hpairs
  have hperm : (sortedItems (Dict.ofPairs pairs)).Perm (Dict.ofPairs pairs) := List.perm_insertionSort _ _
  refine ⟨List.pairwise_insertionSort _ _, ?_, ?_, ?_⟩
  · exact (hperm.map Prod.fst).nodup_iff.2 (Dict.nodup_ofPairs pairs)
  · intro p hp
    obtain ⟨y, hy, hclean⟩ := hall p hp
    obtain ⟨v, -, rfl⟩ := map_eq_ok.1 hclean
    obtain ⟨v', hv'⟩ := mem_ofPairs.2 _ hy
    exact ⟨v', hperm.mem_iff.2 hv'⟩
  · intro v hv
    obtain ⟨p, hp, hclean⟩ := honly v (mem_ofPairs.1 v (hperm.mem_iff.1 hv))
    obtain ⟨value, hvalue, rfl⟩ := map_eq_ok.1 hclean
    obtain ⟨hnumber, hmin, hmax⟩ := clean_eq_ok hvalue
    exact ⟨p, hp, rfl, hmin, hmax, hnumber⟩

/-- digits, and perhaps a sign -/
theorem toString_int_chars (n : ℤ) : ∀ c ∈ (toString n).toList, c = '-' ∨ c.isDigit = true := by
  have hnat : ∀ (m : ℕ), ∀ c ∈ m.repr.toList, c.isDigit = true := by
    intro m c hc
    rw [Nat.toList_repr] at hc
    exact Nat.isDigit_of_mem_toDigits (by decide) (by decide) hc
  cases n with
  | ofNat m => exact fun c hc => .inr (hnat m c hc)
  | negSucc m =>
    intro c hc
    have hrepr : toString (Int.negSucc m) = "-" ++ (m + 1).repr := rfl
    rw [hrepr, String.toList_append] at hc
    rcases List.mem_append.1 hc with hc | hc
    · exact .inl (List.mem_singleton.1 hc)
    · exact .inr (hnat _ c hc)

/-! ## Starting -/

/-- the command of a start: the administrator's binary, inventory and playbook, and the values -/
structure Command (runner : JobRunner) (cluster key : String) (submitted : Dict Value) (job : JobDefinition)
    (vars : List (String × ℤ)) (command : List String) : Prop where
  declared : runner.jobs.lookup key = some job
  values : Values job submitted vars
  words : ∃ inventory, runner.clusterInventories.lookup cluster = some inventory ∧
    command = [runner.binary, "--inventory", inventory, job.playbook] ++ vars.flatMap extraVar
  written : ∀ v ∈ vars, extraVar v = ["--extra-vars", v.1 ++ "=" ++ toString v.2] ∧
    ∀ c ∈ (toString v.2).toList, c = '-' ∨ c.isDigit = true

/-- the row that is inserted -/
def newRun (principal : Principal) (cluster key : String) (reason : Option String) (cleaned : Dict ℤ) : NewRun :=
  ⟨cluster, key, principal.username, principal.roles, reason, cleaned⟩

/-- how a start may end, with all that it did -/
inductive Starting (runner : Option JobRunner) (principal : Principal) (cluster key : String) (submitted : Dict Value)
    (reason : Option String) : Except Exn ℕ → List JobAct → Prop
  | refused {e : Exn} : Starting runner principal cluster key submitted reason (.error e) []
  | unrecorded {e : Exn} {cleaned : Dict ℤ} : Starting runner principal cluster key submitted reason (.error e)
    [.create (newRun principal cluster key reason cleaned)]
  /-- the cluster has no inventory -/
  | unknown {e : Exn} {cleaned : Dict ℤ} {id : ℕ} {o : Outcome} (ho : o.state = .failed) :
    Starting runner principal cluster key submitted reason (.error e)
      [.create (newRun principal cluster key reason cleaned), .finish id o]
  | unthreaded {e : Exn} {cleaned : Dict ℤ} {id : ℕ} {r : JobRunner} {job : JobDefinition} {command : List String}
    (hr : runner = some r) (hcommand : Command r cluster key submitted job (sortedItems cleaned) command) :
    Starting runner principal cluster key submitted reason (.error e)
      [.create (newRun principal cluster key reason cleaned), .launch id command job.timeoutSeconds]
  | started {cleaned : Dict ℤ} {id : ℕ} {r : JobRunner} {job : JobDefinition} {command : List String}
    (hr : runner = some r) (hcommand : Command r cluster key submitted job (sortedItems cleaned) command) :
    Starting runner principal cluster key submitted reason (.ok id)
      [.create (newRun principal cluster key reason cleaned), .launch id command job.timeoutSeconds,
        .appendOutput id ("Running " ++ " ".intercalate command) "info"]

variable {repr : String → String} {clusters : List String} {runner : Option JobRunner} {r : JobRunner} {principal : Principal}
  {cluster key : String} {submitted : Dict Value} {reason : Option String} {job : JobDefinition} {cleaned : Dict ℤ}

/-- what is done under the guard is a start that came as far as the thread -/
def Launching (r : JobRunner) (principal : Principal) (cluster key : String) (submitted : Dict Value) (reason : Option String)
    (x : Except Exn (ℕ × List String)) (es : List JobAct) : Prop :=
  (∀ e, x = .error e → Starting (some r) principal cluster key submitted reason (.error e) es) ∧
  ∀ id command, x = .ok (id, command) → Starting (some r) principal cluster key submitted reason (.ok id)
    (es ++ [.appendOutput id ("Running " ++ " ".intercalate command) "info"])

theorem does_jobBody (hjob : r.jobs.lookup key = some job) (hclean : job.clean submitted = .ok cleaned) :
    Does (jobBody repr r principal cluster key cleaned reason) (Launching r principal cluster key submitted reason) := by
  have hdefinition : r.definition repr key = .ok job := by rw [JobRunner.definition, hjob]
  intro answer
  cases answer with
  | error e => exact ⟨_, rfl, fun _ _ => .unrecorded, nofun⟩
  | ok id =>
    change Adds seen (launch repr r key cluster cleaned id >>= _) _
    unfold launch
    rw [hdefinition]
    cases hinventory : r.clusterInventories.lookup cluster with
    | none =>
      have hbuild : ∃ message, r.buildCommand repr key cluster cleaned = .error message := by
        rw [JobRunner.buildCommand, hdefinition]
        exact ⟨_, by dsimp only [bind, Except.bind]; rw [hinventory]⟩
      obtain ⟨message, hbuild⟩ := hbuild
      rw [hbuild]
      exact fun _ => ⟨[_, _], rfl, fun _ _ => .unknown rfl, nofun⟩
    | some inventory =>
      have hbuild : r.buildCommand repr key cluster cleaned =
          .ok ([r.binary, "--inventory", inventory, job.playbook] ++ (sortedItems cleaned).flatMap extraVar) := by
        rw [JobRunner.buildCommand, hdefinition]
        dsimp only [bind, Except.bind]
        rw [hinventory]
        rfl
      have hcommand : Command r cluster key submitted job (sortedItems cleaned) _ :=
        ⟨hjob, values_of_clean hclean, ⟨inventory, hinventory, rfl⟩, fun v _ => ⟨rfl, toString_int_chars v.2⟩⟩
      rw [hbuild]
      intro launched
      cases launched with
      | error message => exact ⟨[_, _], rfl, fun _ _ => .unthreaded rfl hcommand, nofun⟩
      | ok _ =>
        refine ⟨[_, _], rfl, nofun, ?_⟩
        rintro id' command h
        obtain ⟨rfl, rfl⟩ := Prod.mk.inj (Except.ok.inj h)
        exact .started rfl hcommand

theorem doneIn_guarded {es : List JobAct} {entry : Drafts.AuditEntry} :
    doneIn (.asked true :: (es.map .did ++ [.recorded entry])) = es := by
  change doneIn (es.map .did ++ [.recorded entry]) = _
  rw [doneIn_append, doneIn_did]
  exact List.append_nil es

/-- **No other ways.** -/
theorem adds_startJob : Adds seen (startJob repr clusters runner principal cluster key submitted reason)
    fun x t => Starting runner principal cluster key submitted reason x (doneIn t) := by
  refine adds_check (fun _ => adds_check (fun _ => adds_check (fun _ => ?_) fun _ _ => .refused) fun _ _ => .refused)
    fun _ _ => .refused
  cases runner with
  | none => exact adds_throw .refused
  | some r =>
    cases hjob : r.jobs.lookup key with
    | none =>
      have hdefinition : r.definition repr key = .error ("unknown job " ++ repr key) := by rw [JobRunner.definition, hjob]
      dsimp only
      rw [hdefinition]
      exact adds_throw .refused
    | some job =>
      have hdefinition : r.definition repr key = .ok job := by rw [JobRunner.definition, hjob]
      dsimp only
      rw [hdefinition]
      change Adds seen (lift .invalidRequest (job.clean submitted) >>= _) _
      cases hclean : job.clean submitted with
      | error message => exact adds_throw .refused
      | ok cleaned =>
        change Adds seen (audited principal (jobTarget cluster key) reason
          (jobBody repr r principal cluster key cleaned reason) >>= _) _
        refine adds_bind _ (adds_audited (does_jobBody hjob hclean)) ?_ ?_
        · rintro e t h
          cases h with
          | unreasoned => exact .refused
          | down => exact .refused
          | failed _ h =>
            rw [doneIn_guarded]
            exact h.1 _ rfl
        · rintro ⟨id, command⟩ t h _
          cases h with
          | done _ h =>
            refine adds_pure ?_
            dsimp only
            rw [doneIn_append, doneIn_guarded]
            exact h.2 id command rfl

/-! ## The thread -/

/-- what a thread does, and what came of its command -/
inductive Note where
  | streamed (command : List String) (lines : List String) (result : Except String CommandResult)
  | did (a : Act JobAct)

def noted : (a : Act JobAct) → Guard.Answer JobAct.Answer a → Note
  | .op (.stream command _), answer => .streamed command answer.1 answer.2
  | a, _ => .did a

/-- the command, its lines as they came, and one outcome at the end -/
def Working (id : ℕ) (command : List String) (t : List Note) : Prop :=
  ∃ lines result, t = .streamed command lines result ::
    (lines.map (fun line => .did (.op (.appendOutput id line "output"))) ++ [.did (.op (.finish id (ending result)))])

theorem adds_appendLines (id : ℕ) (lines : List String) : Adds noted (appendLines id lines) fun x t =>
    x = .ok () ∧ t = lines.map fun line => .did (.op (.appendOutput id line "output")) := by
  induction lines with
  | nil => exact ⟨rfl, rfl⟩
  | cons line lines ih =>
    refine fun _ => adds_mono ih ?_
    rintro x t ⟨hx, rfl⟩
    exact ⟨hx, rfl⟩

theorem adds_work {id : ℕ} {command : List String} {timeoutSeconds : ℚ} : Adds noted (work id command timeoutSeconds)
    fun _ t => Working id command t := by
  intro answer
  change Adds noted (appendLines id answer.1 >>= _) _
  refine adds_bind _ (adds_appendLines id answer.1) (fun _ _ h => by cases h.1) ?_
  rintro u t ⟨-, rfl⟩ _
  exact ⟨answer.1, answer.2, rfl⟩

/-- a success is an exit code of zero, and nothing else is -/
theorem ending_succeeded {result : Except String CommandResult} : (ending result).state = .succeeded ↔
    ∃ c, result = .ok c ∧ c.timedOut = false ∧ c.error.getD "" = "" ∧ c.rc = some 0 := by
  cases result with
  | error text => exact iff_of_false nofun fun h => by cases h.choose_spec.1
  | ok c =>
    have hstate : (outcome c).state = .succeeded ↔ c.timedOut = false ∧ c.error.getD "" = "" ∧ c.rc = some 0 := by
      unfold outcome
      by_cases htimed : c.timedOut = true
      · rw [if_pos htimed]
        exact iff_of_false nofun fun h => by rw [h.1] at htimed; cases htimed
      by_cases herror : c.error.getD "" ≠ ""
      · rw [if_neg htimed, if_pos herror]
        exact iff_of_false nofun fun h => herror h.2.1
      by_cases hrc : c.rc = some 0
      · rw [if_neg htimed, if_neg herror, if_pos hrc]
        exact iff_of_true rfl ⟨Bool.of_not_eq_true htimed, not_not.1 herror, hrc⟩
      · rw [if_neg htimed, if_neg herror, if_neg hrc]
        exact iff_of_false nofun fun h => hrc h.2.2
    rw [ending, hstate]
    exact ⟨fun h => ⟨c, rfl, h⟩, fun ⟨_, hc, h⟩ => by rw [Except.ok.inj hc]; exact h⟩

/-! ## Both -/

/-- **The command line of a job.** However the stores answer, a start does no more than insert its row, hand one command to one
thread and log it; the command is the administrator's binary, inventory and playbook and then one whole number for each declared
parameter, in its bounds and written in digits. The thread records the lines that `stream_command` hands over (redacted, and
without the blank ones) as they come, and one outcome: a success if and only if `stream_command` returns the code zero, with no
time-out and no error. Where it raises, the outcome is a failure, whatever the playbook does after that. -/
theorem job_command {O S : Type} [Inhabited O] (H : O → (e : JobAct) → S → e.Answer × S) (os : List (Oracle O)) (site : Site S)
    (repr : String → String) (clusters : List String) (runner : Option JobRunner) (principal : Principal)
    (cluster key : String) (submitted : Dict Value) (reason : Option String) (id : ℕ) (command : List String)
    (timeoutSeconds : ℚ) :
    (let start := traced seen (handle H) os (startJob repr clusters runner principal cluster key submitted reason) site
     Starting runner principal cluster key submitted reason start.1 (doneIn start.2.2)) ∧
    Working id command (traced noted (handle H) os (work id command timeoutSeconds) site).2.2 ∧
    ∀ result, (ending result).state = .succeeded ↔
      ∃ c, result = .ok c ∧ c.timedOut = false ∧ c.error.getD "" = "" ∧ c.rc = some 0 :=
  ⟨traced_adds adds_startJob, traced_adds adds_work, fun _ => ending_succeeded⟩

end TrinoManagement.FleetJobs
