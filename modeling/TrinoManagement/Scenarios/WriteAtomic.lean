/-
Resource group writes: validated, recorded and atomic, whichever statement fails.

A failed statement takes no effect, `commit` included; closing a connection without `commit` rolls back; no other writer of
the environment comes between the statements of a write, since they hold its advisory lock.
- `write_atomic`: what a write that returns has committed, and that any other has committed nothing.
- `history_allowed`: so no revision that TMS appends has a blocking finding in its later tree.
-/
import Mathlib.Tactic
import TrinoManagement.ResourceGroups.Writes

namespace TrinoManagement.ResourceGroups

variable {lib : Library}

/-- **Validated and atomic.** -/
theorem write_atomic (lib : Library) (req : Request) (write : Write) (faults : List (Option String)) (db : Db) :
    match Prog.run handle faults (write.run lib req) db with
    | (.ok result, db') =>
      blocking (validate lib (db'.committed.tree req.environment) req.groupProviderConfigured) = [] ∧
      ∃ kind target, db'.committed.revisions = db.committed.revisions ++ [⟨result.revisionId, req.environment, req.actor,
        req.reason, req.requestId, kind, target, db.committed.tree req.environment, db'.committed.tree req.environment⟩]
    | (.error _, db') => db'.committed = db.committed := by
  have h := @write_lands lib req write faults db
  revert h
  cases Prog.run handle faults (write.run lib req) db with
  | mk result db' =>
    cases result with
    | ok result =>
      intro hlanded
      obtain ⟨w, -, hrecorded⟩ := hlanded
      exact ⟨hrecorded.allowed, hrecorded.revisions⟩
    | error e => exact fun h => h

/-- the later tree of every revision passed the rules -/
def HistoryAllowed (lib : Library) (db : Db) : Prop :=
  ∀ r ∈ db.committed.revisions, ∃ provider, Allowed lib r.treeAfter provider

theorem step_allowed {db : Db} (call : Call) (h : HistoryAllowed lib db) : HistoryAllowed lib (call.step lib db) := by
  have hlands := @write_lands lib call.request call.write call.faults db
  unfold HistoryAllowed Call.step
  revert hlands
  cases (Prog.run handle call.faults (call.write.run lib call.request) db).1 with
  | ok result =>
    intro hlanded r hr
    obtain ⟨w, -, hrecorded⟩ := hlanded
    obtain ⟨kind, target, hrevisions⟩ := hrecorded.revisions
    rw [hrevisions] at hr
    rcases List.mem_append.1 hr with hr | hr
    · exact h r hr
    · obtain rfl := List.mem_singleton.1 hr
      exact ⟨_, hrecorded.allowed⟩
  | error e =>
    intro hsame
    rw [show _ = db.committed from hsame]
    exact h

/-- **Every recorded tree is valid**, after any calls of any environments. -/
theorem history_allowed (calls : List Call) (db : Db) (h : HistoryAllowed lib db) :
    HistoryAllowed lib (runCalls lib calls db) := by
  induction calls generalizing db with
  | nil => exact h
  | cons call calls ih => exact ih (call.step lib db) (step_allowed call h)

end TrinoManagement.ResourceGroups
