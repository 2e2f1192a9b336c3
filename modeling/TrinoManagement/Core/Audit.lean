/-
Who may act, and what is recorded of it: `tms/api/permissions.py` and the guard of `tms/core/audit.py`.

- `Principal.can`: capabilities by role; an unknown role grants nothing.
- `normaliseReason`: a reason flattened to one line and capped. `normaliseReason_isSome`: exactly the texts that are not
  blank have one.
-/
import Mathlib.Tactic
import TrinoManagement.Core.Text

namespace TrinoManagement.Audit

open TrinoManagement.Text

/-! ## Permissions -/

def manageHealth : String := "manage_health"

def roleCapabilities : String → List String
  | "viewer" => ["view_portal", "view_queries", "view_health"]
  | "operator" => ["view_portal", "view_queries", "view_health", "kill_query", "view_audit"]
  | "admin" =>
    ["view_portal", "view_queries", "view_health", "kill_query", "view_audit", "manage_health", "export_audit"]
  | _ => []

/-- the authenticated caller -/
structure Principal where
  username : String
  roles : List String
deriving DecidableEq, Repr

def Principal.can (p : Principal) (capability : String) : Bool :=
  p.roles.any fun role => capability ∈ roleCapabilities role

/-! ## The audit guard -/

def maxReasonLength : ℕ := 512

def reasonRequiredMessage : String := "reason is required for write actions"

/-- `str.split()`: the runs of characters that are not white space -/
def words (s : String) : List (List Char) := (s.toList.splitOnP isSpace).filter fun w => !w.isEmpty

/-- `normalise_reason`; `none` is the refusal of a blank reason -/
def normaliseReason (reason : String) : Option String :=
  let flattened := [' '].intercalate (words reason)
  if flattened = [] then none
  else if maxReasonLength < flattened.length then
    some (String.ofList (flattened.take (maxReasonLength - 3)) ++ "...")
  else some (String.ofList flattened)

inductive AuditOutcome where
  | success | failure
deriving DecidableEq, Repr

/-- one record of a restart step; action type and target kind are fixed -/
structure AuditRecord where
  actor : String
  actorRoles : List String
  targetCluster : String
  reason : String
  outcome : AuditOutcome
  errorMessage : Option String
deriving DecidableEq, Repr

theorem words_eq_nil (s : String) : words s = [] ↔ blank s = true := by
  simp only [words, blank, List.filter_eq_nil_iff, Bool.not_eq_true', Bool.not_eq_false, List.isEmpty_iff,
    List.all_eq_true]
  generalize s.toList = l
  induction l with
  | nil => simp
  | cons c l ih =>
    rw [List.splitOnP_cons_eq_if_modifyHead]
    split_ifs with hc
    · simpa [hc] using ih
    · -- the first piece now starts with `c`
      obtain ⟨w, ws, hw⟩ := List.exists_cons_of_ne_nil (List.splitOnP_ne_nil isSpace l)
      simp [hw, hc]

theorem normaliseReason_isSome (reason : String) : (normaliseReason reason).isSome = !blank reason := by
  have flat : [' '].intercalate (words reason) = [] ↔ blank reason = true := by
    rw [← words_eq_nil]
    cases h : words reason with
    | nil => simp [List.intercalate]
    | cons w ws =>
      have hw : w ≠ [] := by
        have : w ∈ words reason := by rw [h]; exact List.mem_cons_self
        simpa [words] using (List.mem_filter.1 this).2
      cases ws <;> simp [List.intercalate, hw]
  unfold normaliseReason
  dsimp only
  split_ifs with h
  · simp [flat.1 h]
  · simp [show blank reason = false by simpa [flat] using h]
  · simp [show blank reason = false by simpa [flat] using h]

end TrinoManagement.Audit
