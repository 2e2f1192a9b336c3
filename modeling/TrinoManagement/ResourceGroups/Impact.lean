/-
What a deletion would take along, as the screen shows it beforehand: `load_configured` and `deletion_impact` of
`tms/ops/config_store.py`. The preview goes by dotted paths; the deletion goes by ids, and the schema takes along what hangs
below.
-/
import Mathlib.Tactic
import TrinoManagement.Core.Text
import TrinoManagement.ResourceGroups.Store

namespace TrinoManagement.ResourceGroups

open TrinoManagement.Text

/-- a row id as a caller has it: the number, or the text that stands in a request's path -/
inductive RowId where
  | number (id : ℤ)
  | text (text : String)
deriving DecidableEq, Repr

/-- the row of that id -/
def RowId.Names (row : RowId) (id : ℤ) : Prop := row = .number id ∨ row = .text (toString id)

/-- `g.get("row_id") == row_id`; no number equals a text -/
def RowId.is (row : RowId) (g : GroupView) : Bool :=
  match row with
  | .number id => g.rowId = id
  | .text _ => false

def Tree.empty : Tree where
  groups := []
  selectors := []
  shaped := ⟨by simp, by simp, .nil, by simp⟩

/-- `load_configured`, up to the error and the advice that come with it; reading never raises -/
def loadConfigured (fetched : String → Except SqlError Tree) (environment : String) : Tree :=
  if strip environment = "" then .empty
  else
    match fetched (strip environment) with
    | .ok tree => tree
    | .error _ => .empty

structure Impact where
  group : Option GroupView
  groups : List GroupView
  selectors : List SelectorView
deriving DecidableEq, Repr

/-- `deletion_impact` -/
def deletionImpact (fetched : String → Except SqlError Tree) (environment : String) (row : RowId) : Impact :=
  let tree := loadConfigured fetched environment
  match tree.groups.find? row.is with
  | none => ⟨none, [], []⟩
  | some target =>
    let doomed := tree.groups.filter fun g => g.id = target.id ∨ (target.id ++ ".").toList <+: g.id.toList
    ⟨some target, doomed, tree.selectors.filter fun s => s.target ∈ doomed.map GroupView.id⟩

end TrinoManagement.ResourceGroups
