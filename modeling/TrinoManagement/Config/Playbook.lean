/-
Running a playbook over an inventory: the command, what the runner says of it, and the check the restart executor makes
before it runs one (`tms/ops/process.py`, `tms/ops/ansible.py`).

- `failure`: how the services judge a run; only exit code 0 is a success.
- `preflight`: the restart executor refuses an inventory that lists no hosts, for `ansible-playbook` would exit 0.
- `settle`: what that says of a run. A host pattern that matches no host ends with exit code 0.
-/
import Mathlib.Tactic
import TrinoManagement.Config.Edit
import TrinoManagement.Config.Inventory

namespace TrinoManagement.Playbook

open TrinoManagement.ConfigEdit (Role)
open TrinoManagement.Inventory

/-- an argument list, by its parts -/
structure Command where
  binary : String
  inventory : String
  playbook : String
  extraVars : List (String × String)
deriving DecidableEq, Repr

def Command.args (c : Command) : List String :=
  [c.binary, "--inventory", c.inventory, c.playbook] ++ c.extraVars.flatMap fun (k, v) => ["--extra-vars", k ++ "=" ++ v]

/-- what `stream_command` returns -/
structure RunResult where
  rc : Option ℤ
  error : Option String
  timedOut : Bool
deriving DecidableEq, Repr

/-- what a run that is not a success says of itself; the runner's exception is one -/
def failure : Except String RunResult → Option String
  | .error m => some m
  | .ok result =>
    if result.rc = some 0 then none
    else
      let exited := "ansible-playbook exited " ++ (result.rc.map toString).getD "None"
      some (if result.error.getD "" ≠ "" then result.error.getD "" else exited)

/-- the hosts of a role. That a playbook writes to these is an assumption: its `hosts` line asks for the group `worker` or
`coordinator` by just that name, and an inventory may call it `workers` -/
def Role.hosts (role : Role) (nodes : List Node) : List Node :=
  match role with
  | .all => nodes
  | .coordinator => nodes.filter (·.role == .coordinator)
  | .worker => nodes.filter (·.role == .worker)

/-- a run over these hosts: no host matched, then `ansible-playbook`, once it is started and ends, exits 0 -/
def settle (hosts : List Node) : Except String RunResult → Except String RunResult
  | .error m => .error m
  | .ok r => if hosts = [] ∧ r.rc.isSome then .ok { r with rc := some 0 } else .ok r

/-- the hosts a run has written to: all it was given once it is a success, as far as anybody has been told -/
def wrote (hosts : List Node) (result : Except String RunResult) : List Node :=
  if failure result = none then hosts else []

section Preflight

variable (py : Letters) (inventories : List (String × String)) (files : String → Option String)

/-- `AnsibleRestartExecutor.preflight`, of an executor that is not stubbed -/
def preflight (cluster : String) : Except String Unit :=
  match inventories.lookup cluster with
  | none => .error ("unknown cluster '" ++ cluster ++ "' - it has no configured inventory, so TMS will not target it")
  | some inventory =>
    if loadInventory py (files inventory) cluster = [] then
      .error (inventory ++ " lists no hosts for '" ++ cluster ++ "'. Ansible would match nothing and report success, so " ++
        "TMS will not run it. If TMS owns the node list, scan the coordinator on the Fleet screen first.")
    else .ok ()

/-- it lets a run go when the inventory lists a host -/
theorem preflight_ok {cluster : String} : preflight py inventories files cluster = .ok () ↔
    ∃ inventory ∈ inventories.lookup cluster, loadInventory py (files inventory) cluster ≠ [] := by
  unfold preflight
  cases inventories.lookup cluster with
  | none => simp
  | some inventory => simp

end Preflight

end TrinoManagement.Playbook
