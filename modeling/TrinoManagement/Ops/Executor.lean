/-
The executors of a restart, `tms/ops/ansible.py` and `tms/ops/executor.py`, and the service together with one.

`Ops.World` lets the outside answer anything about a restart under way. Here the answers come from the runs an
`AnsibleRestartExecutor` keeps: a playbook thread appends lines and at last sets the final state, and the service reads
both.

- `Site`: the world, the runs and the resource group store. `serve` answers every effect from it, with storage, the
  audit store and the Gateway working.
- `serve_request`: a request at a site is a request in its world under some oracles, so what is proved of every run of
  the world holds here.
-/
import Mathlib.Tactic
import TrinoManagement.Core.Number
import TrinoManagement.Ops.World

namespace TrinoManagement.Service

open TrinoManagement.Repository TrinoManagement.Sequence

/-! ## Playbook runs -/

/-- one entry of `_runs`, less its thread and its command -/
structure PlaybookRun where
  state : ExecState
  lines : List String
  error : Option String
deriving DecidableEq, Repr

/-- what the runner returns -/
structure PlaybookResult where
  rc : Option ℤ
  timedOut : Bool
  error : Option String
  /-- the lines of whole output that was not streamed, redacted -/
  trailing : List String
deriving DecidableEq, Repr

namespace PlaybookRun

/-- a run at its start -/
def launched : PlaybookRun := ⟨.running, [], none⟩

/-- `collect` -/
def collect (run : PlaybookRun) (line : String) : PlaybookRun := { run with lines := run.lines ++ [line] }

/-- the end of `work`; everything in it happens under the lock -/
def finish (timeoutSeconds : ℚ) (run : PlaybookRun) (result : PlaybookResult) : PlaybookRun :=
  let run := { run with lines := run.lines ++ result.trailing }
  if result.timedOut then
    { run with state := .failed
               error := some ("the playbook did not finish within " ++ fixed 0 timeoutSeconds ++ "s") }
  else if result.rc = some 0 then { run with state := .succeeded }
  else
    let exited := "ansible-playbook exited " ++ (result.rc.map toString).getD "None"
    { run with state := .failed, error := some (if result.error.getD "" ≠ "" then result.error.getD "" else exited) }

end PlaybookRun

/-- the runs by sequence -/
abbrev Runs := ℕ → Option PlaybookRun

/-- `status` -/
def execStatus (runs : Runs) (id : ℕ) : ExecState := (runs id).elim .unknown (·.state)

/-- `lines_since` -/
def linesSince (runs : Runs) (id index : ℕ) : List String := (runs id).elim [] (·.lines.drop index)

/-- `result(sequence_id).get("error")` -/
def execError (runs : Runs) (id : ℕ) : Option String := (runs id).bind (·.error)

/-- `start`: launched once; a run under way or done is left alone -/
def execStart (runs : Runs) (id : ℕ) : ExecState × Runs :=
  match runs id with
  | some run =>
    if run.state = .running ∨ run.state = .succeeded then (run.state, runs)
    else (.running, Function.update runs id (some .launched))
  | none => (.running, Function.update runs id (some .launched))

/-! ## The service with its executor -/

structure Site where
  world : World
  runs : Runs
  /-- what the resource group store says of a node environment -/
  stores : String → Option Bool × String

/-- one effect -/
def serve (env : Env) : (e : Act) → Site → e.Answer × Site
  | .probe nodeEnvironment, s => (s.stores nodeEnvironment, s)
  | .execStatus _ id, s => (execStatus s.runs id, s)
  | .linesSince id shown, s => (linesSince s.runs id shown, s)
  | .execResult id, s => (execError s.runs id, s)
  | .execStart cluster id, s =>
    let started := if env.automated then execStart s.runs id else (.pendingOperator, s.runs)
    (.ok started.1,
      { s with world := { s.world with trace := .launched cluster id s.world.now :: s.world.trace }, runs := started.2 })
  | e, s => ((handle env .serves e s.world).1, { s with world := (handle env .serves e s.world).2 })

/-- a request, to its end -/
def Site.request (env : Env) (s : Site) (op : Op) : Except Exn View × Site :=
  Prog.exec (serve env) (op.prog env.toConfig) { s with world := s.world.called op }

/-- each answer of a site is one some oracle gives -/
theorem serve_oracle (env : Env) (e : Act) (s : Site) :
    ∃ o, handle env o e s.world = ((serve env e s).1, (serve env e s).2.world) := by
  cases e with
  | probe nodeEnvironment => exact ⟨{ Oracle.serves with probe := s.stores nodeEnvironment }, rfl⟩
  | execStatus cluster id => exact ⟨{ Oracle.serves with execStatus := execStatus s.runs id }, rfl⟩
  | linesSince id shown => exact ⟨{ Oracle.serves with lines := linesSince s.runs id shown }, rfl⟩
  | execResult id => exact ⟨{ Oracle.serves with execError := execError s.runs id }, rfl⟩
  | execStart cluster id =>
    exact ⟨{ Oracle.serves with
      execStart := .ok (if env.automated then execStart s.runs id else (.pendingOperator, s.runs)).1 }, rfl⟩
  | _ => exact ⟨.serves, rfl⟩

/-- **A site refines its world.** A request at a site is a step of the world under some oracles. -/
theorem serve_request (env : Env) (s : Site) (op : Op) :
    ∃ os, step env s.world (.call op os) = (s.request env op).2.world := by
  obtain ⟨os, hos⟩ := Prog.exec_run (p := op.prog env.toConfig) Site.world (fun e s => serve_oracle env e s)
    (s := { s with world := s.world.called op })
  exact ⟨os, congrArg Prod.snd hos⟩

end TrinoManagement.Service
