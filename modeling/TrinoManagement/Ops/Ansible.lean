/-
The threads of an `AnsibleRestartExecutor`, `tms/ops/ansible.py` and `tms/ops/process.py`: each launch has a run object and
a thread, which feeds the runner's lines to it and at last writes how the playbook ended.

- `streamCommand`: the runner that is used, and what becomes of a line it cannot decode (`stream_raises`).
- `Executor`: the run objects by launch, and which of them is the run of a sequence. `step`: one thing happens.
- `runs_start`: on the runs as `Ops.Executor` has them, `start` is its `execStart`.
- `Launch.Sane`: what a run object says of its thread; every step keeps it.
-/
import Mathlib.Tactic
import TrinoManagement.Core.Text
import TrinoManagement.Ops.Executor

namespace TrinoManagement.Ansible

open TrinoManagement.Service (ExecState PlaybookResult PlaybookRun Runs execStart execStatus linesSince)
open TrinoManagement.Text

/-! ## The runner -/

/-- what becomes of starting a process -/
inductive Spawn where
  | osError (text : String)
  | raised (e : PyError)
  | started
deriving DecidableEq, Repr

/-- a process: its lines as they are read, each a text or the exception of decoding it -/
structure Process where
  spawn : Spawn
  stdout : List (Except PyError String)
  returncode : ℤ
  expired : Bool

/-- a runner returns, or it raises -/
inductive RunnerEnd where
  | returned (result : PlaybookResult)
  | raised (e : PyError)
deriving DecidableEq, Repr

/-- `raw.rstrip("\r\n")` -/
def chomp (raw : String) : String := String.ofList (raw.toList.rdropWhile fun c => c = '\r' ∨ c = '\n')

/-- the lines handed on until reading one raises -/
def readLines (redact : String → String) : List (Except PyError String) → List String × Option PyError
  | [] => ([], none)
  | .error e :: _ => ([], some e)
  | .ok raw :: rest =>
    let line := redact (chomp raw)
    let (lines, e) := readLines redact rest
    (if blank line then lines else line :: lines, e)

/-- `stream_command`: the lines it hands on, and how it ends -/
def streamCommand (redact : String → String) (p : Process) : List String × RunnerEnd :=
  match p.spawn with
  | .osError text => ([], .returned ⟨none, false, some text, []⟩)
  | .raised e => ([], .raised e)
  | .started =>
    match readLines redact p.stdout with
    | (lines, some e) => (lines, .raised e)
    | (lines, none) => (lines, .returned (if p.expired then ⟨none, true, none, []⟩ else ⟨some p.returncode, false, none, []⟩))

theorem readLines_raises (redact : String → String) (stdout : List (Except PyError String)) :
    (readLines redact stdout).2.isSome ↔ ∃ e, .error e ∈ stdout := by
  induction stdout with
  | nil => simp [readLines]
  | cons line rest ih =>
    cases line with
    | error e => simp [readLines]
    | ok raw => simpa [readLines] using ih

/-- **It raises** where the process cannot be started for another reason than the system's, or a line cannot be decoded. -/
theorem stream_raises (redact : String → String) (p : Process) : (∃ e, (streamCommand redact p).2 = .raised e) ↔
    (∃ e, p.spawn = .raised e) ∨ p.spawn = .started ∧ ∃ e, .error e ∈ p.stdout := by
  rw [← readLines_raises redact]
  unfold streamCommand
  cases p.spawn with
  | osError text => simp
  | raised e => simp
  | started =>
    rcases readLines redact p.stdout with ⟨lines, _ | e⟩
    · simp
    · simp

/-! ## Launches -/

/-- where a thread stands: in the runner, before the lock, or over; `raised` is the runner's exception, or that of `work`
over a result that is no such dict -/
inductive Phase where
  | live
  | returned (result : PlaybookResult)
  | ended (how : RunnerEnd)
deriving DecidableEq, Repr

/-- a run object and its thread -/
structure Launch where
  id : ℕ
  run : PlaybookRun
  phase : Phase
deriving DecidableEq, Repr

namespace Launch

variable (l : Launch)

/-- a line of the runner -/
def line (text : String) : Launch :=
  match l.phase with
  | .live => { l with run := l.run.collect text }
  | .returned _ | .ended _ => l

/-- the runner ends; nothing catches what it raises -/
def ends (how : RunnerEnd) : Launch :=
  match l.phase, how with
  | .live, .returned result => { l with phase := .returned result }
  | .live, .raised e => { l with phase := .ended (.raised e) }
  | .returned _, _ | .ended _, _ => l

/-- the end of `work`, under the lock -/
def settle (timeoutSeconds : ℚ) : Launch :=
  match l.phase with
  | .returned result => { l with run := l.run.finish timeoutSeconds result, phase := .ended (.returned result) }
  | .live | .ended _ => l

end Launch

/-- the launches in order, and which of them `_runs` holds for a sequence -/
structure Executor where
  launches : List Launch
  current : ℕ → Option ℕ

namespace Executor

variable (e : Executor)

/-- the run objects by sequence -/
def runs : Runs := fun id => (e.current id).bind fun i => e.launches[i]?.map (·.run)

def status (id : ℕ) : ExecState := execStatus e.runs id

/-- a new run object and its thread -/
def launch (id : ℕ) : Executor where
  launches := e.launches ++ [⟨id, .launched, .live⟩]
  current := Function.update e.current id (some e.launches.length)

/-- `start`, once the command is built -/
def start (id : ℕ) : ExecState × Executor :=
  match e.runs id with
  | some run => if run.state = .running ∨ run.state = .succeeded then (run.state, e) else (.running, e.launch id)
  | none => (.running, e.launch id)

end Executor

/-- no run yet -/
def init : Executor := ⟨[], fun _ => none⟩

/-! ## What happens -/

inductive Event where
  /-- `start`; the check before it may refuse -/
  | start (id : ℕ) (refused : Bool)
  | status (id : ℕ)
  | linesSince (id index : ℕ)
  /-- the runner of the `i`-th launch hands on a line, -/
  | line (i : ℕ) (text : String)
  /-- ends, -/
  | ends (i : ℕ) (how : RunnerEnd)
  /-- and its thread writes the result -/
  | settles (i : ℕ)
deriving DecidableEq, Repr

def Executor.on (e : Executor) (i : ℕ) (f : Launch → Launch) : Executor := { e with launches := e.launches.modify i f }

def step (timeoutSeconds : ℚ) (e : Executor) : Event → Executor
  | .start id refused => if refused then e else (e.start id).2
  | .status _ | .linesSince .. => e
  | .line i text => e.on i (·.line text)
  | .ends i how => e.on i (·.ends how)
  | .settles i => e.on i (·.settle timeoutSeconds)

/-! ## Run objects and their threads -/

/-- exit code 0, in time -/
def Success (result : PlaybookResult) : Prop := result.timedOut = false ∧ result.rc = some 0

instance : DecidablePred Success := fun _ => inferInstanceAs (Decidable (_ ∧ _))

/-- RUNNING until the thread has written the result; a thread that an exception ended has not -/
def Launch.Sane (l : Launch) : Prop :=
  match l.phase with
  | .live | .returned _ | .ended (.raised _) => l.run.state = .running
  | .ended (.returned result) => l.run.state = if Success result then .succeeded else .failed

theorem finish_state (timeoutSeconds : ℚ) (run : PlaybookRun) (result : PlaybookResult) :
    (run.finish timeoutSeconds result).state = if Success result then .succeeded else .failed := by
  obtain ⟨rc, timedOut, error, trailing⟩ := result
  unfold PlaybookRun.finish Success
  cases timedOut with
  | true => simp
  | false =>
    by_cases hrc : rc = some 0
    · simp [hrc]
    · simp [hrc]

namespace Launch

variable {l : Launch}

@[simp] theorem id_line (text : String) : (l.line text).id = l.id := by
  unfold line
  split <;> rfl

@[simp] theorem id_ends (how : RunnerEnd) : (l.ends how).id = l.id := by
  unfold ends
  split <;> rfl

@[simp] theorem id_settle (timeoutSeconds : ℚ) : (l.settle timeoutSeconds).id = l.id := by
  unfold settle
  split <;> rfl

/-- neither running nor a success: the thread is over, and the playbook has failed -/
theorem Sane.failed (h : l.Sane) (hidle : ¬(l.run.state = .running ∨ l.run.state = .succeeded)) :
    (∃ how, l.phase = .ended how) ∧ l.run.state = .failed := by
  obtain ⟨id, run, phase⟩ := l
  cases phase with
  | live => exact absurd (.inl h) hidle
  | returned result => exact absurd (.inl h) hidle
  | ended how =>
    cases how with
    | raised e => exact absurd (.inl h) hidle
    | returned result =>
      have hstate : run.state = if Success result then .succeeded else .failed := h
      by_cases hsuccess : Success result
      · rw [if_pos hsuccess] at hstate
        exact absurd (.inr hstate) hidle
      · rw [if_neg hsuccess] at hstate
        exact ⟨⟨_, rfl⟩, hstate⟩

theorem Sane.busy (h : l.Sane) (hlive : ∀ how, l.phase ≠ .ended how) : l.run.state = .running := by
  obtain ⟨id, run, phase⟩ := l
  cases phase with
  | live => exact h
  | returned result => exact h
  | ended how => exact absurd rfl (hlive how)

theorem sane_line (h : l.Sane) (text : String) : (l.line text).Sane := by
  obtain ⟨id, run, phase⟩ := l
  cases phase with
  | live => exact h
  | returned result => exact h
  | ended how => exact h

theorem sane_ends (h : l.Sane) (how : RunnerEnd) : (l.ends how).Sane := by
  obtain ⟨id, run, phase⟩ := l
  cases phase with
  | live => cases how <;> exact h
  | returned result => exact h
  | ended how => exact h

theorem sane_settle (h : l.Sane) (timeoutSeconds : ℚ) : (l.settle timeoutSeconds).Sane := by
  obtain ⟨id, run, phase⟩ := l
  cases phase with
  | live => exact h
  | returned result => exact finish_state timeoutSeconds run result
  | ended how => exact h

/-- a thread that is over changes nothing more -/
theorem ended_line {how : RunnerEnd} (h : l.phase = .ended how) (text : String) : l.line text = l := by
  simp [line, h]

theorem ended_ends {how how' : RunnerEnd} (h : l.phase = .ended how) : l.ends how' = l := by
  simp [ends, h]

theorem ended_settle {how : RunnerEnd} (h : l.phase = .ended how) (timeoutSeconds : ℚ) : l.settle timeoutSeconds = l := by
  simp [settle, h]

end Launch

/-- **On the runs alone**, `start` is the executor's. -/
theorem runs_start (e : Executor) (id : ℕ) (hcurrent : ∀ id i, e.current id = some i → i < e.launches.length) :
    ((e.start id).1, (e.start id).2.runs) = execStart e.runs id := by
  have hlaunch : (e.launch id).runs = Function.update e.runs id (some .launched) := by
    funext id'
    by_cases hid : id' = id
    · subst hid
      simp [Executor.launch, Executor.runs]
    · simp only [Executor.launch, Executor.runs, Function.update_of_ne hid]
      cases hi : e.current id' with
      | none => rfl
      | some i => simp [List.getElem?_append_left (hcurrent id' i hi)]
  unfold Executor.start execStart
  cases e.runs id with
  | none => simp [hlaunch]
  | some run =>
    dsimp only
    split_ifs
    · rfl
    · simp [hlaunch]

end TrinoManagement.Ansible
