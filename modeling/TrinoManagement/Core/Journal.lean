/-
Journals: what a history of changes, each with the value before and after it, says about the value that is there.

`Accounts a log b` says that the entries lead from `a` to `b` one after the other: the first starts at `a`, every other one
where the one before it ended, and the last ends at `b`.
- `accounts_append`: a journal can be cut anywhere; the value at the cut is the same on both sides.
- `Accounts.starts`: the value from which a journal starts is still there, or the journal's first entry has it.
- `Follows`: the same for a value that is unknown at first, with nothing logged until it is known.
- `run_accounts`: a system whose every step either leaves the value or appends one entry for it is accounted for by its
  history, over every run.
-/
import Mathlib.Tactic
import TrinoManagement.Core.Run

namespace TrinoManagement.Journal

open TrinoManagement.Run (Meets run)

/-- a change: the value before it and the value after it -/
structure Entry (α : Type*) where
  before : α
  after : α
deriving DecidableEq, Repr

/-- the entries lead from one value to the other -/
inductive Accounts {α : Type*} : α → List (Entry α) → α → Prop where
  | nil {a : α} : Accounts a [] a
  | cons {a b c : α} {log : List (Entry α)} (hrest : Accounts b log c) : Accounts a (⟨a, b⟩ :: log) c

section Accounts

variable {α : Type*} {a b c : α} {log log' : List (Entry α)}

@[simp] theorem accounts_nil : Accounts a [] b ↔ a = b := by
  constructor
  · intro h
    cases h
    rfl
  · rintro rfl
    exact .nil

@[simp] theorem accounts_cons {entry : Entry α} : Accounts a (entry :: log) c ↔ entry.before = a ∧ Accounts entry.after log c := by
  constructor
  · intro h
    cases h with
    | cons hrest => exact ⟨rfl, hrest⟩
  · rintro ⟨rfl, hrest⟩
    exact .cons hrest

theorem accounts_append : Accounts a (log ++ log') c ↔ ∃ b, Accounts a log b ∧ Accounts b log' c := by
  induction log generalizing a with
  | nil => simp
  | cons entry log ih => simp [ih, and_assoc]

theorem Accounts.trans (h : Accounts a log b) (h' : Accounts b log' c) : Accounts a (log ++ log') c :=
  accounts_append.2 ⟨b, h, h'⟩

/-- where the entries lead is one value -/
theorem Accounts.unique (h : Accounts a log b) (h' : Accounts a log c) : b = c := by
  induction h with
  | nil => exact accounts_nil.1 h'
  | cons _ ih => exact ih (accounts_cons.1 h').2

theorem Accounts.starts (h : Accounts a log b) : a = b ∨ ∃ entry ∈ log, entry.before = a := by
  cases h with
  | nil => exact .inl rfl
  | cons hrest => exact .inr ⟨_, List.mem_cons_self, rfl⟩

/-- what holds at the start and after every entry holds before every entry -/
theorem Accounts.before_of_after {P : α → Prop} (h : Accounts a log b) (ha : P a) (hafter : ∀ entry ∈ log, P entry.after) :
    P b ∧ ∀ entry ∈ log, P entry.before := by
  induction h with
  | nil => exact ⟨ha, by simp⟩
  | cons _ ih =>
    obtain ⟨hb, hbefore⟩ := ih (hafter _ List.mem_cons_self) fun entry hentry => hafter entry (List.mem_cons_of_mem _ hentry)
    refine ⟨hb, ?_⟩
    intro entry hentry
    rcases List.mem_cons.1 hentry with rfl | hentry
    · exact ha
    · exact hbefore entry hentry

/-- a value that may be unknown: from where it is known on, the entries lead to what it is -/
def Follows {α : Type*} : Option α → List (Entry α) → Option α → Prop
  | some a, log, c => ∃ b, c = some b ∧ Accounts a log b
  | none, log, c => (c = none ∧ log = []) ∨ ∃ a b, c = some b ∧ Accounts a log b

theorem follows_refl (c : Option α) : Follows c [] c := by
  cases c with
  | none => exact .inl ⟨rfl, rfl⟩
  | some a => exact ⟨a, rfl, .nil⟩

theorem Follows.trans {x y z : Option α} (h : Follows x log y) (h' : Follows y log' z) : Follows x (log ++ log') z := by
  cases x with
  | some a =>
    obtain ⟨b, rfl, hab⟩ := h
    obtain ⟨c, rfl, hbc⟩ := h'
    exact ⟨c, rfl, hab.trans hbc⟩
  | none =>
    rcases h with ⟨rfl, rfl⟩ | ⟨a, b, rfl, hab⟩
    · exact h'
    · obtain ⟨c, rfl, hbc⟩ := h'
      exact .inr ⟨a, c, rfl, hab.trans hbc⟩

/-- what is known leads on from the last entry -/
theorem Follows.last {x : Option α} {entry : Entry α} (h : Follows x (log ++ [entry]) (some b)) : entry.after = b := by
  have hlast : ∀ a, Accounts a (log ++ [entry]) b → entry.after = b := by
    intro a haccounts
    obtain ⟨c, -, hentry⟩ := accounts_append.1 haccounts
    exact accounts_nil.1 (accounts_cons.1 hentry).2
  cases x with
  | some a =>
    obtain ⟨c, hc, haccounts⟩ := h
    obtain rfl := Option.some.inj hc
    exact hlast a haccounts
  | none =>
    rcases h with ⟨-, hnil⟩ | ⟨a, c, hc, haccounts⟩
    · simp at hnil
    · obtain rfl := Option.some.inj hc
      exact hlast a haccounts

end Accounts

section Runs

variable {S L α : Type*} {step : S → L → S} {ok : S → L → Prop} {view : S → α} {history : S → List (Entry α)} {s : S}
  {ls : List L}

/-- a step leaves the value and the history alone, or has one entry for what it does to the value -/
def Logs (step : S → L → S) (view : S → α) (history : S → List (Entry α)) (s : S) (l : L) : Prop :=
  ∃ entries, history (step s l) = history s ++ entries ∧ Accounts (view s) entries (view (step s l))

/-- **A history accounts for a run.** -/
theorem run_accounts (hstep : ∀ s l, ok s l → Logs step view history s l) (h : Meets step ok s ls) :
    ∃ entries, history (run step s ls) = history s ++ entries ∧ Accounts (view s) entries (view (run step s ls)) := by
  induction ls generalizing s with
  | nil => exact ⟨[], (List.append_nil _).symm, .nil⟩
  | cons l ls ih =>
    obtain ⟨first, hfirst, haccounts⟩ := hstep s l h.1
    obtain ⟨rest, hrest, haccounts'⟩ := ih h.2
    refine ⟨first ++ rest, ?_, haccounts.trans haccounts'⟩
    rw [Run.run_cons, hrest, hfirst, List.append_assoc]

end Runs

end TrinoManagement.Journal
