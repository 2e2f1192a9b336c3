/-
Local accounts, `tms/core/localauth.py`: a login is verified unless too many have failed lately.

- `Authenticator`: the failures it remembers; `isLocked`, `recordFailure`, `secondsUntilUnlock`.
- `authenticate`: one login attempt, with the two readings of the clock it takes.
- `authenticate_spec`: the inversion lemma of an attempt, in terms of what is remembered for the user.
-/
import Mathlib.Tactic
import TrinoManagement.Core.Dict
import TrinoManagement.Core.Number
import TrinoManagement.Core.Window

namespace TrinoManagement.Auth

open TrinoManagement.Window (recent recent_recent)

/-- `MAX_FAILED_ATTEMPTS` -/
def maxFailedAttempts : ℕ := 5

/-- `LOCKOUT_SECONDS` -/
def lockoutSeconds : ℚ := 300

structure LocalUser where
  username : String
  passwordHash : String
  roles : List String
  mustChangePassword : Bool
deriving DecidableEq, Repr

inductive AuthError where
  | invalidCredentials (message : String)
  | accountLocked (message : String)
  /-- what the key derivation raises, as for a password that is no valid Unicode -/
  | raised (e : PyError)
deriving DecidableEq, Repr

/-- the clock as one attempt reads it: for the lock test, and again for the answer or the record; the password is
verified in between -/
structure Readings where
  checked : ℚ
  verified : ℚ
  asked : ℚ
  checked_le : checked ≤ verified
  verified_le : verified ≤ asked
deriving DecidableEq

/-! ## The authenticator -/

/-- the time until the oldest failure no longer counts -/
def untilUnlock (attempts : List ℚ) (now : ℚ) : ℚ :=
  match attempts with
  | [] => 0
  | oldest :: _ => max 0 (lockoutSeconds - (now - oldest))

/-- `_failures` -/
structure Authenticator where
  failures : Dict (List ℚ)
deriving DecidableEq, Repr

namespace Authenticator

variable (a : Authenticator) (username : String)

/-- `self._failures.get(username, [])` -/
def attempts : List ℚ := (a.failures.lookup username).getD []

def recordFailure (now : ℚ) : Authenticator :=
  ⟨a.failures.set username (recent lockoutSeconds now (a.attempts username) ++ [now])⟩

/-- whether the user is locked out; older failures are dropped on the way -/
def isLocked (now : ℚ) : Bool × Authenticator :=
  let attempts := recent lockoutSeconds now (a.attempts username)
  (decide (maxFailedAttempts ≤ attempts.length), ⟨a.failures.set username attempts⟩)

def secondsUntilUnlock (now : ℚ) : ℚ := untilUnlock (a.attempts username) now

/-- `self._failures.pop(username, None)` -/
def forget : Authenticator := ⟨a.failures.pop username⟩

def incorrect : String := "Incorrect username or password."

/-- one attempt; `verify` is `verify_password`. An unknown user takes as long as a wrong password (`dummy` is the hash
verified instead) and counts like one -/
def authenticate (verify : String → String → Except PyError Bool) (dummy : String) (users : String → Option LocalUser)
    (r : Readings) (password : String) : Except AuthError LocalUser × Authenticator :=
  let (locked, a) := a.isLocked username r.checked
  if locked then
    (.error (.accountLocked ("Account is locked. Try again in " ++ fixed 0 (a.secondsUntilUnlock username r.asked) ++
      " seconds.")), a)
  else
    match users username with
    | none =>
      match verify password dummy with
      | .error e => (.error (.raised e), a)
      | .ok _ => (.error (.invalidCredentials incorrect), a.recordFailure username r.asked)
    | some user =>
      match verify password user.passwordHash with
      | .error e => (.error (.raised e), a)
      | .ok false => (.error (.invalidCredentials incorrect), a.recordFailure username r.asked)
      | .ok true => (.ok user, a.forget username)

/-! ### What is remembered -/

theorem attempts_set (ts : List ℚ) (username' : String) :
    (⟨a.failures.set username ts⟩ : Authenticator).attempts username' =
      if username' = username then ts else a.attempts username' := by
  rw [attempts, Dict.lookup_set]
  split_ifs <;> rfl

theorem attempts_recordFailure (now : ℚ) (username' : String) :
    (a.recordFailure username now).attempts username' =
      if username' = username then recent lockoutSeconds now (a.attempts username) ++ [now] else a.attempts username' :=
  attempts_set a username _ username'

theorem attempts_isLocked (now : ℚ) (username' : String) :
    (a.isLocked username now).2.attempts username' =
      if username' = username then recent lockoutSeconds now (a.attempts username) else a.attempts username' :=
  attempts_set a username _ username'

theorem attempts_forget (username' : String) :
    (a.forget username).attempts username' = if username' = username then [] else a.attempts username' := by
  rw [forget, attempts, Dict.lookup_pop]
  split_ifs <;> rfl

end Authenticator

/-! ## What an attempt does -/

/-- refused with the seconds to wait, verified and failed, verified and admitted, or broken off -/
inductive Outcome where
  | locked (remaining : ℚ) | failed | admitted | broke
deriving DecidableEq, Repr

/-- how an attempt ended; `remaining` is what `seconds_until_unlock` said -/
def outcome (remaining : ℚ) : Except AuthError LocalUser → Outcome
  | .ok _ => .admitted
  | .error (.invalidCredentials _) => .failed
  | .error (.accountLocked _) => .locked remaining
  | .error (.raised _) => .broke

/-- an attempt with the user's failures `old`, which leaves `new` -/
inductive Tries (r : Readings) (old : List ℚ) : Outcome → List ℚ → Prop
  | locked (h : maxFailedAttempts ≤ (recent lockoutSeconds r.checked old).length) :
    Tries r old (.locked (untilUnlock (recent lockoutSeconds r.checked old) r.asked)) (recent lockoutSeconds r.checked old)
  | failed (h : (recent lockoutSeconds r.checked old).length < maxFailedAttempts) :
    Tries r old .failed (recent lockoutSeconds r.asked old ++ [r.asked])
  | admitted (h : (recent lockoutSeconds r.checked old).length < maxFailedAttempts) : Tries r old .admitted []
  | broke (h : (recent lockoutSeconds r.checked old).length < maxFailedAttempts) :
    Tries r old .broke (recent lockoutSeconds r.checked old)

variable {verify : String → String → Except PyError Bool} {dummy : String} {users : String → Option LocalUser} {r : Readings}
  {a : Authenticator} {username password : String}

/-- a verification that failed -/
theorem tries_recordFailure (hlocked : (a.isLocked username r.checked).1 = false) :
    Tries r (a.attempts username) .failed
        (((a.isLocked username r.checked).2.recordFailure username r.asked).attempts username) ∧
      ∀ username', username' ≠ username →
        ((a.isLocked username r.checked).2.recordFailure username r.asked).attempts username' = a.attempts username' := by
  have hfew : (recent lockoutSeconds r.checked (a.attempts username)).length < maxFailedAttempts := by
    simpa [Authenticator.isLocked] using hlocked
  refine ⟨?_, fun username' hne => ?_⟩
  · rw [Authenticator.attempts_recordFailure, if_pos rfl, Authenticator.attempts_isLocked, if_pos rfl,
      recent_recent (r.checked_le.trans r.verified_le)]
    exact .failed hfew
  · rw [Authenticator.attempts_recordFailure, if_neg hne, Authenticator.attempts_isLocked, if_neg hne]

/-- **One attempt**: what it makes of the user's failures, and that it leaves the others' alone. -/
theorem authenticate_spec {result : Except AuthError LocalUser} {a' : Authenticator}
    (h : a.authenticate username verify dummy users r password = (result, a')) :
    Tries r (a.attempts username) (outcome (a'.secondsUntilUnlock username r.asked) result) (a'.attempts username) ∧
      ∀ username', username' ≠ username → a'.attempts username' = a.attempts username' := by
  have hpruned : (a.isLocked username r.checked).2.attempts username =
      recent lockoutSeconds r.checked (a.attempts username) := by
    rw [Authenticator.attempts_isLocked, if_pos rfl]
  have hothers : ∀ username', username' ≠ username →
      (a.isLocked username r.checked).2.attempts username' = a.attempts username' := by
    intro username' hne
    rw [Authenticator.attempts_isLocked, if_neg hne]
  unfold Authenticator.authenticate at h
  cases hlocked : (a.isLocked username r.checked).1 with
  | true =>
    have hmany : maxFailedAttempts ≤ (recent lockoutSeconds r.checked (a.attempts username)).length := by
      simpa [Authenticator.isLocked] using hlocked
    simp only [hlocked, if_true] at h
    obtain ⟨rfl, rfl⟩ := Prod.mk.inj h
    rw [outcome, Authenticator.secondsUntilUnlock, hpruned]
    exact ⟨.locked hmany, hothers⟩
  | false =>
    have hfew : (recent lockoutSeconds r.checked (a.attempts username)).length < maxFailedAttempts := by
      simpa [Authenticator.isLocked] using hlocked
    have hbroke : Tries r (a.attempts username) .broke ((a.isLocked username r.checked).2.attempts username) ∧
        ∀ username', username' ≠ username → (a.isLocked username r.checked).2.attempts username' = a.attempts username' :=
      ⟨hpruned ▸ .broke hfew, hothers⟩
    simp only [hlocked, Bool.false_eq_true, if_false] at h
    cases huser : users username with
    | none =>
      cases hverify : verify password dummy with
      | error e =>
        simp only [huser, hverify] at h
        obtain ⟨rfl, rfl⟩ := Prod.mk.inj h
        exact hbroke
      | ok right =>
        simp only [huser, hverify] at h
        obtain ⟨rfl, rfl⟩ := Prod.mk.inj h
        exact tries_recordFailure hlocked
    | some user =>
      cases hverify : verify password user.passwordHash with
      | error e =>
        simp only [huser, hverify] at h
        obtain ⟨rfl, rfl⟩ := Prod.mk.inj h
        exact hbroke
      | ok right =>
        cases right with
        | false =>
          simp only [huser, hverify] at h
          obtain ⟨rfl, rfl⟩ := Prod.mk.inj h
          exact tries_recordFailure hlocked
        | true =>
          simp only [huser, hverify] at h
          obtain ⟨rfl, rfl⟩ := Prod.mk.inj h
          refine ⟨?_, fun username' hne => ?_⟩
          · rw [Authenticator.attempts_forget, if_pos rfl]
            exact .admitted hfew
          · rw [Authenticator.attempts_forget, if_neg hne, hothers username' hne]

end TrinoManagement.Auth
