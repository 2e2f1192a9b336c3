/-
The current password, over every sequence of logins and changes of any users.

A change puts a new hash in the place of the old one; a hash is a text, read again at every login. The password of an account
is the one of its last accepted change, or the one in the configuration.
- `Accepts`: what the password of an account is, in terms of the changes so far. A password is told apart from another one
  as far as the key derivation does.
- `Holds`: what the hash that is stored has to do with it; `visit_holds`: one visit keeps it.
- `current_password`: that password is accepted, and no other; and whoever changed it knew the one before.
-/
import Mathlib.Tactic
import TrinoManagement.Auth.Passwords
import TrinoManagement.Core.Run

namespace TrinoManagement.Auth

open TrinoManagement.Run (Each each_nil each_snoc meets_of_forall run run_inv)

/-! ## Visits -/

/-- an accepted change, with the password that was typed for it and the salt that was drawn -/
structure Change where
  username : String
  old : String
  new : String
  salt : List UInt8
deriving DecidableEq, Repr

structure Desk where
  now : ℚ
  accounts : Accounts
  changes : List Change

/-- a login, or a change to a new password -/
structure Visit where
  pace : Pace
  dummy : String
  username : String
  password : String
  new : Option (String × List UInt8)

section Visits

variable (lib : Passwords) (initial : Dict LocalUser)

def Desk.visit (d : Desk) (v : Visit) : Desk :=
  let r := v.pace.readings d.now
  match v.new with
  | none => ⟨r.asked, (d.accounts.login lib v.dummy r v.username v.password).2, d.changes⟩
  | some (new, salt) =>
    let (result, accounts) := d.accounts.changePassword lib v.dummy r salt v.username v.password new
    ⟨r.asked, accounts, d.changes ++
      match result with
      | .ok _ => [⟨v.username, v.password, new, salt⟩]
      | .error _ => []⟩

/-- the accounts of the configuration, and nobody has tried yet -/
def Desk.start (now : ℚ) : Desk := ⟨now, ⟨⟨[]⟩, initial⟩, []⟩

/-! ## The password of an account -/

/-- the last change of an account -/
def lastOf (changes : List Change) (username : String) : Option Change :=
  (changes.filter fun c => c.username = username).getLast?

/-- the key derivation makes the same key of both -/
def SameKey (salt : List UInt8) (password password' : String) : Prop :=
  ∃ key, lib.derive password salt defaultIterations = .ok key ∧ lib.derive password' salt defaultIterations = .ok key

/-- the account exists, and this is its password -/
def Accepts (changes : List Change) (username password : String) : Prop :=
  match lastOf changes username with
  | none => ∃ user, initial.lookup username = some user ∧ lib.verify password user.passwordHash = .ok true
  | some c => password ≠ "" ∧ SameKey lib c.salt c.new password

/-- whoever changes a password knows it, and the new one is another one and strong enough -/
def Entitled (before : List Change) (c : Change) : Prop :=
  Accepts lib initial before c.username c.old ∧ c.old ≠ c.new ∧ lib.checkStrength c.new = none

variable {lib initial}

theorem lastOf_snoc (changes : List Change) (c : Change) (username : String) :
    lastOf (changes ++ [c]) username = if c.username = username then some c else lastOf changes username := by
  unfold lastOf
  rw [List.filter_append]
  by_cases h : c.username = username
  · simp [h]
  · simp [h]

theorem verify_iff {salt : List UInt8} {password encoded attempt : String} (h : lib.hashPassword salt password = .ok encoded) :
    lib.verify attempt encoded = .ok true ↔ attempt ≠ "" ∧ SameKey lib salt password attempt := by
  obtain ⟨-, key, hkey, hverify⟩ := @Passwords.verify_hash lib salt password encoded attempt h
  rw [hverify]
  by_cases hempty : attempt = ""
  · simp [hempty]
  · rw [if_neg hempty]
    simp only [SameKey, hkey, Except.ok.injEq, exists_eq_left', ne_eq, hempty, not_false_eq_true, true_and]
    cases lib.derive attempt salt defaultIterations with
    | error e => simp [Except.map]
    | ok key' => simp [Except.map]

/-- what is stored of an account: the configured user, or that user with the hash of the last change -/
def Stored (lib : Passwords) (initial : Dict LocalUser) (changes : List Change) (users : Dict LocalUser) (username : String) : Prop :=
  match lastOf changes username with
  | none => users.lookup username = initial.lookup username
  | some c => ∃ first encoded, initial.lookup username = some first ∧ lib.hashPassword c.salt c.new = .ok encoded ∧
      users.lookup username = some { first with passwordHash := encoded, mustChangePassword := false }

/-- **What is stored accepts the account's password**, and nothing else. -/
theorem Stored.accepts {changes : List Change} {users : Dict LocalUser} {username password : String}
    (h : Stored lib initial changes users username) :
    (∃ user, users.lookup username = some user ∧ lib.verify password user.passwordHash = .ok true) ↔
      Accepts lib initial changes username password := by
  unfold Stored at h
  unfold Accepts
  cases hlast : lastOf changes username with
  | none =>
    rw [hlast] at h
    dsimp only at h ⊢
    rw [h]
  | some c =>
    rw [hlast] at h
    obtain ⟨first, encoded, -, hhash, huser⟩ := h
    dsimp only
    rw [huser, ← verify_iff hhash]
    simp

structure Holds (lib : Passwords) (initial : Dict LocalUser) (d : Desk) : Prop where
  stored : ∀ username, Stored lib initial d.changes d.accounts.users username
  entitled : Each (Entitled lib initial) d.changes

theorem holds_start (now : ℚ) : Holds lib initial (Desk.start initial now) where
  stored _ := rfl
  entitled := each_nil

/-- **One visit.** -/
theorem visit_holds {d : Desk} (h : Holds lib initial d) (v : Visit) : Holds lib initial (d.visit lib v) := by
  cases hnew : v.new with
  | none =>
    unfold Desk.visit
    rw [hnew]
    exact ⟨h.stored, h.entitled⟩
  | some request =>
    obtain ⟨new, salt⟩ := request
    have hcases := @Accounts.change_cases lib d.accounts v.dummy v.username v.password new (v.pace.readings d.now) salt
    unfold Desk.visit
    rw [hnew]
    dsimp only
    rcases hcases with ⟨husers, e, he⟩ | ⟨user, encoded, huser, hverify, hother, hstrong, hhash, hok, husers⟩
    · rw [he]
      dsimp only
      rw [List.append_nil]
      refine ⟨?_, h.entitled⟩
      dsimp only
      rw [husers]
      exact h.stored
    · rw [hok]
      refine ⟨?_, ?_⟩
      · intro username
        have hstored := h.stored username
        unfold Stored at hstored ⊢
        dsimp only
        rw [lastOf_snoc, husers, Dict.lookup_set]
        by_cases hsame : v.username = username
        · subst hsame
          rw [if_pos rfl, if_pos rfl]
          cases hlast : lastOf d.changes v.username with
          | none =>
            rw [hlast] at hstored
            exact ⟨user, encoded, hstored.symm.trans huser, hhash, rfl⟩
          | some c =>
            rw [hlast] at hstored
            obtain ⟨first, _, hfirst, -, hlookup⟩ := hstored
            obtain rfl := Option.some.inj (hlookup.symm.trans huser)
            exact ⟨first, encoded, hfirst, hhash, rfl⟩
        · have hsame' : ¬ username = v.username := fun heq => hsame heq.symm
          rw [if_neg hsame, if_neg hsame']
          exact hstored
      · exact each_snoc.2 ⟨h.entitled, (h.stored v.username).accepts.1 ⟨user, huser, hverify⟩, hother, hstrong⟩

end Visits

/-- **The current password.** After any logins and changes of any users, whoever is not locked out is let in by a password
exactly when it is the one of the last accepted change of the account, or the configured one where there was none, as far as
the key derivation tells passwords apart; and every accepted change was made by someone who knew the password at that time,
to another password that is strong enough. -/
theorem current_password (lib : Passwords) (initial : Dict LocalUser) (now : ℚ) (visits : List Visit) :
    let d := run (Desk.visit lib) (Desk.start initial now) visits
    (∀ username password dummy r, (∃ user, (d.accounts.login lib dummy r username password).1 = .ok user) ↔
      (d.accounts.authenticator.isLocked username r.checked).1 = false ∧ Accepts lib initial d.changes username password) ∧
    Each (Entitled lib initial) d.changes := by
  intro d
  have h : Holds lib initial d :=
    run_inv (Holds lib initial) (fun _ v hd _ => visit_holds hd v) (meets_of_forall (p := fun _ => True) fun _ _ => trivial)
      (holds_start now)
  refine ⟨?_, h.entitled⟩
  intro username password dummy r
  rw [Accounts.login_iff, (h.stored username).accepts]

end TrinoManagement.Auth
