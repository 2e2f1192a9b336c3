/-
Passwords of local accounts: the stored hash of `tms/core/passwords.py`, and `change_password` of `tms/core/localauth.py`.

A hash is `pbkdf2_sha256$<iterations>$<salt>$<key>`, the last two in base64, and carries all it takes to verify a password.
- `verify_hash`: what a stored hash says of a password is what the key derivation says of it.
- `login_iff`: who is let in.
- `changePassword`: a login, and then a new hash in place of the old one.
- `change_cases`: all that it may do to the accounts.
-/
import Mathlib.Tactic
import TrinoManagement.Auth.Local
import TrinoManagement.Core.Base64
import TrinoManagement.Core.Dict
import TrinoManagement.Core.Number

namespace TrinoManagement.Auth

/-- PBKDF2-HMAC-SHA256 of a text's UTF-8, and Python's letters -/
structure Passwords where
  derive : String → List UInt8 → ℤ → Except PyError (List UInt8)
  isLower : Char → Bool
  isUpper : Char → Bool
  isDigit : Char → Bool
  isAlnum : Char → Bool

/-! ## Stored hashes -/

/-- `ALGORITHM` -/
def algorithm : String := "pbkdf2_sha256"

/-- `DEFAULT_ITERATIONS` -/
def defaultIterations : ℤ := 600000

/-- `MIN_PASSWORD_LENGTH` -/
def minPasswordLength : ℕ := 12

/-- the text of a hash -/
def hashText (salt key : List UInt8) : String :=
  String.ofList (['$'].intercalate
    [algorithm.toList, (toString defaultIterations).toList, Base64.standard salt, Base64.standard key])

/-- a `PasswordError` -/
inductive HashError where
  | password (message : String)
  | raised (e : PyError)
deriving DecidableEq, Repr

/-- what a hash is made of: iterations, salt and key -/
structure Parsed where
  iterations : ℤ
  salt : List UInt8
  key : List UInt8
deriving DecidableEq, Repr

/-- `_parse`, or the text of its `PasswordError` -/
def parse (encoded : String) : Except String Parsed :=
  match encoded.toList.splitOn '$' with
  | [name, iterations, salt, key] =>
    if String.ofList name ≠ algorithm then .error ("unsupported password hash algorithm: " ++ String.ofList name)
    else
      match intOfString (String.ofList iterations), Base64.readStandard salt, Base64.readStandard key with
      | some n, some salt, some key => .ok ⟨n, salt, key⟩
      | _, _, _ => .error "malformed password hash"
  | _ => .error "malformed password hash"

namespace Passwords

variable (lib : Passwords)

/-- `hash_password`, with the salt it draws -/
def hashPassword (salt : List UInt8) (password : String) : Except HashError String :=
  if password = "" then .error (.password "password must not be empty")
  else
    match lib.derive password salt defaultIterations with
    | .error e => .error (.raised e)
    | .ok key => .ok (hashText salt key)

/-- `verify_password`: a hash that cannot be read denies -/
def verify (password encoded : String) : Except PyError Bool :=
  if password = "" ∨ encoded = "" then .ok false
  else
    match parse encoded with
    | .error _ => .ok false
    | .ok found => (lib.derive password found.salt found.iterations).map fun key => key == found.key

/-- `check_password_strength`, or the text of its `PasswordError` -/
def checkStrength (password : String) : Option String :=
  if password.length < minPasswordLength then some "Password must be at least 12 characters."
  else
    let has (p : Char → Bool) : ℕ := if password.toList.any p then 1 else 0
    if has lib.isLower + has lib.isUpper + has lib.isDigit + has (fun c => !lib.isAlnum c) < 3 then
      some "Password must contain at least 3 of: lowercase, uppercase, digit, symbol."
    else none

end Passwords

/-! ### What a hash says -/

theorem parse_hashText (salt key : List UInt8) : parse (hashText salt key) = .ok ⟨defaultIterations, salt, key⟩ := by
  have hnone : ∀ part ∈ [algorithm.toList, (toString defaultIterations).toList, Base64.standard salt, Base64.standard key],
      '$' ∉ part := by
    simp only [List.forall_mem_cons, List.not_mem_nil, false_implies, implies_true, and_true]
    exact ⟨by decide, by decide, fun h => (Base64.standard_mem _ h).1 rfl, fun h => (Base64.standard_mem _ h).1 rfl⟩
  have hiterations : intOfString (String.ofList (toString defaultIterations).toList) = some defaultIterations := by decide +kernel
  rw [parse, hashText, String.toList_ofList, List.splitOn_intercalate '$' hnone (by simp)]
  dsimp only
  rw [hiterations, Base64.readStandard_standard, Base64.readStandard_standard, if_neg]
  rw [not_not]
  exact String.ofList_toList

theorem hashText_ne_empty (salt key : List UInt8) : hashText salt key ≠ "" := by
  intro h
  have hparse := parse_hashText salt key
  have hempty : parse "" = .error "malformed password hash" := by decide
  rw [h, hempty] at hparse
  cases hparse

namespace Passwords

variable {lib : Passwords} {salt : List UInt8} {password encoded attempt : String}

/-- **What a stored hash says** of an attempt: whether the key derivation makes of it what it made of the password. -/
theorem verify_hash (h : lib.hashPassword salt password = .ok encoded) : password ≠ "" ∧
    ∃ key, lib.derive password salt defaultIterations = .ok key ∧
      lib.verify attempt encoded = if attempt = "" then .ok false
        else (lib.derive attempt salt defaultIterations).map fun key' => key' == key := by
  unfold hashPassword at h
  split_ifs at h with hempty
  refine ⟨hempty, ?_⟩
  cases hderive : lib.derive password salt defaultIterations with
  | error e =>
    rw [hderive] at h
    cases h
  | ok key =>
    rw [hderive] at h
    obtain rfl := Except.ok.inj h
    refine ⟨key, rfl, ?_⟩
    rw [verify, parse_hashText]
    simp only [hashText_ne_empty, or_false]

end Passwords

/-! ## Changing a password -/

/-- how long an attempt takes: a pause before it, the verification, and the answer -/
structure Pace where
  idle : ℚ≥0
  verifying : ℚ≥0
  answering : ℚ≥0
deriving DecidableEq

def Pace.readings (pace : Pace) (now : ℚ) : Readings where
  checked := now + pace.idle
  verified := now + pace.idle + pace.verifying
  asked := now + pace.idle + pace.verifying + pace.answering
  checked_le := le_add_of_nonneg_right pace.verifying.2
  verified_le := le_add_of_nonneg_right pace.answering.2

/-- what `change_password` raises -/
inductive ChangeError where
  | auth (e : AuthError)
  | hash (e : HashError)
deriving DecidableEq, Repr

/-- the users by name, and the failures of their logins -/
structure Accounts where
  authenticator : Authenticator
  users : Dict LocalUser
deriving DecidableEq, Repr

namespace Accounts

variable (lib : Passwords) (a : Accounts)

/-- `authenticate` -/
def login (dummy : String) (r : Readings) (username password : String) : Except AuthError LocalUser × Accounts :=
  let (result, authenticator) := a.authenticator.authenticate username lib.verify dummy (fun name => a.users.lookup name) r password
  (result, { a with authenticator := authenticator })

/-- `change_password`: the new hash is in force, and is returned for the file -/
def changePassword (dummy : String) (r : Readings) (salt : List UInt8) (username current new : String) :
    Except ChangeError String × Accounts :=
  match a.login lib dummy r username current with
  | (.error e, a) => (.error (.auth e), a)
  | (.ok user, a) =>
    if current = new then (.error (.hash (.password "The new password must differ from the current one.")), a)
    else
      match lib.checkStrength new with
      | some message => (.error (.hash (.password message)), a)
      | none =>
        match lib.hashPassword salt new with
        | .error e => (.error (.hash e), a)
        | .ok encoded =>
          (.ok encoded, { a with users := a.users.set username { user with passwordHash := encoded, mustChangePassword := false } })

variable {lib a} {dummy username current new : String} {r : Readings} {salt : List UInt8}

theorem login_users {password : String} : (a.login lib dummy r username password).2.users = a.users := rfl

/-- who is let in is who is looked up, and gave a password that the hash accepts -/
theorem login_ok {password : String} {user : LocalUser} (h : (a.login lib dummy r username password).1 = .ok user) :
    a.users.lookup username = some user ∧ lib.verify password user.passwordHash = .ok true := by
  unfold login at h
  dsimp only at h
  unfold Authenticator.authenticate at h
  dsimp only at h
  split_ifs at h
  cases huser : a.users.lookup username with
  | none =>
    rw [huser] at h
    dsimp only at h
    cases hverify : lib.verify password dummy with
    | error e =>
      rw [hverify] at h
      cases h
    | ok right =>
      rw [hverify] at h
      cases h
  | some found =>
    rw [huser] at h
    dsimp only at h
    cases hverify : lib.verify password found.passwordHash with
    | error e =>
      rw [hverify] at h
      cases h
    | ok right =>
      rw [hverify] at h
      cases right with
      | false => cases h
      | true =>
        obtain rfl := Except.ok.inj h
        exact ⟨rfl, hverify⟩

/-- whoever is not locked out is let in by an accepted password -/
theorem login_iff {password : String} : (∃ user, (a.login lib dummy r username password).1 = .ok user) ↔
    (a.authenticator.isLocked username r.checked).1 = false ∧
      ∃ user, a.users.lookup username = some user ∧ lib.verify password user.passwordHash = .ok true := by
  constructor
  · rintro ⟨user, h⟩
    refine ⟨?_, user, login_ok h⟩
    by_contra hlocked
    unfold login at h
    dsimp only at h
    unfold Authenticator.authenticate at h
    dsimp only at h
    rw [if_pos (by simpa using hlocked)] at h
    cases h
  · rintro ⟨hlocked, user, huser, hverify⟩
    refine ⟨user, ?_⟩
    unfold login Authenticator.authenticate
    dsimp only
    rw [hlocked, if_neg (by simp), huser]
    dsimp only
    rw [hverify]

/-- **A change of password** does not happen, or is made by someone who knows the current one, to one hash. -/
theorem change_cases : ((a.changePassword lib dummy r salt username current new).2.users = a.users ∧
      ∃ e, (a.changePassword lib dummy r salt username current new).1 = .error e) ∨
    ∃ user encoded, a.users.lookup username = some user ∧ lib.verify current user.passwordHash = .ok true ∧ current ≠ new ∧
      lib.checkStrength new = none ∧ lib.hashPassword salt new = .ok encoded ∧
      (a.changePassword lib dummy r salt username current new).1 = .ok encoded ∧
      (a.changePassword lib dummy r salt username current new).2.users =
        a.users.set username { user with passwordHash := encoded, mustChangePassword := false } := by
  have husers := @login_users lib a dummy username r current
  have hok := fun user => @login_ok lib a dummy username r current user
  unfold changePassword
  generalize a.login lib dummy r username current = result at husers hok
  obtain ⟨result, a'⟩ := result
  dsimp only at husers hok ⊢
  cases result with
  | error e => exact .inl ⟨husers, _, rfl⟩
  | ok user =>
    obtain ⟨huser, hverify⟩ := hok user rfl
    dsimp only
    split_ifs with hsame
    · exact .inl ⟨husers, _, rfl⟩
    · cases hstrength : lib.checkStrength new with
      | some message => exact .inl ⟨husers, _, rfl⟩
      | none =>
        cases hhash : lib.hashPassword salt new with
        | error e => exact .inl ⟨husers, _, rfl⟩
        | ok encoded => exact .inr ⟨user, encoded, huser, hverify, hsame, rfl, rfl, rfl, by rw [husers]⟩

end Accounts

end TrinoManagement.Auth
