/-
The identity half of `tms/api/main.py`: who a request is from, and which cookie its answer sets.

- `buildUsers`: the account table of the configuration. `buildUsers_keyed`: every account is under its own name.
- `currentPrincipal`: the claims of a session, or why nobody is let through. A temporary password opens three addresses only.
- `handle`: one request, with the middleware that slides the session afterwards.
-/
import Mathlib.Tactic
import TrinoManagement.Auth.Passwords
import TrinoManagement.Auth.Sessions

namespace TrinoManagement.Auth

open TrinoManagement.Sessions (Claims SessionCodec SessionError)

/-! ## Accounts of the configuration -/

/-- a mapping of `local_users`; `password` is whether it has a plaintext one -/
structure UserEntry where
  password : Bool
  passwordHash : String
  roles : List String
  mustChangePassword : Bool
deriving DecidableEq, Repr

/-- one account, or the text of an `AuthError`; `none` is not a mapping -/
def buildUser (username : String) : Option UserEntry → Except String LocalUser
  | none => .error ("local_users." ++ username ++ ": expected a mapping")
  | some entry =>
    if entry.password then
      .error ("local_users." ++ username ++ ": plaintext 'password' is not accepted. Use scripts/hash_password.py and store " ++
        "'password_hash'.")
    else if entry.passwordHash = "" then .error ("local_users." ++ username ++ ": password_hash is required")
    else if entry.roles = [] then .error ("local_users." ++ username ++ ": at least one role is required")
    else .ok ⟨username, entry.passwordHash, entry.roles, entry.mustChangePassword⟩

def buildUsers (raw : Dict (Option UserEntry)) : Except String (Dict LocalUser) :=
  raw.foldlM (fun users p => (buildUser p.1 p.2).map fun user => users.set p.1 user) []

/-- every account is under its own name -/
def Keyed (users : Dict LocalUser) : Prop := ∀ username user, users.lookup username = some user → user.username = username

theorem buildUser_username {username : String} {entry : Option UserEntry} {user : LocalUser}
    (h : buildUser username entry = .ok user) : user.username = username := by
  cases entry with
  | none => cases h
  | some entry =>
    unfold buildUser at h
    dsimp only at h
    split_ifs at h
    obtain rfl := Except.ok.inj h
    rfl

theorem keyed_set {users : Dict LocalUser} {username : String} {user : LocalUser} (h : Keyed users)
    (huser : user.username = username) : Keyed (users.set username user) := by
  intro username' user' hlookup
  rw [Dict.lookup_set] at hlookup
  split_ifs at hlookup with hsame
  · obtain rfl := Option.some.inj hlookup
    rw [huser, hsame]
  · exact h username' user' hlookup

theorem foldlM_keyed {raw : Dict (Option UserEntry)} {users users' : Dict LocalUser} (hkeyed : Keyed users)
    (h : raw.foldlM (fun users p => (buildUser p.1 p.2).map fun user => users.set p.1 user) users = .ok users') :
    Keyed users' := by
  induction raw generalizing users with
  | nil =>
    obtain rfl := Except.ok.inj h
    exact hkeyed
  | cons p raw ih =>
    rw [List.foldlM_cons] at h
    obtain ⟨next, hnext, hrest⟩ := bind_eq_ok.1 h
    obtain ⟨user, huser, rfl⟩ := map_eq_ok.1 hnext
    exact ih (keyed_set hkeyed (buildUser_username huser)) hrest

theorem buildUsers_keyed {raw : Dict (Option UserEntry)} {users : Dict LocalUser} (h : buildUsers raw = .ok users) :
    Keyed users :=
  foldlM_keyed (fun _ _ hlookup => by cases hlookup) h

/-! ## Who a request is from -/

/-- `_ROLE_CAPABILITIES` -/
def allRoles : List String := ["viewer", "operator", "admin"]

/-- `Principal`: of its roles, the known ones -/
structure Caller where
  username : Value
  roles : List Value
deriving DecidableEq

def callerOf (claims : Claims) : Caller :=
  ⟨claims.username, claims.roles.filter fun role => role ∈ allRoles.map Value.str⟩

/-- how a request ends; `failed` is an error status of whatever served it -/
inductive Reply where
  | done | failed
  | unauthenticated (message : String)
  | forbidden (message : String)
  | tooManyAttempts (message : String)
  | invalidRequest (message : String)
  | raised (e : PyError)
deriving DecidableEq, Repr

/-- the addresses a temporary password opens -/
def exempt : List String := ["/api/v1/password", "/api/v1/logout", "/api/v1/me"]

def SessionError.reply : SessionError → Reply
  | .expired message => .unauthenticated ("Session expired: " ++ message)
  | .invalid _ => .unauthenticated "Invalid session."
  | .raised e => .raised e

/-- `current_principal` of the session cookie, at a time of the wall clock -/
def currentPrincipal (codec : SessionCodec) (path : String) (cookie : Option (List Char)) (wall : ℚ) : Except Reply Claims :=
  match cookie with
  | none | some [] => .error (.unauthenticated "Sign in required.")
  | some token =>
    match codec.verify token wall with
    | .error e => .error (SessionError.reply e)
    | .ok claims =>
      if claims.mustChangePassword ∧ path ∉ exempt then
        .error (.forbidden "Change your temporary password first (PUT /api/v1/password).")
      else .ok claims

/-- who is let through has a token that is accepted, and a password to keep or an address that is exempt -/
theorem currentPrincipal_ok {codec : SessionCodec} {path : String} {cookie : Option (List Char)} {wall : ℚ} {claims : Claims}
    (h : currentPrincipal codec path cookie wall = .ok claims) : (∃ token, cookie = some token ∧ codec.verify token wall = .ok claims) ∧
      (claims.mustChangePassword = false ∨ path ∈ exempt) := by
  unfold currentPrincipal at h
  split at h
  · cases h
  · cases h
  · rename_i token _
    split at h
    · cases h
    · rename_i claims' hverify
      split_ifs at h with htemporary
      obtain rfl := Except.ok.inj h
      refine ⟨⟨_, rfl, hverify⟩, ?_⟩
      by_cases hexempt : path ∈ exempt
      · exact .inr hexempt
      · exact .inl (by simpa [hexempt] using htemporary)

/-! ## Requests -/

/-- a request with the cookie it carries; `wall` is the wall clock where a token is issued, `checked` where one is verified -/
inductive Request where
  | login (pace : Pace) (dummy username password : String) (wall : ℚ)
  | changePassword (pace : Pace) (dummy : String) (salt : List UInt8) (cookie : Option (List Char)) (checked : ℚ)
      (current new : String) (wall : ℚ)
  | logout
  /-- any other address, which succeeds or not -/
  | serve (path : String) (cookie : Option (List Char)) (checked : ℚ) (succeeds : Bool) (wall : ℚ)

/-- an answer: the claims of the cookie it sets, and the caller that the service was called for -/
structure Response where
  reply : Reply
  issued : Option Claims
  served : Option Caller
deriving DecidableEq

def Response.refused (reply : Reply) : Response := ⟨reply, none, none⟩

/-- the cookie: `issue` and `refresh` both make the token of the claims they issue -/
def Response.cookie (codec : SessionCodec) (r : Response) : Option (List Char) := r.issued.map codec.token

/-- the accounts, and the monotonic clock -/
structure Portal where
  now : ℚ
  accounts : Accounts
deriving DecidableEq

/-- what a login makes of an error -/
def AuthError.reply : AuthError → Reply
  | .accountLocked message => .tooManyAttempts message
  | .invalidCredentials message => .unauthenticated message
  | .raised e => .raised e

/-- what a change of password makes of an error; there, a lock is no other refusal -/
def ChangeError.reply : ChangeError → Reply
  | .auth (.accountLocked message) | .auth (.invalidCredentials message) => .unauthenticated message
  | .hash (.password message) => .invalidRequest message
  | .auth (.raised e) | .hash (.raised e) => .raised e

/-- one request. A handler that set a cookie keeps it; otherwise one that succeeded slides the session -/
def handle (codec : SessionCodec) (lib : Passwords) (p : Portal) : Request → Response × Portal
  | .login pace dummy username password wall =>
    let r := pace.readings p.now
    match p.accounts.login lib dummy r username password with
    | (.error e, accounts) => (.refused e.reply, ⟨r.asked, accounts⟩)
    | (.ok user, accounts) =>
      (⟨.done, some ⟨.str user.username, user.roles.map .str, wall, wall, user.mustChangePassword⟩, none⟩, ⟨r.asked, accounts⟩)
  | .changePassword pace dummy salt cookie checked current new wall =>
    match currentPrincipal codec "/api/v1/password" cookie checked with
    | .error reply => (.refused reply, p)
    | .ok claims =>
      -- the name in a token is a text: it was one when the token was issued
      match (callerOf claims).username with
      | .str username =>
        let r := pace.readings p.now
        match p.accounts.changePassword lib dummy r salt username current new with
        | (.error e, accounts) => (.refused e.reply, ⟨r.asked, accounts⟩)
        | (.ok _, accounts) =>
          (⟨.done, some ⟨.str username, (callerOf claims).roles, wall, wall, false⟩, none⟩, ⟨r.asked, accounts⟩)
      | v => (.refused (.raised ⟨"TypeError", "a user name of type " ++ v.typeName⟩), p)
  | .logout => (⟨.done, none, none⟩, p)
  | .serve path cookie checked succeeds wall =>
    match currentPrincipal codec path cookie checked with
    | .error reply => (.refused reply, p)
    | .ok claims =>
      (⟨if succeeds then .done else .failed, if succeeds then some { claims with lastSeen := wall } else none,
        some (callerOf claims)⟩, p)

end TrinoManagement.Auth
