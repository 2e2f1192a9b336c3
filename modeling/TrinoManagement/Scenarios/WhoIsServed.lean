/-
Who is served by the portal, over every sequence of logins, changes of password and other requests of anyone, with whatever
cookies they carry.

Tokens say who somebody was when they were issued, and nobody looks the account up again.
- `Event`, `Watch.step`: what is noted of a request: who entered, what was changed, issued and served.
- `Justified`: what must have come before. `Good`: what an issued token is known to say; it stays so (`Good.mono`).
- `who_is_served`: every request that a service was called for came from someone who, within the absolute lifetime of a
  session, had given the password the account had then; with the roles of the account, and past its temporary password.
-/
import Mathlib.Tactic
import TrinoManagement.Auth.Portal
import TrinoManagement.Scenarios.CurrentPassword
import TrinoManagement.Scenarios.SessionChain

namespace TrinoManagement.Auth

open TrinoManagement.Run (Each Meets each_nil each_snoc run run_inv)
open TrinoManagement.Sessions (Claims SessionCodec b64decode b64encode rsplitDot)

/-! ## What is noted -/

inductive Event where
  /-- somebody gave the password of an account, to log in or to change it -/
  | entered (username password : String) (wall : ℚ)
  | changed (c : Change)
  | issued (c : Claims)
  | served (path : String) (caller : Caller) (wall : ℚ)

def changesIn (events : List Event) : List Change := events.filterMap fun
  | .changed c => some c
  | _ => none

def issuedIn (events : List Event) : List Claims := events.filterMap fun
  | .issued c => some c
  | _ => none

/-- what a request and its answer come to -/
def noted : Request → Response → List Event
  | .login _ _ username password wall, ⟨_, some c, _⟩ => [.entered username password wall, .issued c]
  | .changePassword _ _ salt _ _ current new wall, ⟨_, some c, _⟩ =>
    match c.username with
    | .str username => [.entered username current wall, .changed ⟨username, current, new, salt⟩, .issued c]
    | _ => []
  | .serve path _ checked _ _, ⟨_, issued, some caller⟩ => .served path caller checked :: (issued.toList.map .issued)
  | _, _ => []

structure Watch where
  portal : Portal
  events : List Event

section Watching

variable (codec : SessionCodec) (lib : Passwords) (users : Dict LocalUser)

def Watch.step (w : Watch) (r : Request) : Watch :=
  let (response, portal) := handle codec lib w.portal r
  ⟨portal, w.events ++ noted r response⟩

def Watch.start (now : ℚ) : Watch := ⟨⟨now, ⟨⟨[]⟩, users⟩⟩, []⟩

def Request.carried : Request → Option (List Char)
  | .changePassword _ _ _ cookie _ _ _ _ | .serve _ cookie _ _ _ => cookie
  | .login .. | .logout => none

/-- **Unforgeability.** A cookie that carries the HMAC of a payload under the secret carries it over claims a token was issued
for. -/
def Unforged (w : Watch) (r : Request) : Prop :=
  ∀ text ∈ r.carried, ∀ encoded payload,
    rsplitDot text = some (encoded, b64encode (codec.lib.hmac (codec.lib.utf8 codec.secret) payload)) →
    b64decode codec.lib encoded = some payload → ∃ c ∈ issuedIn w.events, payload = codec.lib.dumps c.fields

/-! ## What must have come before -/

def knownRoles (user : LocalUser) : List Value := (user.roles.map Value.str).filter fun role => role ∈ allRoles.map Value.str

/-- the password of the account is its user's own -/
def Permanent (before : List Event) (username : String) (user : LocalUser) : Prop :=
  user.mustChangePassword = false ∨ ∃ c ∈ changesIn before, c.username = username

def Justified (before : List Event) : Event → Prop
  | .entered username password _ => Accepts lib users (changesIn before) username password
  | .changed c => Entitled lib users (changesIn before) c
  | .issued _ => True
  | .served path caller wall => ∃ username user, caller = ⟨.str username, knownRoles user⟩ ∧
      users.lookup username = some user ∧
      (∃ password at_, .entered username password at_ ∈ before ∧ wall - at_ ≤ codec.absoluteTimeoutSeconds) ∧
      (path ∈ exempt ∨ Permanent before username user)

/-- what a token says: an account with its roles, whose password was given when the session began -/
structure Good (users : Dict LocalUser) (events : List Event) (c : Claims) : Prop where
  textual : c.Textual
  account : ∃ username user, callerOf c = ⟨.str username, knownRoles user⟩ ∧ users.lookup username = some user ∧
    (∃ password, .entered username password c.issuedAt ∈ events) ∧
    (c.mustChangePassword = false → Permanent events username user)

variable {codec lib users}

theorem changesIn_append (events events' : List Event) : changesIn (events ++ events') = changesIn events ++ changesIn events' :=
  List.filterMap_append

theorem issuedIn_append (events events' : List Event) : issuedIn (events ++ events') = issuedIn events ++ issuedIn events' :=
  List.filterMap_append

theorem Permanent.mono {before : List Event} {username : String} {user : LocalUser} (h : Permanent before username user)
    (more : List Event) : Permanent (before ++ more) username user := by
  rcases h with hown | ⟨c, hc, hname⟩
  · exact .inl hown
  · refine .inr ⟨c, ?_, hname⟩
    rw [changesIn_append]
    exact List.mem_append_left _ hc

theorem Good.mono {events : List Event} {c : Claims} (h : Good users events c) (more : List Event) :
    Good users (events ++ more) c := by
  obtain ⟨username, user, hcaller, huser, ⟨password, hentered⟩, hpermanent⟩ := h.account
  exact ⟨h.textual, username, user, hcaller, huser, ⟨password, List.mem_append_left _ hentered⟩,
    fun hchg => (hpermanent hchg).mono more⟩

/-- a session goes on as what it was -/
theorem Good.refresh {events : List Event} {c : Claims} (h : Good users events c) (wall : ℚ) :
    Good users events { c with lastSeen := wall } := ⟨h.textual, h.account⟩

theorem callerOf_strs (username : String) (roles : List Value) (issuedAt lastSeen : ℚ) (chg : Bool) :
    callerOf ⟨.str username, roles, issuedAt, lastSeen, chg⟩ =
      ⟨.str username, roles.filter fun role => role ∈ allRoles.map Value.str⟩ := rfl

/-- the names of known roles are texts -/
theorem textual_knownRoles (user : LocalUser) : ∃ roles : List String, knownRoles user = roles.map .str := by
  refine ⟨user.roles.filter fun role => role ∈ allRoles, ?_⟩
  rw [knownRoles, List.filter_map]
  refine congrArg (List.map Value.str) (List.filter_congr fun role _ => ?_)
  simp

/-! ## The invariant -/

def Watch.desk (w : Watch) : Desk := ⟨w.portal.now, w.portal.accounts, changesIn w.events⟩

structure Sound (codec : SessionCodec) (lib : Passwords) (users : Dict LocalUser) (w : Watch) : Prop where
  holds : Holds lib users w.desk
  good : ∀ c ∈ issuedIn w.events, Good users w.events c
  justified : Each (Justified codec lib users) w.events

/-- what is stored of an account is its configured user, but for the password -/
theorem Sound.stored {w : Watch} (h : Sound codec lib users w) {username : String} {user : LocalUser}
    (huser : w.portal.accounts.users.lookup username = some user) : ∃ first, users.lookup username = some first ∧
      user.username = first.username ∧ user.roles = first.roles ∧
      (user.mustChangePassword = false → Permanent w.events username first) := by
  have hstored := h.holds.stored username
  unfold Stored at hstored
  cases hlast : lastOf (changesIn w.events) username with
  | none =>
    rw [show w.desk.changes = changesIn w.events from rfl, hlast] at hstored
    exact ⟨user, hstored.symm.trans huser, rfl, rfl, .inl⟩
  | some c =>
    rw [show w.desk.changes = changesIn w.events from rfl, hlast] at hstored
    obtain ⟨first, encoded, hfirst, -, hlookup⟩ := hstored
    obtain rfl := Option.some.inj (hlookup.symm.trans huser)
    refine ⟨first, hfirst, rfl, rfl, fun _ => .inr ⟨c, ?_, ?_⟩⟩
    · exact (List.mem_filter.1 (List.mem_of_getLast? hlast)).1
    · simpa using (List.mem_filter.1 (List.mem_of_getLast? hlast)).2

/-- **What is accepted was issued**, and says what it said then. -/
theorem Sound.admitted {w : Watch} (h : Sound codec lib users w) (hdecodes : codec.lib.Decodes) {r : Request}
    (hr : Unforged codec w r) {path : String} {wall : ℚ} {claims : Claims} (hok : currentPrincipal codec path r.carried wall = .ok claims) :
    Good users w.events claims ∧ wall - claims.issuedAt ≤ codec.absoluteTimeoutSeconds ∧
      (claims.mustChangePassword = false ∨ path ∈ exempt) := by
  obtain ⟨⟨token, htoken, hverify⟩, hpath⟩ := currentPrincipal_ok hok
  obtain ⟨encoded, payload, hsplit, hdecode, hread⟩ := SessionCodec.verify_eq_ok.1 hverify
  obtain ⟨c, hc, rfl⟩ := hr token htoken encoded payload hsplit hdecode
  have hgood := h.good c hc
  obtain ⟨rfl, habsolute, -⟩ := (SessionCodec.read_dumps hdecodes hgood.textual).1 hread
  exact ⟨hgood, habsolute, hpath⟩

/-- requests that are refused are not noted -/
theorem Sound.still {w : Watch} (h : Sound codec lib users w) (portal : Portal)
    (hportal : portal.accounts.users = w.portal.accounts.users) :
    Sound codec lib users ⟨portal, w.events⟩ where
  holds := by
    refine ⟨?_, h.holds.entitled⟩
    intro username
    change Stored lib users (changesIn w.events) portal.accounts.users username
    rw [hportal]
    exact h.holds.stored username
  good := h.good
  justified := h.justified

/-! ## One request -/

/-- another token -/
theorem Sound.issue {w : Watch} (h : Sound codec lib users w) {c : Claims} (hc : Good users w.events c) :
    Sound codec lib users ⟨w.portal, w.events ++ [.issued c]⟩ where
  holds := by
    have hsame : changesIn (w.events ++ [.issued c]) = changesIn w.events := by simp [changesIn]
    change Holds lib users ⟨_, _, changesIn (w.events ++ [.issued c])⟩
    rw [hsame]
    exact h.holds
  good := by
    intro c' hc'
    rw [issuedIn_append] at hc'
    rcases List.mem_append.1 hc' with hc' | hc'
    · exact (h.good c' hc').mono _
    · obtain rfl : c' = c := by simpa [issuedIn] using hc'
      exact hc.mono _
  justified := each_snoc.2 ⟨h.justified, trivial⟩

/-- and another note that is neither of a token nor of a change -/
theorem Sound.note {w : Watch} (h : Sound codec lib users w) {e : Event} (hchange : changesIn [e] = []) (hissue : issuedIn [e] = [])
    (he : Justified codec lib users w.events e) : Sound codec lib users ⟨w.portal, w.events ++ [e]⟩ where
  holds := by
    change Holds lib users ⟨_, _, changesIn (w.events ++ [e])⟩
    rw [changesIn_append, hchange, List.append_nil]
    exact h.holds
  good := by
    intro c hc
    rw [issuedIn_append, hissue, List.append_nil] at hc
    exact (h.good c hc).mono _
  justified := each_snoc.2 ⟨h.justified, he⟩

/-- an accepted change of password -/
theorem Sound.change {w : Watch} (h : Sound codec lib users w) {c : Change} {p : Portal}
    (hholds : Holds lib users ⟨p.now, p.accounts, changesIn w.events ++ [c]⟩) :
    Sound codec lib users ⟨p, w.events ++ [.changed c]⟩ where
  holds := by
    change Holds lib users ⟨_, _, changesIn (w.events ++ [.changed c])⟩
    rw [changesIn_append]
    exact hholds
  good := by
    intro c' hc'
    have hsame : issuedIn (w.events ++ [.changed c]) = issuedIn w.events := by simp [issuedIn]
    rw [hsame] at hc'
    exact (h.good c' hc').mono _
  justified := each_snoc.2 ⟨h.justified, (each_snoc.1 hholds.entitled).2⟩

theorem sound_login {w : Watch} (h : Sound codec lib users w) (hkeyed : Keyed users) (pace : Pace)
    (dummy username password : String) (wall : ℚ) :
    Sound codec lib users (w.step codec lib (.login pace dummy username password wall)) := by
  have hok := fun user => @Accounts.login_ok lib w.portal.accounts dummy username (pace.readings w.portal.now) password user
  have husers := @Accounts.login_users lib w.portal.accounts dummy username (pace.readings w.portal.now) password
  unfold Watch.step handle
  dsimp only
  generalize w.portal.accounts.login lib dummy (pace.readings w.portal.now) username password = result at hok husers
  obtain ⟨result, accounts⟩ := result
  dsimp only at hok husers ⊢
  cases result with
  | error e =>
    dsimp only [Response.refused, noted]
    rw [List.append_nil]
    exact h.still _ husers
  | ok user =>
    obtain ⟨huser, hverify⟩ := hok user rfl
    obtain ⟨first, hfirst, hname, hroles, hpermanent⟩ := h.stored huser
    have hsame : user.username = username := hname.trans (hkeyed username first hfirst)
    have hentered : Justified codec lib users w.events (.entered username password wall) :=
      (h.holds.stored username).accepts.1 ⟨user, huser, hverify⟩
    have hnoted := (h.still ⟨(pace.readings w.portal.now).asked, accounts⟩ husers).note rfl rfl hentered
    have hgood : Good users (w.events ++ [.entered username password wall])
        ⟨.str user.username, user.roles.map .str, wall, wall, user.mustChangePassword⟩ := by
      refine ⟨⟨⟨_, rfl⟩, ⟨_, rfl⟩⟩, username, first, ?_, hfirst, ⟨password, ?_⟩, ?_⟩
      · rw [callerOf_strs, hsame, hroles]
        rfl
      · exact List.mem_append_right _ (List.mem_singleton_self _)
      · exact fun hchg => (hpermanent hchg).mono _
    have hissued := hnoted.issue hgood
    rw [List.append_assoc] at hissued
    exact hissued

theorem sound_change {w : Watch} (h : Sound codec lib users w) (hdecodes : codec.lib.Decodes) (pace : Pace) (dummy : String)
    (salt : List UInt8) (cookie : Option (List Char)) (checked : ℚ) (current new : String) (wall : ℚ)
    (hr : Unforged codec w (.changePassword pace dummy salt cookie checked current new wall)) :
    Sound codec lib users (w.step codec lib (.changePassword pace dummy salt cookie checked current new wall)) := by
  unfold Watch.step handle
  dsimp only
  cases hcaller : currentPrincipal codec "/api/v1/password" cookie checked with
  | error reply =>
    dsimp only [Response.refused, noted]
    rw [List.append_nil]
    exact h
  | ok claims =>
    obtain ⟨hgood, -, -⟩ := h.admitted hdecodes hr hcaller
    obtain ⟨username, first, hcaller, hfirst, -⟩ := hgood.account
    have hvisit := visit_holds h.holds ⟨pace, dummy, username, current, some (new, salt)⟩
    have hcases := @Accounts.change_cases lib w.portal.accounts dummy username current new (pace.readings w.portal.now) salt
    unfold Desk.visit Watch.desk at hvisit
    dsimp only at hvisit ⊢
    rw [hcaller]
    dsimp only
    generalize w.portal.accounts.changePassword lib dummy (pace.readings w.portal.now) salt username current new = result
      at hvisit hcases
    obtain ⟨result, accounts⟩ := result
    dsimp only at hvisit hcases ⊢
    cases result with
    | error e =>
      dsimp only [Response.refused, noted]
      rw [List.append_nil]
      rcases hcases with ⟨husers, -⟩ | ⟨user, encoded, -, -, -, -, -, hok, -⟩
      · exact h.still _ husers
      · cases hok
    | ok encoded =>
      have hentitled : Entitled lib users (changesIn w.events) ⟨username, current, new, salt⟩ := (each_snoc.1 hvisit.entitled).2
      have hentered : Justified codec lib users w.events (.entered username current wall) := hentitled.1
      have hnoted := h.note rfl rfl hentered
      have hchanged := hnoted.change (c := ⟨username, current, new, salt⟩)
        (p := ⟨(pace.readings w.portal.now).asked, accounts⟩) (by
          rw [changesIn_append, show changesIn [Event.entered username current wall] = [] from rfl, List.append_nil]
          exact hvisit)
      have hgood' : Good users (w.events ++ [.entered username current wall] ++ [.changed ⟨username, current, new, salt⟩])
          ⟨.str username, (callerOf claims).roles, wall, wall, false⟩ := by
        refine ⟨⟨⟨_, rfl⟩, ?_⟩, username, first, ?_, hfirst, ⟨current, ?_⟩, ?_⟩
        · rw [hcaller]
          exact textual_knownRoles first
        · rw [callerOf_strs, hcaller]
          refine congrArg (Caller.mk _) ?_
          rw [knownRoles, List.filter_filter]
          simp only [Bool.and_self]
        · simp
        · exact fun _ => .inr ⟨⟨username, current, new, salt⟩, by simp [changesIn], rfl⟩
      have hissued := hchanged.issue hgood'
      rw [List.append_assoc, List.append_assoc] at hissued
      rw [hcaller] at hissued
      exact hissued

theorem sound_serve {w : Watch} (h : Sound codec lib users w) (hdecodes : codec.lib.Decodes) (path : String)
    (cookie : Option (List Char)) (checked : ℚ) (succeeds : Bool) (wall : ℚ)
    (hr : Unforged codec w (.serve path cookie checked succeeds wall)) :
    Sound codec lib users (w.step codec lib (.serve path cookie checked succeeds wall)) := by
  unfold Watch.step handle
  dsimp only
  cases hcaller : currentPrincipal codec path cookie checked with
  | error reply =>
    dsimp only [Response.refused, noted]
    rw [List.append_nil]
    exact h
  | ok claims =>
    obtain ⟨hgood, habsolute, hpath⟩ := h.admitted hdecodes hr hcaller
    obtain ⟨username, first, hcaller, hfirst, ⟨password, hentered⟩, hpermanent⟩ := hgood.account
    have hserved : Justified codec lib users w.events (.served path (callerOf claims) checked) := by
      refine ⟨username, first, hcaller, hfirst, ⟨password, _, hentered, habsolute⟩, ?_⟩
      rcases hpath with hchg | hexempt
      · exact .inr (hpermanent hchg)
      · exact .inl hexempt
    have hnoted := h.note rfl rfl hserved
    cases succeeds with
    | false => exact hnoted
    | true =>
      have hissued := hnoted.issue ((hgood.mono [.served path (callerOf claims) checked]).refresh wall)
      rw [List.append_assoc] at hissued
      exact hissued

theorem sound_step {w : Watch} (h : Sound codec lib users w) (hdecodes : codec.lib.Decodes) (hkeyed : Keyed users)
    (r : Request) (hr : Unforged codec w r) : Sound codec lib users (w.step codec lib r) := by
  cases r with
  | login pace dummy username password wall => exact sound_login h hkeyed pace dummy username password wall
  | changePassword pace dummy salt cookie checked current new wall =>
    exact sound_change h hdecodes pace dummy salt cookie checked current new wall hr
  | logout =>
    unfold Watch.step handle
    dsimp only [noted]
    rw [List.append_nil]
    exact h
  | serve path cookie checked succeeds wall => exact sound_serve h hdecodes path cookie checked succeeds wall hr

theorem sound_start (now : ℚ) : Sound codec lib users (Watch.start users now) where
  holds := holds_start now
  good := by
    intro c hc
    cases hc
  justified := each_nil

end Watching

/-! ## The theorem -/

/-- **Who is served.** Where the codec decodes what it encoded and no signature is forged, in every run of requests against
the accounts of a configuration: whoever a service is called for has an account and its known roles; somebody gave the
password the account had at that time, at most the absolute lifetime of a session ago; and, but for three addresses, the
account needs no change of its password, or it was changed before. -/
theorem who_is_served {codec : SessionCodec} (hdecodes : codec.lib.Decodes) (lib : Passwords) (raw : Dict (Option UserEntry))
    {users : Dict LocalUser} (hraw : buildUsers raw = .ok users) {now : ℚ} {requests : List Request}
    (h : Meets (Watch.step codec lib) (Unforged codec) (Watch.start users now) requests) :
    Each (Justified codec lib users) (run (Watch.step codec lib) (Watch.start users now) requests).events :=
  (run_inv (Sound codec lib users) (fun _ r hs hr => sound_step hs hdecodes (buildUsers_keyed hraw) r hr) h
    (sound_start now)).justified

/-! ### One session -/

def kimSalt : List UInt8 := [1, 2, 3, 4, 5, 6, 7, 8, 9, 10, 11, 12, 13, 14, 15, 16]

/-- PBKDF2 of kim's password -/
def kimKey : List UInt8 :=
  [30, 136, 100, 218, 94, 253, 213, 77, 54, 126, 122, 209, 198, 120, 148, 62, 244, 0, 228, 78, 235, 231, 154, 131, 109, 181,
    230, 246, 211, 53, 144, 189]

def kimHash : String := "pbkdf2_sha256$600000$AQIDBAUGBwgJCgsMDQ4PEA==$Hohk2l791U02fnrRxniUPvQA5E7r55qDbbXm9tM1kL0="

def passwords : Passwords where
  derive password salt iterations := .ok (if password = "Correct-horse-1" ∧ salt = kimSalt ∧ iterations = 600000 then kimKey else [])
  isLower := Char.isLower
  isUpper := Char.isUpper
  isDigit := Char.isDigit
  isAlnum := Char.isAlphanum

def configured : Dict (Option UserEntry) := [("kim", some ⟨false, kimHash, ["viewer"], false⟩)]

/-- kim logs in, and looks at the clusters with the cookie that was set -/
def requests : List Request :=
  [.login ⟨0, 0, 0⟩ kimHash "kim" "Correct-horse-1" 1000,
    .serve "/api/v1/clusters" (some (Sessions.portal.token (Sessions.kim.claims 1000 1000))) 1300 true 1600]

theorem parse_kimHash : parse kimHash = .ok ⟨600000, kimSalt, kimKey⟩ := by decide +kernel

theorem verify_kim : passwords.verify "Correct-horse-1" kimHash = .ok true := by
  rw [Passwords.verify, parse_kimHash]
  decide

/-- nobody forges by presenting what was issued -/
theorem unforged_token {codec : SessionCodec} (hdecodes : codec.lib.Decodes) {w : Watch} {r : Request} {c : Claims}
    (hc : c ∈ issuedIn w.events) (hr : r.carried = some (codec.token c)) : Unforged codec w r := by
  intro text htext encoded payload hsplit hdecode
  rw [hr] at htext
  obtain rfl := Option.some.inj htext
  obtain ⟨rfl, -⟩ := Prod.mk.inj (Option.some.inj ((SessionCodec.rsplitDot_token c).symm.trans hsplit))
  exact ⟨c, hc, (Option.some.inj ((SessionCodec.b64decode_b64encode hdecodes _).symm.trans hdecode)).symm⟩

theorem requests_unforged : Meets (Watch.step Sessions.portal passwords) (Unforged Sessions.portal)
    (Watch.start [("kim", ⟨"kim", kimHash, ["viewer"], false⟩)] 0) requests := by
  refine ⟨nofun, unforged_token Sessions.library_decodes ?_ rfl, trivial⟩
  simp [Watch.step, Watch.start, handle, Accounts.login, Authenticator.authenticate, Authenticator.isLocked, verify_kim,
    maxFailedAttempts, Authenticator.attempts, Window.recent, noted, issuedIn, Sessions.User.claims, Sessions.kim]

theorem who_is_served_kim : Each (Justified Sessions.portal passwords [("kim", ⟨"kim", kimHash, ["viewer"], false⟩)])
    (run (Watch.step Sessions.portal passwords) (Watch.start [("kim", ⟨"kim", kimHash, ["viewer"], false⟩)] 0) requests).events :=
  who_is_served Sessions.library_decodes passwords configured rfl requests_unforged

end TrinoManagement.Auth
