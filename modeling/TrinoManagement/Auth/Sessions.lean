/-
Signed session tokens, `tms/core/sessions.py`: the claims as JSON, in base64, and a signature over them.

- `Library`: the JSON codec, the HMAC and the base64 decoder, taken as they are; `Library.Decodes`: what is encoded decodes.
- `SessionCodec`: `issue`, `verify` and `refresh` under one secret.
- `verify_token`: a token that was issued is accepted exactly within both of its lifetimes, with the claims it was issued
  for.
- `verify_eq_ok`: the inversion lemma of `verify`: what is accepted is a payload with its signature.
-/
import Mathlib.Tactic
import TrinoManagement.Core.Base64
import TrinoManagement.Core.Number
import TrinoManagement.Core.Value

namespace TrinoManagement.Sessions

/-! ## The library -/

/-- what `json.loads(payload.decode("utf-8"))` makes of the bytes; a UnicodeDecodeError is a ValueError -/
inductive Loaded where
  | value (v : Value)
  | valueError
  | raised (e : PyError)
deriving DecidableEq

structure Library where
  /-- `json.dumps(claims, separators=(",", ":"), sort_keys=True).encode("utf-8")` -/
  dumps : List (String × Value) → List UInt8
  loads : List UInt8 → Loaded
  /-- `hmac.new(secret, payload, sha256).digest()` -/
  hmac : List UInt8 → List UInt8 → List UInt8
  /-- `base64.urlsafe_b64decode`; `none` is any exception of it -/
  urlsafeB64decode : List Char → Option (List UInt8)
  /-- `text.encode("utf-8")` -/
  utf8 : String → List UInt8

/-! ## Claims -/

/-- what `issue` signs and `verify` returns -/
structure Claims where
  username : Value
  roles : List Value
  issuedAt : ℚ
  lastSeen : ℚ
  mustChangePassword : Bool
deriving DecidableEq

namespace Claims

variable (c : Claims)

/-- the dict that is dumped -/
def fields : List (String × Value) :=
  [("u", c.username), ("r", .list c.roles), ("iat", .float c.issuedAt), ("seen", .float c.lastSeen),
    ("chg", .bool c.mustChangePassword)]

/-- and the dict that is loaded: the keys were sorted -/
def loaded : Value :=
  .dict [("chg", .bool c.mustChangePassword), ("iat", .float c.issuedAt), ("r", .list c.roles),
    ("seen", .float c.lastSeen), ("u", c.username)]

/-- a user name and role names -/
def Textual : Prop := (∃ username : String, c.username = .str username) ∧ ∃ roles : List String, c.roles = roles.map .str

end Claims

/-- JSON and base64 decode what they encoded -/
structure Library.Decodes (lib : Library) : Prop where
  loads_dumps : ∀ c : Claims, c.Textual → lib.loads (lib.dumps c.fields) = .value c.loaded
  decode_encode : ∀ bytes, lib.urlsafeB64decode (Base64.encode bytes) = some bytes

inductive SessionError where
  | invalid (message : String)
  | expired (message : String)
  /-- an exception of another class -/
  | raised (e : PyError)
deriving DecidableEq, Repr

/-! ## The codec -/

/-- `_b64encode`: without its padding -/
def b64encode (raw : List UInt8) : List Char := (Base64.encode raw).rdropWhile (· = '=')

/-- `_b64decode`: the padding is put back -/
def b64decode (lib : Library) (text : List Char) : Option (List UInt8) :=
  lib.urlsafeB64decode (text ++ List.replicate (Base64.padding text.length) '=')

/-- `hmac.compare_digest` of two texts -/
def compareDigest (a b : List Char) : Except PyError Bool :=
  if a.all (fun c => decide (c.toNat < 128)) ∧ b.all (fun c => decide (c.toNat < 128)) then .ok (decide (a = b))
  else .error ⟨"TypeError", "comparing strings with non-ASCII characters is not supported"⟩

/-- `text.rsplit(".", 1)` of a text with a dot -/
def rsplitDot (text : List Char) : Option (List Char × List Char) :=
  if '.' ∈ text then some ((text.rdropWhile (· ≠ '.')).dropLast, text.rtakeWhile (· ≠ '.')) else none

/-- `float(v)` -/
def floatOf (v : Value) : Except PyError ℚ := do
  match ← v.toFloat with
  | some q => pure q
  | none => throw ⟨if v.typeName = "str" then "ValueError" else "TypeError", "float() of a " ++ v.typeName⟩

/-- `list(v)` -/
def listOf : Value → Except PyError (List Value)
  | .list items => .ok items
  | .str s => .ok (s.toList.map fun c => .str (String.singleton c))
  | .dict fields => .ok (fields.map fun p => .str p.1)
  | v => .error ⟨"TypeError", "'" ++ v.typeName ++ "' object is not iterable"⟩

structure SessionCodec where
  lib : Library
  secret : String
  secret_ne : secret ≠ ""
  idleTimeoutSeconds : ℚ
  absoluteTimeoutSeconds : ℚ

namespace SessionCodec

/-- `__init__`: an ephemeral secret would break every restart -/
def init (lib : Library) (secret : String) (idle absolute : ℚ) : Except SessionError SessionCodec :=
  if h : secret = "" then
    .error (.invalid ("session secret is required; set TMS_SESSION_SECRET or " ++
      "portal.session_secret in config.secret.yaml"))
  else .ok ⟨lib, secret, h, idle, absolute⟩

variable (codec : SessionCodec)

def sign (payload : List UInt8) : List Char := b64encode (codec.lib.hmac (codec.lib.utf8 codec.secret) payload)

def token (c : Claims) : List Char :=
  b64encode (codec.lib.dumps c.fields) ++ '.' :: codec.sign (codec.lib.dumps c.fields)

/-- `issue`: without a login time of its own, the token is of a login -/
def issue (username : Value) (roles : List Value) (now : ℚ) (issuedAt : Option ℚ) (mustChangePassword : Bool) : List Char :=
  codec.token ⟨username, roles, issuedAt.getD now, now, mustChangePassword⟩

/-- both lifetimes -/
def expiry (issuedAt lastSeen now : ℚ) : Except SessionError Unit :=
  if codec.absoluteTimeoutSeconds < now - issuedAt then .error (.expired "session exceeded its absolute lifetime")
  else if codec.idleTimeoutSeconds < now - lastSeen then .error (.expired "session idle timeout")
  else .ok ()

/-- an exception nobody expects -/
def lift {α : Type} (x : Except PyError α) : Except SessionError α := x.mapError .raised

/-- the part of `verify` after the signature -/
def read (payload : List UInt8) (now : ℚ) : Except SessionError Claims :=
  match codec.lib.loads payload with
  | .valueError => .error (.invalid "malformed session payload")
  | .raised e => .error (.raised e)
  | .value claims => do
    let iat ← lift (claims.callGet "iat")
    let issuedAt ← lift (floatOf (if claims.has "iat" then iat else .int 0))
    let seen ← lift (claims.callGet "seen")
    let lastSeen ← lift (floatOf (if claims.has "seen" then seen else .int 0))
    codec.expiry issuedAt lastSeen now
    let roles ← lift (listOf (if (claims.get "r").truthy then claims.get "r" else .list []))
    pure ⟨claims.get "u", roles, issuedAt, lastSeen, (claims.get "chg").truthy⟩

def verify (text : List Char) (now : ℚ) : Except SessionError Claims :=
  match rsplitDot text with
  | none => .error (.invalid "malformed session token")
  | some (encodedPayload, signature) =>
    match b64decode codec.lib encodedPayload with
    | none => .error (.invalid "malformed session token")
    | some payload =>
      match compareDigest (codec.sign payload) signature with
      | .error e => .error (.raised e)
      | .ok false => .error (.invalid "session signature mismatch")
      | .ok true => codec.read payload now

/-- `refresh`: the idle window slides, the login time stays -/
def refresh (claims : Claims) (now : ℚ) : List Char :=
  codec.issue claims.username claims.roles now (some claims.issuedAt) claims.mustChangePassword

/-! ## Encoding and decoding -/

variable {codec} {lib : Library}

theorem b64encode_eq (raw : List UInt8) : b64encode raw = Base64.digits raw := Base64.rdropWhile_encode raw

/-- the padding that is put back is the one that was stripped -/
theorem b64decode_b64encode (h : lib.Decodes) (raw : List UInt8) : b64decode lib (b64encode raw) = some raw := by
  rw [b64encode_eq, b64decode]
  exact h.decode_encode raw

theorem dot_not_mem_b64encode (raw : List UInt8) : '.' ∉ b64encode raw := by
  rw [b64encode_eq]
  intro hdot
  exact absurd (Base64.digits_mem _ hdot) (by decide)

theorem b64encode_ascii (raw : List UInt8) : (b64encode raw).all (fun c => decide (c.toNat < 128)) = true := by
  rw [b64encode_eq, List.all_eq_true]
  intro c hc
  have hall : Base64.alphabet.all (fun c => decide (c.toNat < 128)) = true := by decide
  exact List.all_eq_true.1 hall c (Base64.digits_mem c hc)

theorem rsplitDot_append {a signature : List Char} (h : '.' ∉ signature) :
    rsplitDot (a ++ '.' :: signature) = some (a, signature) := by
  have hall : ∀ c ∈ signature.reverse, decide (c ≠ '.') = true := by
    intro c hc
    refine decide_eq_true ?_
    rintro rfl
    exact h (List.mem_reverse.1 hc)
  have hreverse : (a ++ '.' :: signature).reverse = signature.reverse ++ '.' :: a.reverse := by simp
  rw [rsplitDot, if_pos (by simp), List.rdropWhile, List.rtakeWhile, hreverse, List.dropWhile_append_of_pos hall,
    List.takeWhile_append_of_pos hall]
  simp

/-! ## Tokens -/

theorem expiry_eq_ok {issuedAt lastSeen now : ℚ} : codec.expiry issuedAt lastSeen now = .ok () ↔
    now - issuedAt ≤ codec.absoluteTimeoutSeconds ∧ now - lastSeen ≤ codec.idleTimeoutSeconds := by
  unfold expiry
  split_ifs with habsolute hidle
  · simp [not_le.2 habsolute]
  · simp [not_le.2 hidle]
  · simp [not_lt.1 habsolute, not_lt.1 hidle]

/-- what is read of a signed payload: the claims, while they last -/
theorem read_dumps (h : codec.lib.Decodes) {c c' : Claims} (hc : c.Textual) {now : ℚ} :
    codec.read (codec.lib.dumps c.fields) now = .ok c' ↔
      c' = c ∧ now - c.issuedAt ≤ codec.absoluteTimeoutSeconds ∧ now - c.lastSeen ≤ codec.idleTimeoutSeconds := by
  have hroles : listOf (if (Value.list c.roles).truthy then .list c.roles else .list []) = .ok c.roles := by
    cases hr : c.roles <;> simp [Value.truthy, listOf]
  have hread : codec.read (codec.lib.dumps c.fields) now = (codec.expiry c.issuedAt c.lastSeen now).map fun _ => c := by
    rw [read, h.loads_dumps c hc]
    have hget : ∀ key, c.loaded.callGet key = .ok (c.loaded.get key) := fun _ => rfl
    have hiat : c.loaded.get "iat" = .float c.issuedAt := rfl
    have hseen : c.loaded.get "seen" = .float c.lastSeen := rfl
    have hr : c.loaded.get "r" = .list c.roles := rfl
    have hhas : c.loaded.has "iat" = true ∧ c.loaded.has "seen" = true := ⟨rfl, rfl⟩
    have hchg : (c.loaded.get "chg").truthy = c.mustChangePassword := rfl
    have hfloat : ∀ q, floatOf (.float q) = .ok q := fun _ => rfl
    simp only [hget, hiat, hseen, hr, hhas, hchg, hfloat, hroles, lift, Except.mapError, if_true, bind, Except.bind]
    cases codec.expiry c.issuedAt c.lastSeen now with
    | error e => rfl
    | ok u => rfl
  rw [hread, map_eq_ok, ← expiry_eq_ok]
  constructor
  · rintro ⟨⟨⟩, hexpiry, rfl⟩
    exact ⟨rfl, hexpiry⟩
  · rintro ⟨rfl, hexpiry⟩
    exact ⟨(), hexpiry, rfl⟩

theorem compareDigest_sign (payload : List UInt8) (signature : List Char) :
    compareDigest (codec.sign payload) signature = .ok true ↔ signature = codec.sign payload := by
  unfold compareDigest
  split_ifs with hascii
  · simp [eq_comm]
  · refine iff_of_false nofun ?_
    rintro rfl
    exact hascii ⟨b64encode_ascii _, b64encode_ascii _⟩

/-- **What is accepted** is a payload with its signature. -/
theorem verify_eq_ok {text : List Char} {now : ℚ} {c : Claims} :
    codec.verify text now = .ok c ↔ ∃ encoded payload, rsplitDot text = some (encoded, codec.sign payload) ∧
      b64decode codec.lib encoded = some payload ∧ codec.read payload now = .ok c := by
  unfold verify
  cases hsplit : rsplitDot text with
  | none => simp
  | some parts =>
    obtain ⟨encoded, signature⟩ := parts
    cases hdecode : b64decode codec.lib encoded with
    | none =>
      simp only [hdecode, reduceCtorEq, false_iff]
      rintro ⟨encoded', payload, heq, hdecode', -⟩
      obtain ⟨rfl, -⟩ := Prod.mk.inj (Option.some.inj heq)
      rw [hdecode] at hdecode'
      cases hdecode'
    | some payload =>
      have hunique : (∃ encoded' payload', some (encoded, signature) = some (encoded', codec.sign payload') ∧
          b64decode codec.lib encoded' = some payload' ∧ codec.read payload' now = .ok c) ↔
            signature = codec.sign payload ∧ codec.read payload now = .ok c := by
        constructor
        · rintro ⟨encoded', payload', heq, hdecode', hread⟩
          obtain ⟨rfl, rfl⟩ := Prod.mk.inj (Option.some.inj heq)
          obtain rfl := Option.some.inj (hdecode.symm.trans hdecode')
          exact ⟨rfl, hread⟩
        · rintro ⟨rfl, hread⟩
          exact ⟨encoded, payload, rfl, hdecode, hread⟩
      rw [hunique, ← compareDigest_sign]
      simp only [hdecode]
      cases compareDigest (codec.sign payload) signature with
      | error e => simp
      | ok same => cases same <;> simp

theorem rsplitDot_token (c : Claims) : rsplitDot (codec.token c) =
    some (b64encode (codec.lib.dumps c.fields), codec.sign (codec.lib.dumps c.fields)) :=
  rsplitDot_append (dot_not_mem_b64encode _)

/-- **A token that was issued** is accepted exactly within both lifetimes, and carries its claims. -/
theorem verify_token (h : codec.lib.Decodes) {c c' : Claims} (hc : c.Textual) {now : ℚ} :
    codec.verify (codec.token c) now = .ok c' ↔
      c' = c ∧ now - c.issuedAt ≤ codec.absoluteTimeoutSeconds ∧ now - c.lastSeen ≤ codec.idleTimeoutSeconds := by
  have hsplit := @rsplitDot_token codec c
  rw [verify_eq_ok, ← read_dumps h hc]
  constructor
  · rintro ⟨encoded, payload, heq, hdecode, hread⟩
    obtain ⟨rfl, -⟩ := Prod.mk.inj (Option.some.inj (hsplit.symm.trans heq))
    obtain rfl := Option.some.inj ((b64decode_b64encode h _).symm.trans hdecode)
    exact hread
  · intro hread
    exact ⟨_, _, hsplit, b64decode_b64encode h _, hread⟩

end SessionCodec

end TrinoManagement.Sessions
