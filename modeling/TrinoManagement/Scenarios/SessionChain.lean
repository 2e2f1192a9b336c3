/-
Sessions: the tokens a login leads to, and the tokens anyone may present.

- `Chain`: a login, then verified and refreshed any number of times; `chain_token` is what each of its tokens says.
- `Gate`, `step`: a portal that issues tokens at logins, verifies whatever is presented, and refreshes what it accepts.
- `Unforged`: a signature is over something that was issued. `accepted_issued`: what is accepted was issued.
- `sessions_sound`: both.
-/
import Mathlib.Tactic
import TrinoManagement.Auth.Sessions
import TrinoManagement.Core.Run

namespace TrinoManagement.Sessions

open TrinoManagement.Run (Each Meets each_nil each_snoc run run_inv)

variable {codec : SessionCodec}

/-! ## One login -/

/-- who logs in -/
structure User where
  username : String
  roles : List String
  mustChangePassword : Bool
deriving DecidableEq, Repr

/-- the claims of a token of the user's session -/
def User.claims (u : User) (login seen : ℚ) : Claims :=
  ⟨.str u.username, u.roles.map .str, login, seen, u.mustChangePassword⟩

theorem textual_claims (u : User) (login seen : ℚ) : (u.claims login seen).Textual := ⟨⟨_, rfl⟩, ⟨_, rfl⟩⟩

/-- the token of a login -/
def SessionCodec.login (codec : SessionCodec) (u : User) (now : ℚ) : List Char :=
  codec.issue (.str u.username) (u.roles.map .str) now none u.mustChangePassword

/-- the tokens a login at `login` leads to, with the time each was issued: one that is accepted is refreshed later on -/
inductive Chain (codec : SessionCodec) (u : User) (login : ℚ) : List Char → ℚ → Prop
  | login : Chain codec u login (codec.login u login) login
  | refresh {token : List Char} {issued verified refreshed : ℚ} {c : Claims} (h : Chain codec u login token issued)
    (hverified : issued ≤ verified) (hc : codec.verify token verified = .ok c) (hrefreshed : verified ≤ refreshed) :
    Chain codec u login (codec.refresh c refreshed) refreshed

/-- every token of the chain is that of the user's claims -/
theorem chain_token (h : codec.lib.Decodes) {u : User} {login issued : ℚ} {token : List Char}
    (hchain : Chain codec u login token issued) : token = codec.token (u.claims login issued) := by
  induction hchain with
  | login => rfl
  | refresh hchain hverified hc hrefreshed ih =>
    subst ih
    obtain ⟨rfl, -⟩ := (SessionCodec.verify_token h (textual_claims u login _)).1 hc
    rfl

/-! ## Anyone's tokens -/

inductive Event where
  | issued (text : List Char) (c : Claims)
  | accepted (text : List Char) (c : Claims)
deriving DecidableEq

/-- the claims tokens were issued for -/
def issuedIn (h : List Event) : List Claims := h.filterMap fun
  | .issued _ c => some c
  | .accepted .. => none

structure Gate where
  now : ℚ
  history : List Event

/-- time passes, then somebody logs in, or a token is presented, and refreshed if it is accepted -/
inductive Visit where
  | login (idle : ℚ≥0) (u : User)
  | present (idle serving : ℚ≥0) (text : List Char)

def step (codec : SessionCodec) (s : Gate) : Visit → Gate
  | .login idle u =>
    let now := s.now + idle
    ⟨now, s.history ++ [.issued (codec.login u now) (u.claims now now)]⟩
  | .present idle serving text =>
    match codec.verify text (s.now + idle) with
    | .error _ => { s with now := s.now + idle }
    | .ok c =>
      let now := s.now + idle + serving
      ⟨now, s.history ++ [.accepted text c] ++ [.issued (codec.refresh c now) { c with lastSeen := now }]⟩

/-- **Unforgeability.** A text that carries the HMAC of a payload under the secret carries it over claims a token was issued
for. -/
def Unforged (codec : SessionCodec) (s : Gate) : Visit → Prop
  | .login .. => True
  | .present _ _ text => ∀ encoded payload,
      rsplitDot text = some (encoded, b64encode (codec.lib.hmac (codec.lib.utf8 codec.secret) payload)) →
      b64decode codec.lib encoded = some payload → ∃ c ∈ issuedIn s.history, payload = codec.lib.dumps c.fields

/-- nobody forges by presenting what was issued -/
theorem unforged_issued (h : codec.lib.Decodes) {s : Gate} {c : Claims} (hc : c ∈ issuedIn s.history) (idle serving : ℚ≥0) :
    Unforged codec s (.present idle serving (codec.token c)) := by
  intro encoded payload hsplit hdecode
  obtain ⟨rfl, -⟩ := Prod.mk.inj (Option.some.inj ((SessionCodec.rsplitDot_token c).symm.trans hsplit))
  exact ⟨c, hc, (Option.some.inj ((SessionCodec.b64decode_b64encode h _).symm.trans hdecode)).symm⟩

/-- what is accepted was issued before -/
def Backed (before : List Event) : Event → Prop
  | .issued .. => True
  | .accepted _ c => c ∈ issuedIn before

structure Inv (s : Gate) : Prop where
  textual : ∀ c ∈ issuedIn s.history, c.Textual
  backed : Each Backed s.history

theorem issuedIn_issued (h : List Event) (text : List Char) (c : Claims) :
    issuedIn (h ++ [.issued text c]) = issuedIn h ++ [c] := by
  simp [issuedIn]

theorem issuedIn_accepted (h : List Event) (text : List Char) (c : Claims) :
    issuedIn (h ++ [.accepted text c]) = issuedIn h := by
  simp [issuedIn]

/-- **What is accepted was issued**, where no signature is forged. -/
theorem accepted_issued (h : codec.lib.Decodes) {s : Gate} (hs : Inv s) {idle serving : ℚ≥0} {text : List Char} {now : ℚ}
    {c : Claims} (hforged : Unforged codec s (.present idle serving text)) (hc : codec.verify text now = .ok c) :
    c ∈ issuedIn s.history := by
  obtain ⟨encoded, payload, hsplit, hdecode, hread⟩ := SessionCodec.verify_eq_ok.1 hc
  obtain ⟨c', hc', rfl⟩ := hforged encoded payload hsplit hdecode
  obtain ⟨rfl, -⟩ := (SessionCodec.read_dumps h (hs.textual c' hc')).1 hread
  exact hc'

/-- another token -/
theorem Inv.issue {h : List Event} {now now' : ℚ} (hs : Inv ⟨now, h⟩) (text : List Char) {c : Claims} (hc : c.Textual) :
    Inv ⟨now', h ++ [.issued text c]⟩ where
  textual := by
    intro c' hc'
    rw [issuedIn_issued] at hc'
    rcases List.mem_append.1 hc' with hc' | hc'
    · exact hs.textual c' hc'
    · rwa [List.mem_singleton.1 hc']
  backed := each_snoc.2 ⟨hs.backed, trivial⟩

theorem Inv.accept {h : List Event} {now now' : ℚ} (hs : Inv ⟨now, h⟩) (text : List Char) {c : Claims}
    (hc : c ∈ issuedIn h) : Inv ⟨now', h ++ [.accepted text c]⟩ where
  textual := by
    intro c' hc'
    rw [issuedIn_accepted] at hc'
    exact hs.textual c' hc'
  backed := each_snoc.2 ⟨hs.backed, hc⟩

theorem inv_step (h : codec.lib.Decodes) {s : Gate} {v : Visit} (hs : Inv s) (hv : Unforged codec s v) :
    Inv (step codec s v) := by
  cases v with
  | login idle u => exact hs.issue _ (textual_claims u _ _)
  | present idle serving text =>
    cases hverify : codec.verify text (s.now + idle) with
    | error e =>
      simp only [step, hverify]
      exact ⟨hs.textual, hs.backed⟩
    | ok c =>
      have hc := accepted_issued h hs hv hverify
      simp only [step, hverify]
      have haccepted : Inv ⟨s.now, s.history ++ [.accepted text c]⟩ := hs.accept text hc
      exact haccepted.issue _ (hs.textual c hc)

/-! ## The theorem -/

/-- **Session lifetime and content.** -/
theorem sessions_sound (h : codec.lib.Decodes) :
    (∀ u login token issued, Chain codec u login token issued →
      (∀ t, (∃ c, codec.verify token t = .ok c) ↔
        t - login ≤ codec.absoluteTimeoutSeconds ∧ t - issued ≤ codec.idleTimeoutSeconds) ∧
      ∀ t c, codec.verify token t = .ok c →
        c.username = .str u.username ∧ c.roles = u.roles.map .str ∧ c.mustChangePassword = u.mustChangePassword ∧
          c.issuedAt = login ∧ c.lastSeen = issued) ∧
    ∀ now visits, Meets (step codec) (Unforged codec) ⟨now, []⟩ visits →
      Each Backed (run (step codec) ⟨now, []⟩ visits).history := by
  refine ⟨fun u login token issued hchain => ?_, fun now visits hvisits => ?_⟩
  · obtain rfl := chain_token h hchain
    refine ⟨fun t => ?_, fun t c hc => ?_⟩
    · constructor
      · rintro ⟨c, hc⟩
        exact ((SessionCodec.verify_token h (textual_claims u login issued)).1 hc).2
      · intro hlasts
        exact ⟨_, (SessionCodec.verify_token h (textual_claims u login issued)).2 ⟨rfl, hlasts⟩⟩
    · obtain ⟨rfl, -⟩ := (SessionCodec.verify_token h (textual_claims u login issued)).1 hc
      exact ⟨rfl, rfl, rfl, rfl, rfl⟩
  · have hstart : Inv ⟨now, []⟩ := ⟨by simp [issuedIn], each_nil⟩
    exact (run_inv Inv (fun _ _ hs hv => inv_step h hs hv) hvisits hstart).backed

/-! ### One session -/

def kim : User := ⟨"kim", ["viewer"], false⟩

def loginText : String := "\x7b\"chg\":false,\"iat\":1000.0,\"r\":[\"viewer\"],\"seen\":1000.0,\"u\":\"kim\"\x7d"

def refreshText : String := "\x7b\"chg\":false,\"iat\":1000.0,\"r\":[\"viewer\"],\"seen\":1600.0,\"u\":\"kim\"\x7d"

def ascii (s : String) : List UInt8 := s.toList.map fun c => UInt8.ofNat c.toNat

/-- text as code points, so that it can be numbered -/
def points : Value → List ℕ
  | .str s => s.toList.map Char.toNat
  | _ => []

def ofPoints (ns : List ℕ) : Value := .str (String.ofList (ns.map Char.ofNat))

theorem ofPoints_points (s : String) : ofPoints (points (.str s)) = .str s := by
  simp [ofPoints, points, List.map_map, Function.comp_def]

/-- other claims than kim's are numbered -/
def number : List (String × Value) → ℕ
  | [(_, u), (_, .list roles), (_, .float issuedAt), (_, .float lastSeen), (_, .bool chg)] =>
    Encodable.encode (points u, roles.map points, issuedAt, lastSeen, chg)
  | _ => 0

def ofNumber (n : ℕ) : Option Claims :=
  (Encodable.decode (α := List ℕ × List (List ℕ) × ℚ × ℚ × Bool) n).map fun (u, roles, issuedAt, lastSeen, chg) =>
    ⟨ofPoints u, roles.map ofPoints, issuedAt, lastSeen, chg⟩

theorem ofNumber_number {c : Claims} (hc : c.Textual) : ofNumber (number c.fields) = some c := by
  obtain ⟨username, roles, issuedAt, lastSeen, chg⟩ := c
  obtain ⟨⟨name, rfl⟩, names, rfl⟩ := hc
  simp [ofNumber, number, Claims.fields, ofPoints_points, List.map_map, Function.comp_def]

/-- JSON, base64 and the HMAC of kim's session -/
def library : Library where
  dumps fields :=
    if fields = (kim.claims 1000 1000).fields then ascii loginText
    else if fields = (kim.claims 1000 1600).fields then ascii refreshText
    else List.replicate (number fields) 0
  loads bytes :=
    if bytes = ascii loginText then .value (kim.claims 1000 1000).loaded
    else if bytes = ascii refreshText then .value (kim.claims 1000 1600).loaded
    else match ofNumber bytes.length with
      | some c => .value c.loaded
      | none => .valueError
  hmac _ payload :=
    if payload = ascii loginText then
      [106, 194, 140, 125, 84, 210, 30, 239, 90, 26, 169, 12, 146, 4, 79, 243, 119, 164, 201, 224, 142, 158, 234, 218, 28,
        127, 239, 164, 136, 36, 181, 145]
    else if payload = ascii refreshText then
      [97, 130, 191, 50, 16, 245, 102, 84, 216, 74, 126, 221, 138, 64, 96, 234, 161, 232, 145, 126, 203, 236, 7, 141, 1,
        239, 173, 69, 159, 199, 220, 174]
    else []
  urlsafeB64decode := Base64.decode
  utf8 := ascii

theorem fields_injective {c c' : Claims} (h : c.fields = c'.fields) : c = c' := by
  obtain ⟨username, roles, issuedAt, lastSeen, chg⟩ := c
  obtain ⟨username', roles', issuedAt', lastSeen', chg'⟩ := c'
  simp only [Claims.fields, List.cons.injEq, Prod.mk.injEq, Value.list.injEq, Value.float.injEq, Value.bool.injEq,
    true_and, and_true] at h
  obtain ⟨rfl, rfl, rfl, rfl, rfl⟩ := h
  rfl

/-- zeros are not JSON -/
theorem replicate_ne_ascii (n : ℕ) : List.replicate n 0 ≠ ascii loginText ∧ List.replicate n 0 ≠ ascii refreshText := by
  have hhead : (ascii loginText).head? = some 123 ∧ (ascii refreshText).head? = some 123 := by decide
  constructor
  · intro h
    have := hhead.1
    rw [← h] at this
    cases n <;> simp [List.replicate_succ] at this
  · intro h
    have := hhead.2
    rw [← h] at this
    cases n <;> simp [List.replicate_succ] at this

theorem library_decodes : library.Decodes where
  loads_dumps := by
    intro c hc
    dsimp only [library]
    by_cases hlogin : c.fields = (kim.claims 1000 1000).fields
    · obtain rfl := fields_injective hlogin
      rw [if_pos rfl, if_pos rfl]
    · rw [if_neg hlogin]
      by_cases hrefresh : c.fields = (kim.claims 1000 1600).fields
      · obtain rfl := fields_injective hrefresh
        have hne : ascii refreshText ≠ ascii loginText := by decide
        rw [if_pos rfl, if_neg hne, if_pos rfl]
      · obtain ⟨hlogin', hrefresh'⟩ := replicate_ne_ascii (number c.fields)
        rw [if_neg hrefresh, if_neg hlogin', if_neg hrefresh', List.length_replicate, ofNumber_number hc]
  decode_encode := Base64.decode_encode

def portal : SessionCodec := ⟨library, "s3cret", by decide, 1800, 43200⟩

theorem kim_refreshed : Chain portal kim 1000 (portal.refresh (kim.claims 1000 1000) 1600) 1600 := by
  refine @Chain.refresh _ _ _ _ _ 1600 _ _ .login (by norm_num) ?_ (by norm_num)
  exact (SessionCodec.verify_token library_decodes (textual_claims kim 1000 1000)).2 ⟨rfl, by norm_num [User.claims, portal]⟩

/-- kim logs in and comes back with the token -/
def visits : List Visit := [.login 1000 kim, .present 300 300 (portal.token (kim.claims 1000 1000))]

theorem visits_unforged : Meets (step portal) (Unforged portal) ⟨0, []⟩ visits := by
  refine ⟨trivial, unforged_issued library_decodes ?_ _ _, trivial⟩
  simp [step, issuedIn]

theorem sessions_sound_kim :
    (∃ c, portal.verify (portal.refresh (kim.claims 1000 1000) 1600) 3400 = .ok c) ∧
      (¬∃ c, portal.verify (portal.refresh (kim.claims 1000 1000) 1600) 3401 = .ok c) ∧
      Each Backed (run (step portal) ⟨0, []⟩ visits).history :=
  ⟨(((sessions_sound library_decodes).1 kim 1000 _ 1600 kim_refreshed).1 3400).2 (by norm_num [portal]),
    fun h => absurd ((((sessions_sound library_decodes).1 kim 1000 _ 1600 kim_refreshed).1 3401).1 h).2 (by norm_num [portal]),
    (sessions_sound library_decodes).2 0 visits visits_unforged⟩

end TrinoManagement.Sessions
