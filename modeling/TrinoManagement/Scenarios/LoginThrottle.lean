/-
Login attempts of any users, one after the other.

- `Door`: the clock, the authenticator and the attempts so far; `step` makes one more.
- `since`: the failures of a user after the last success, none of them forgotten; `Inv`: what the authenticator remembers
  counts the same at any later moment.
- `window_few`: a window the length of a lockout holds few failed verifications.
- `login_throttled`: this, and that a refusal says exactly when the next attempt is verified.
-/
import Mathlib.Tactic
import TrinoManagement.Auth.Local
import TrinoManagement.Core.Run

namespace TrinoManagement.Auth

open TrinoManagement.Run (Each each_nil each_snoc meets_of_forall run run_inv)
open TrinoManagement.Window (counts_before length_recent_lt mem_recent recent recent_append recent_nil recent_recent
  recent_sublist)

/-! ## Attempts one after the other -/

/-- an attempt that was made -/
structure Login where
  username : String
  readings : Readings
  outcome : Outcome
deriving DecidableEq

structure Door where
  now : ℚ
  authenticator : Authenticator
  history : List Login

/-- an attempt, made after a pause, with the accounts as they are then -/
structure Attempt where
  idle : ℚ≥0
  verifying : ℚ≥0
  answering : ℚ≥0
  dummy : String
  users : String → Option LocalUser
  username : String
  password : String

def Attempt.readings (a : Attempt) (now : ℚ) : Readings where
  checked := now + a.idle
  verified := now + a.idle + a.verifying
  asked := now + a.idle + a.verifying + a.answering
  checked_le := le_add_of_nonneg_right a.verifying.2
  verified_le := le_add_of_nonneg_right a.answering.2

def step (verify : String → String → Except PyError Bool) (s : Door) (a : Attempt) : Door :=
  let r := a.readings s.now
  let (result, authenticator) := s.authenticator.authenticate a.username verify a.dummy a.users r a.password
  ⟨r.asked, authenticator,
    s.history ++ [⟨a.username, r, outcome (authenticator.secondsUntilUnlock a.username r.asked) result⟩]⟩

/-- nobody has tried yet -/
def start (now : ℚ) : Door := ⟨now, ⟨[]⟩, []⟩

/-- one more attempt: a success of the user forgets the failures, a failure adds to them -/
def remember (username : String) (ts : List ℚ) (l : Login) : List ℚ :=
  if l.username = username then
    match l.outcome with
    | .admitted => []
    | .failed => ts ++ [l.readings.asked]
    | .locked _ | .broke => ts
  else ts

/-- when each failure since the user's last success was recorded -/
def since (h : List Login) (username : String) : List ℚ := h.foldl (remember username) []

/-! ## What each attempt shows -/

/-- an attempt `l` after the attempts `before`: refused exactly if enough failures still count -/
structure Throttled (before : List Login) (l : Login) : Prop where
  ordered : ∀ m ∈ before, m.readings.asked ≤ l.readings.checked
  locked : (∃ d, l.outcome = .locked d) ↔
    maxFailedAttempts ≤ (recent lockoutSeconds l.readings.checked (since before l.username)).length
  remaining : ∀ d, l.outcome = .locked d →
    (recent lockoutSeconds l.readings.checked (since before l.username)).length = maxFailedAttempts ∧
      d = untilUnlock (recent lockoutSeconds l.readings.checked (since before l.username)) l.readings.asked

theorem since_snoc (h : List Login) (l : Login) (username : String) :
    since (h ++ [l]) username = remember username (since h username) l := by
  simp [since, List.foldl_append]

structure Inv (s : Door) : Prop where
  /-- what is remembered of a user counts the same from now on -/
  agrees : ∀ username t, s.now ≤ t →
    recent lockoutSeconds t (s.authenticator.attempts username) = recent lockoutSeconds t (since s.history username)
  few : ∀ username, (s.authenticator.attempts username).length ≤ maxFailedAttempts
  past : ∀ m ∈ s.history, m.readings.asked ≤ s.now
  throttled : Each Throttled s.history

theorem inv_start (now : ℚ) : Inv (start now) where
  agrees _ _ _ := rfl
  few _ := Nat.zero_le _
  past := by simp [start]
  throttled := each_nil

/-- the user's failures after one more attempt count as the history says -/
theorem Tries.agrees {r : Readings} {old new ts : List ℚ} {o : Outcome} {username : String} (h : Tries r old o new)
    (hold : ∀ t, r.checked ≤ t → recent lockoutSeconds t old = recent lockoutSeconds t ts) {t : ℚ} (ht : r.asked ≤ t) :
    recent lockoutSeconds t new = recent lockoutSeconds t (remember username ts ⟨username, r, o⟩) := by
  have hchecked : r.checked ≤ t := (r.checked_le.trans r.verified_le).trans ht
  cases h with
  | locked h => simp [remember, recent_recent hchecked, hold t hchecked]
  | failed h => simp [remember, recent_append, recent_recent ht, hold t hchecked]
  | admitted h => simp [remember]
  | broke h => simp [remember, recent_recent hchecked, hold t hchecked]

theorem Tries.few {r : Readings} {old new : List ℚ} {o : Outcome} (h : Tries r old o new)
    (hold : old.length ≤ maxFailedAttempts) : new.length ≤ maxFailedAttempts := by
  cases h with
  | locked h => exact recent_sublist.length_le.trans hold
  | failed h =>
    have hle : (recent lockoutSeconds r.asked old).length ≤ (recent lockoutSeconds r.checked old).length :=
      Window.length_recent_le (r.checked_le.trans r.verified_le)
    simp only [List.length_append, List.length_singleton]
    omega
  | admitted h => exact Nat.zero_le _
  | broke h => exact h.le

theorem Tries.throttled {before : List Login} {r : Readings} {old new : List ℚ} {o : Outcome} {username : String}
    (h : Tries r old o new) (hfew : old.length ≤ maxFailedAttempts)
    (hold : recent lockoutSeconds r.checked old = recent lockoutSeconds r.checked (since before username))
    (hpast : ∀ m ∈ before, m.readings.asked ≤ r.checked) : Throttled before ⟨username, r, o⟩ := by
  have hle : (recent lockoutSeconds r.checked old).length ≤ maxFailedAttempts := recent_sublist.length_le.trans hfew
  refine ⟨hpast, ?_, ?_⟩
  · dsimp only
    rw [← hold]
    cases h with
    | locked h => exact iff_of_true ⟨_, rfl⟩ h
    | failed h => exact iff_of_false nofun (not_le.2 h)
    | admitted h => exact iff_of_false nofun (not_le.2 h)
    | broke h => exact iff_of_false nofun (not_le.2 h)
  · intro d hd
    dsimp only at hd ⊢
    rw [← hold]
    cases h with
    | locked h =>
      cases hd
      exact ⟨le_antisymm hle h, rfl⟩
    | failed h => cases hd
    | admitted h => cases hd
    | broke h => cases hd

theorem inv_step (verify : String → String → Except PyError Bool) {s : Door} (h : Inv s) (a : Attempt) :
    Inv (step verify s a) := by
  have hchecked : s.now ≤ (a.readings s.now).checked := le_add_of_nonneg_right a.idle.2
  have hasked : (a.readings s.now).checked ≤ (a.readings s.now).asked :=
    (a.readings s.now).checked_le.trans (a.readings s.now).verified_le
  unfold step
  dsimp only
  cases hauth : s.authenticator.authenticate a.username verify a.dummy a.users (a.readings s.now) a.password with
  | mk result authenticator =>
    obtain ⟨htries, hothers⟩ := authenticate_spec hauth
    dsimp only
    generalize outcome (authenticator.secondsUntilUnlock a.username (a.readings s.now).asked) result = o at htries ⊢
    have hpast : ∀ m ∈ s.history, m.readings.asked ≤ (a.readings s.now).checked := fun m hm => (h.past m hm).trans hchecked
    refine ⟨?_, ?_, ?_, each_snoc.2 ⟨h.throttled, ?_⟩⟩
    · intro username t ht
      dsimp only at ht ⊢
      rw [since_snoc]
      by_cases huser : username = a.username
      · subst huser
        exact htries.agrees (fun u hu => h.agrees a.username u (hchecked.trans hu)) ht
      · rw [hothers username huser, remember, if_neg (Ne.symm huser)]
        exact h.agrees username t (by linarith)
    · intro username
      by_cases huser : username = a.username
      · subst huser
        exact htries.few (h.few a.username)
      · exact (congrArg List.length (hothers username huser)).trans_le (h.few username)
    · intro m hm
      rcases List.mem_append.1 hm with hm | hm
      · exact (hpast m hm).trans hasked
      · obtain rfl := List.mem_singleton.1 hm
        exact le_refl _
    · exact htries.throttled (h.few a.username) (h.agrees a.username _ hchecked) hpast

theorem inv_run (verify : String → String → Except PyError Bool) {s : Door} (h : Inv s) (attempts : List Attempt) :
    Inv (run (step verify) s attempts) :=
  run_inv Inv (fun _ a hs _ => inv_step verify hs a) (meets_of_forall (p := fun _ => True) fun _ _ => trivial) h

/-! ## Any window -/

/-- the failure of a user's verification within the lockout's length from `start` on -/
def FailedIn (username : String) (begins : ℚ) (l : Login) : Prop :=
  l.username = username ∧ l.outcome = .failed ∧ begins ≤ l.readings.verified ∧ l.readings.verified < begins + lockoutSeconds

/-- a success there -/
def AdmittedIn (username : String) (begins : ℚ) (l : Login) : Prop :=
  l.username = username ∧ l.outcome = .admitted ∧ begins ≤ l.readings.verified ∧
    l.readings.verified < begins + lockoutSeconds

instance (username : String) (begins : ℚ) : DecidablePred (FailedIn username begins) :=
  fun _ => inferInstanceAs (Decidable (_ ∧ _ ∧ _ ∧ _))

variable {h : List Login} {username : String} {begins t : ℚ}

/-- in a window without a success, at the moment `t` of that window, each of its failures still counts -/
theorem window_counts (hall : Each Throttled h) (hpast : ∀ m ∈ h, m.readings.asked ≤ t) (ht : t < begins + lockoutSeconds)
    (hnone : ∀ m ∈ h, ¬AdmittedIn username begins m) :
    h.countP (fun l => FailedIn username begins l) ≤ (recent lockoutSeconds t (since h username)).length := by
  induction h using List.reverseRecOn with
  | nil => simp
  | append_singleton h l ih =>
    obtain ⟨hall, hl⟩ := each_snoc.1 hall
    have hle := ih hall (fun m hm => hpast m (by simp [hm])) (fun m hm => hnone m (by simp [hm]))
    have hasked := hpast l (by simp)
    have hverified := l.readings.verified_le
    have hgrows : (recent lockoutSeconds t (since h username)).length ≤
        (recent lockoutSeconds t (since h username ++ [l.readings.asked])).length := by
      simp [recent_append]
    rw [List.countP_append, List.countP_singleton, since_snoc, remember]
    by_cases huser : l.username = username
    · rw [if_pos huser]
      cases ho : l.outcome with
      | failed =>
        dsimp only
        by_cases hfailed : FailedIn username begins l
        · have hcounts : t - l.readings.asked < lockoutSeconds := by linarith [hfailed.2.2.1]
          rw [if_pos (by simpa using hfailed), recent_append, List.length_append]
          simpa [recent, hcounts] using hle
        · rw [if_neg (by simpa using hfailed)]
          exact hle.trans hgrows
      | admitted =>
        -- a success before the window: nothing in the window came before it
        have hearly : l.readings.verified < begins := by
          by_contra hlate
          exact hnone l (by simp) ⟨huser, ho, not_lt.1 hlate, by linarith⟩
        have hzero : h.countP (fun m => FailedIn username begins m) = 0 := by
          refine List.countP_eq_zero.2 fun m hm => ?_
          have hbefore := hl.ordered m hm
          have hm' := m.readings.verified_le
          have hl' := l.readings.checked_le
          simp only [decide_eq_true_eq]
          intro hfailed
          linarith [hfailed.2.2.1]
        have hno : ¬FailedIn username begins l := fun hfailed => by simp [hfailed.2.1] at ho
        rw [hzero, if_neg (by simpa using hno)]
        exact Nat.zero_le _
      | locked d =>
        have hno : ¬FailedIn username begins l := fun hfailed => by simp [hfailed.2.1] at ho
        rw [if_neg (by simpa using hno)]
        exact hle
      | broke =>
        have hno : ¬FailedIn username begins l := fun hfailed => by simp [hfailed.2.1] at ho
        rw [if_neg (by simpa using hno)]
        exact hle
    · have hno : ¬FailedIn username begins l := fun hfailed => huser hfailed.1
      rw [if_neg huser, if_neg (by simpa using hno)]
      exact hle

/-- **A window the length of a lockout** without a success holds few failed verifications. -/
theorem window_few (hall : Each Throttled h) (hnone : ∀ m ∈ h, ¬AdmittedIn username begins m) :
    h.countP (fun l => FailedIn username begins l) ≤ maxFailedAttempts := by
  induction h using List.reverseRecOn with
  | nil => simp
  | append_singleton h l ih =>
    obtain ⟨hall, hl⟩ := each_snoc.1 hall
    have hle := ih hall fun m hm => hnone m (by simp [hm])
    rw [List.countP_append, List.countP_singleton]
    by_cases hfailed : FailedIn username begins l
    · -- it was verified, so few of the earlier ones still counted then
      obtain ⟨rfl, ho, -, hin⟩ := hfailed
      have hcounts := window_counts hall hl.ordered (lt_of_le_of_lt l.readings.checked_le hin)
        fun m hm => hnone m (by simp [hm])
      have hfew : (recent lockoutSeconds l.readings.checked (since h l.username)).length < maxFailedAttempts := by
        by_contra hmany
        obtain ⟨d, hd⟩ := hl.locked.2 (not_lt.1 hmany)
        rw [ho] at hd
        cases hd
      split_ifs <;> omega
    · rw [if_neg (by simpa using hfailed)]
      exact hle

/-! ## The wait -/

theorem since_append {mid : List Login} (hmid : ∀ m ∈ mid, m.username = username → ∃ d, m.outcome = .locked d) :
    since (h ++ mid) username = since h username := by
  induction mid using List.reverseRecOn with
  | nil => simp
  | append_singleton mid m ih =>
    rw [← List.append_assoc, since_snoc, remember, ih fun m' hm' => hmid m' (by simp [hm'])]
    by_cases huser : m.username = username
    · obtain ⟨d, hd⟩ := hmid m (by simp) huser
      simp [huser, hd]
    · rw [if_neg huser]

/-- failures are remembered in the order they were recorded in -/
theorem since_sorted (hall : Each Throttled h) : (since h username).Pairwise (· ≤ ·) ∧
    ∀ t ∈ since h username, ∃ m ∈ h, m.readings.asked = t := by
  induction h using List.reverseRecOn with
  | nil => simp [since]
  | append_singleton h l ih =>
    obtain ⟨hall, hl⟩ := each_snoc.1 hall
    obtain ⟨hsorted, hmem⟩ := ih hall
    have hkept : ∀ t ∈ since h username, ∃ m ∈ h ++ [l], m.readings.asked = t := by
      intro t ht
      obtain ⟨m, hm, ht⟩ := hmem t ht
      exact ⟨m, by simp [hm], ht⟩
    rw [since_snoc, remember]
    split_ifs with huser
    · cases l.outcome with
      | failed =>
        refine ⟨List.pairwise_append.2 ⟨hsorted, List.pairwise_singleton _ _, ?_⟩, ?_⟩
        · intro t ht u hu
          obtain rfl := List.mem_singleton.1 hu
          obtain ⟨m, hm, rfl⟩ := hmem t ht
          exact (hl.ordered m hm).trans (l.readings.checked_le.trans l.readings.verified_le)
        · intro t ht
          rcases List.mem_append.1 ht with ht | ht
          · exact hkept t ht
          · exact ⟨l, by simp, (List.mem_singleton.1 ht).symm⟩
      | admitted => simp
      | locked d => exact ⟨hsorted, hkept⟩
      | broke => exact ⟨hsorted, hkept⟩
    · exact ⟨hsorted, hkept⟩

/-- refused at a moment with `d` to wait: a later attempt with the same failures is refused exactly before `d` is over -/
theorem locked_until {ts : List ℚ} {checked asked t d : ℚ} (hsorted : ts.Pairwise (· ≤ ·))
    (hfive : (recent lockoutSeconds checked ts).length = maxFailedAttempts)
    (hd : d = untilUnlock (recent lockoutSeconds checked ts) asked) (hasked : asked ≤ t) (ht : checked ≤ t) :
    maxFailedAttempts ≤ (recent lockoutSeconds t ts).length ↔ t < asked + d := by
  rw [← recent_recent ht]
  have hsorted' : (recent lockoutSeconds checked ts).Pairwise (· ≤ ·) := hsorted.sublist recent_sublist
  cases hts : recent lockoutSeconds checked ts with
  | nil => simp [hts, maxFailedAttempts] at hfive
  | cons oldest rest =>
    rw [hts] at hfive hsorted' hd
    have hout : (recent lockoutSeconds t (oldest :: rest)).length < (oldest :: rest).length ↔ lockoutSeconds ≤ t - oldest :=
      length_recent_lt hsorted'
    rw [← hfive, ← not_lt, hout, not_le, hd, untilUnlock]
    constructor
    · intro h
      have := le_max_right 0 (lockoutSeconds - (asked - oldest))
      linarith
    · intro h
      rcases max_cases 0 (lockoutSeconds - (asked - oldest)) with ⟨heq, -⟩ | ⟨heq, -⟩
      · rw [heq] at h
        linarith
      · rw [heq] at h
        linarith

/-! ## The theorem -/

structure Throttles (h : List Login) : Prop where
  /-- at most five failed verifications of a user in a window the length of a lockout in which the user does not log in -/
  few : ∀ username begins, (∀ l ∈ h, ¬AdmittedIn username begins l) →
    h.countP (fun l => FailedIn username begins l) ≤ maxFailedAttempts
  /-- with `d` seconds to wait, the user's next attempt that is not refused is the first made after them -/
  wait : ∀ before l mid l' after d, h = before ++ l :: (mid ++ l' :: after) → l.outcome = .locked d →
    (∀ m ∈ mid, m.username = l.username → ∃ d', m.outcome = .locked d') → l'.username = l.username →
      ((∀ d', l'.outcome ≠ .locked d') ↔ l.readings.asked + d ≤ l'.readings.checked)

theorem throttles_of_each (hall : Each Throttled h) : Throttles h where
  few _ _ hnone := window_few hall hnone
  wait := by
    intro before l mid l' after d hh hd hmid huser
    have hl := hall before l _ hh
    have hsplit : h = (before ++ [l] ++ mid) ++ l' :: after := by simp [hh]
    have hl' := hall _ l' after hsplit
    obtain ⟨hfive, hremaining⟩ := hl.remaining d hd
    have hsame : since (before ++ [l] ++ mid) l'.username = since before l.username := by
      rw [huser, List.append_assoc]
      refine since_append fun m hm hm' => ?_
      rcases List.mem_append.1 hm with hm | hm
      · obtain rfl := List.mem_singleton.1 hm
        exact ⟨d, hd⟩
      · exact hmid m hm hm'
    have hbefore : Each Throttled before := by
      intro first m rest hrest
      exact hall first m (rest ++ l :: (mid ++ l' :: after)) (by simp [hh, hrest])
    have hasked := hl'.ordered l (by simp)
    have hlock := hl'.locked
    rw [hsame, locked_until (since_sorted hbefore).1 hfive hremaining hasked
      ((l.readings.checked_le.trans l.readings.verified_le).trans hasked)] at hlock
    rw [← not_exists, hlock, not_lt]

/-- **Login throttling**, over any attempts of any users at any times. -/
theorem login_throttled (verify : String → String → Except PyError Bool) (now : ℚ) (attempts : List Attempt) :
    Throttles (run (step verify) (start now) attempts).history :=
  throttles_of_each (inv_run verify (inv_start now) attempts).throttled

/-- five wrong guesses a second apart: the account is open again just when the first is as old as the lockout -/
example :
    let guess (idle : ℚ≥0) : Attempt := ⟨idle, 0, 0, "", fun _ => none, "admin", "guess"⟩
    (run (step fun _ _ => .ok false) (start 0) (guess 0 :: List.replicate 4 (guess 1) ++ [guess 0, guess 295, guess 1])).history.map
        (·.outcome) =
      [.failed, .failed, .failed, .failed, .failed, .locked 296, .locked 1, .failed] := by decide +kernel

end TrinoManagement.Auth
