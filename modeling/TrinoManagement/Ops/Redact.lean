/-
Masking secrets in the output of a command, `redact` of `tms/ops/process.py`.

The pattern is a name that reads like a secret's, a colon or an equals sign, and what follows up to the next white space. It is
modelled as a machine that goes through a line once: a name ends where its run of letters, digits, underscores and hyphens ends, and
once an equals sign has followed it nothing but the end of the line can keep the pattern from matching.
- `redactFrom_match`: what the pattern matches keeps its name and its sign, and the rest of it is three asterisks.
- `redactFrom_other`: any other name is passed over.
-/
import Mathlib.Tactic
import TrinoManagement.Core.Pattern

namespace TrinoManagement.Redaction

open TrinoManagement.Text

/-! ## The pattern -/

section Pattern

-- `str.isalnum` of a character beyond ASCII
variable (alnum : Char → Bool)

/-- `\w` -/
def isWord (c : Char) : Bool := if c.toNat < 128 then c.isAlphanum || c == '_' else alnum c

/-- `[\w-]` -/
def inName (c : Char) : Bool := isWord alnum c || c == '-'

/-- the words that may stand anywhere in a secret's name -/
def secretWords : List Pattern :=
  [word "password", word "passwd", word "secret", word "token",
    word "api" ++ .opt (fun c => c == '_' || c == '-') :: word "key"]

/-- a run of `[\w-]` that the pattern takes for a secret's name: one of the words is in it, or it ends in "pass", and it ends
at a word boundary -/
def isSecretName (run : List Char) : Bool :=
  run.getLast?.any (isWord alnum) && (search secretWords run || search [word "pass" ++ [.atEnd]] run)

/-- where the pattern is in a line -/
inductive Place where
  | idle
  /-- in a run of `[\w-]` -/
  | name (run : List Char)
  /-- after a secret's name, in the white space before its sign -/
  | named
  /-- after the sign, in the white space before the secret -/
  | assigned
  | secret
deriving DecidableEq, Repr

namespace Place

/-- the run so far -/
def run : Place → List Char
  | .name run => run
  | _ => []

/-- after a secret's name, if this is its end -/
def atSign (place : Place) : Bool :=
  match place with
  | .name run => isSecretName alnum run
  | .named => true
  | _ => false

def next (place : Place) (c : Char) : Place :=
  match place with
  | .secret => if isSpace c then .idle else .secret
  | .assigned => if isSpace c then .assigned else .secret
  | place =>
    if inName alnum c then .name (place.run ++ [c])
    else if place.atSign alnum then
      if isSpace c then .named else if c = ':' ∨ c = '=' then .assigned else .idle
    else .idle

/-- what is printed for a character: the first of a secret becomes the asterisks -/
def emits (place : Place) (c : Char) : List Char :=
  match place with
  | .secret => if isSpace c then [c] else []
  | .assigned => if isSpace c then [c] else ['*', '*', '*']
  | _ => [c]

end Place

def redactFrom : Place → List Char → List Char
  | _, [] => []
  | place, c :: rest => place.emits c ++ redactFrom (place.next alnum c) rest

def placeAfter (place : Place) (text : List Char) : Place := text.foldl (Place.next alnum) place

/-- `redact` -/
def redact (line : String) : String := String.ofList (redactFrom alnum .idle line.toList)

/-- what `stream_command` hands on of a line it read, if that is not blank -/
def handed (raw : String) : Option String :=
  let line := redact alnum (String.ofList (raw.toList.rdropWhile fun c => c == '\r' || c == '\n'))
  if blank line then none else some line

end Pattern

/-! ## What it matches -/

section Matches

variable {alnum : Char → Bool} {place : Place} {a b rest : List Char}

theorem redactFrom_append : redactFrom alnum place (a ++ b) =
    redactFrom alnum place a ++ redactFrom alnum (placeAfter alnum place a) b := by
  induction a generalizing place with
  | nil => rfl
  | cons c a ih => rw [List.cons_append, redactFrom, redactFrom, ih, List.append_assoc]; rfl

theorem placeAfter_append : placeAfter alnum place (a ++ b) = placeAfter alnum (placeAfter alnum place a) b :=
  List.foldl_append

theorem placeAfter_cons (c : Char) : placeAfter alnum place (c :: a) = placeAfter alnum (place.next alnum c) a := rfl

theorem next_name {run : List Char} {c : Char} : (Place.name run).next alnum c =
    if inName alnum c then .name (run ++ [c])
    else if isSecretName alnum run then if isSpace c then .named else if c = ':' ∨ c = '=' then .assigned else .idle
    else .idle := rfl

theorem next_idle {c : Char} : Place.idle.next alnum c = if inName alnum c then .name [c] else .idle := rfl

theorem next_named {c : Char} : Place.named.next alnum c =
    if inName alnum c then .name [c]
    else if isSpace c then .named else if c = ':' ∨ c = '=' then .assigned else .idle := rfl

theorem isSpace_le {c : Char} (h : isSpace c = true) (hc : c.toNat < 128) : c.toNat ≤ 32 := by
  simp only [isSpace, Bool.or_eq_true, Bool.and_eq_true, decide_eq_true_eq, beq_iff_eq] at h
  omega

/-- white space and signs are in no name -/
theorem inName_of_isSpace (halnum : ∀ c, isSpace c = true → alnum c = false) {c : Char} (h : isSpace c = true) :
    inName alnum c = false := by
  have hhyphen : c ≠ '-' := by
    rintro rfl
    revert h
    decide
  rw [inName, isWord, beq_eq_false_iff_ne.2 hhyphen, Bool.or_false]
  split_ifs with hascii
  · have hle := isSpace_le h hascii
    have hunder : c ≠ '_' := by
      rintro rfl
      revert hle
      decide
    rw [beq_eq_false_iff_ne.2 hunder, Bool.or_false]
    have hnot : c.isAlphanum ≠ true := by
      intro halphanum
      rcases Bool.or_eq_true_iff.1 halphanum with halpha | hdigit
      · rcases Bool.or_eq_true_iff.1 halpha with hupper | hlower
        · exact absurd ((isUpper_range hupper).1.trans hle) (by decide)
        · exact absurd ((isLower_range hlower).1.trans hle) (by decide)
      · exact absurd ((isDigit_range hdigit).1.trans hle) (by decide)
    exact Bool.eq_false_iff.2 hnot
  · exact halnum c h

theorem inName_of_sign {c : Char} (h : c = ':' ∨ c = '=') : inName alnum c = false ∧ isSpace c = false := by
  rcases h with rfl | rfl <;> exact ⟨rfl, rfl⟩

/-- a run is kept while it goes on -/
theorem redactFrom_run {run name : List Char} (h : ∀ c ∈ name, inName alnum c = true) :
    redactFrom alnum (.name run) name = name ∧ placeAfter alnum (.name run) name = .name (run ++ name) := by
  induction name generalizing run with
  | nil => simp [redactFrom, placeAfter]
  | cons c name ih =>
    obtain ⟨hc, hname⟩ := List.forall_mem_cons.1 h
    obtain ⟨hkept, hplace⟩ := @ih (run ++ [c]) hname
    constructor
    · rw [redactFrom, next_name, if_pos hc, hkept]
      rfl
    · rw [placeAfter_cons, next_name, if_pos hc, hplace, List.append_assoc, List.singleton_append]

/-- so is a name between names -/
theorem redactFrom_name {name : List Char} (hne : name ≠ []) (h : ∀ c ∈ name, inName alnum c = true) :
    redactFrom alnum .idle name = name ∧ placeAfter alnum .idle name = .name name := by
  cases name with
  | nil => exact absurd rfl hne
  | cons c name =>
    obtain ⟨hc, hname⟩ := List.forall_mem_cons.1 h
    obtain ⟨hkept, hplace⟩ := @redactFrom_run alnum [c] name hname
    constructor
    · rw [redactFrom, next_idle, if_pos hc, hkept]
      rfl
    · rw [placeAfter_cons, next_idle, if_pos hc, hplace]
      rfl

theorem redactFrom_spaces {spaces : List Char} (hplace : place = .named ∨ place = .assigned)
    (h : ∀ c ∈ spaces, isSpace c = true ∧ inName alnum c = false) :
    redactFrom alnum place spaces = spaces ∧ placeAfter alnum place spaces = place := by
  induction spaces with
  | nil => exact ⟨rfl, rfl⟩
  | cons c spaces ih =>
    obtain ⟨⟨hspace, hname⟩, hspaces⟩ := List.forall_mem_cons.1 h
    have hnext : place.next alnum c = place ∧ place.emits c = [c] := by
      rcases hplace with rfl | rfl
      · simp [next_named, Place.emits, hspace, hname]
      · simp [Place.next, Place.emits, hspace]
    obtain ⟨hkept, hafter⟩ := ih hspaces
    exact ⟨by rw [redactFrom, hnext.1, hnext.2, hkept]; rfl, by rw [placeAfter_cons, hnext.1, hafter]⟩

/-- nothing is left of a secret -/
theorem redactFrom_secret {secret : List Char} (h : ∀ c ∈ secret, isSpace c = false) :
    redactFrom alnum .secret secret = [] ∧ placeAfter alnum .secret secret = .secret := by
  induction secret with
  | nil => exact ⟨rfl, rfl⟩
  | cons c secret ih =>
    obtain ⟨hc, hsecret⟩ := List.forall_mem_cons.1 h
    have hnext : Place.secret.next alnum c = .secret := by simp [Place.next, hc]
    obtain ⟨hkept, hafter⟩ := ih hsecret
    exact ⟨by rw [redactFrom, hnext, hkept]; simp [Place.emits, hc], by rw [placeAfter_cons, hnext, hafter]⟩

/-- **Any other name** is passed over, with the character after it. -/
theorem redactFrom_other {name : List Char} {c : Char} (hname : ∀ c ∈ name, inName alnum c = true)
    (hother : isSecretName alnum name = false) (hc : inName alnum c = false) :
    redactFrom alnum .idle (name ++ c :: rest) = name ++ c :: redactFrom alnum .idle rest := by
  cases name with
  | nil =>
    rw [List.nil_append, List.nil_append, redactFrom, next_idle, if_neg (by simp [hc])]
    rfl
  | cons d name =>
    obtain ⟨hkept, hplace⟩ := redactFrom_name (List.cons_ne_nil d name) hname
    have hnext : (Place.name (d :: name)).next alnum c = .idle := by
      rw [next_name]
      simp [hc, hother]
    rw [redactFrom_append, hkept, hplace, redactFrom, hnext]
    rfl

/-- after a secret's name, white space and the sign -/
theorem redactFrom_sign {name spaces : List Char} {sign : Char} (hsecret : isSecretName alnum name = true)
    (hspaces : ∀ c ∈ spaces, isSpace c = true ∧ inName alnum c = false) (hsign : sign = ':' ∨ sign = '=') :
    redactFrom alnum (.name name) (spaces ++ [sign]) = spaces ++ [sign] ∧
      placeAfter alnum (.name name) (spaces ++ [sign]) = .assigned := by
  obtain ⟨hnone, hsolid⟩ := @inName_of_sign alnum sign hsign
  cases spaces with
  | nil =>
    refine ⟨rfl, ?_⟩
    rw [List.nil_append, placeAfter_cons, next_name]
    simp [hnone, hsolid, hsecret, hsign, placeAfter]
  | cons c spaces =>
    obtain ⟨⟨hspace, hname⟩, hrest⟩ := List.forall_mem_cons.1 hspaces
    obtain ⟨hkept, hplace⟩ := redactFrom_spaces (.inl rfl) hrest
    have hnext : (Place.name name).next alnum c = .named := by
      rw [next_name]
      simp [hname, hsecret, hspace]
    have hassigned : Place.named.next alnum sign = .assigned := by
      rw [next_named]
      simp [hnone, hsolid, hsign]
    constructor
    · rw [List.cons_append, redactFrom, hnext, redactFrom_append, hkept, hplace]
      rfl
    · rw [List.cons_append, placeAfter_cons, hnext, placeAfter_append, hplace, placeAfter_cons, hassigned]
      rfl

/-- **What the pattern matches** keeps its name and its sign, with the white space around the sign; the secret is three
asterisks, and the rest of the line is gone through afresh. -/
theorem redactFrom_match {name before after secret : List Char} {sign : Char} (hspaces : ∀ c, isSpace c = true → alnum c = false)
    (hname : ∀ c ∈ name, inName alnum c = true) (hsecretName : isSecretName alnum name = true)
    (hbefore : ∀ c ∈ before, isSpace c = true) (hsign : sign = ':' ∨ sign = '=') (hafter : ∀ c ∈ after, isSpace c = true)
    (hne : secret ≠ []) (hsecret : ∀ c ∈ secret, isSpace c = false) (hrest : ∀ c, rest.head? = some c → isSpace c = true) :
    redactFrom alnum .idle (name ++ before ++ sign :: after ++ secret ++ rest) =
      name ++ before ++ sign :: after ++ "***".toList ++ redactFrom alnum .idle rest := by
  have hspace : ∀ spaces : List Char, (∀ c ∈ spaces, isSpace c = true) →
      ∀ c ∈ spaces, isSpace c = true ∧ inName alnum c = false := fun spaces h c hc => ⟨h c hc, inName_of_isSpace hspaces (h c hc)⟩
  obtain ⟨hkeptName, hplaceName⟩ := redactFrom_name (by rintro rfl; cases hsecretName) hname
  obtain ⟨hkeptSign, hplaceSign⟩ := redactFrom_sign hsecretName (hspace before hbefore) hsign
  obtain ⟨hkeptAfter, hplaceAfter⟩ := redactFrom_spaces (.inr rfl) (hspace after hafter)
  obtain ⟨c, secret, rfl⟩ := List.exists_cons_of_ne_nil hne
  obtain ⟨hc, htail⟩ := List.forall_mem_cons.1 hsecret
  obtain ⟨hkeptSecret, hplaceSecret⟩ := @redactFrom_secret alnum secret htail
  have hfirst : redactFrom alnum .assigned (c :: secret) = "***".toList ∧ placeAfter alnum .assigned (c :: secret) = .secret := by
    have hnext : Place.assigned.next alnum c = .secret := by simp [Place.next, hc]
    rw [redactFrom, placeAfter_cons, hnext, hkeptSecret, hplaceSecret]
    exact ⟨by simp [Place.emits, hc], rfl⟩
  have hlast : redactFrom alnum .secret rest = redactFrom alnum .idle rest := by
    cases rest with
    | nil => rfl
    | cons c' rest =>
      have hc' : isSpace c' = true := hrest c' rfl
      have hidle : Place.secret.next alnum c' = .idle := by simp [Place.next, hc']
      have hnext : Place.idle.next alnum c' = .idle := by
        rw [next_idle, if_neg]
        simp [inName_of_isSpace hspaces hc']
      rw [redactFrom, redactFrom, hidle, hnext]
      simp [Place.emits, hc']
  have hsplit : name ++ before ++ sign :: after ++ (c :: secret) ++ rest =
      name ++ ((before ++ [sign]) ++ (after ++ ((c :: secret) ++ rest))) := by simp
  rw [hsplit, redactFrom_append, hkeptName, hplaceName, redactFrom_append, hkeptSign, hplaceSign, redactFrom_append, hkeptAfter,
    hplaceAfter, redactFrom_append, hfirst.1, hfirst.2, hlast]
  simp

end Matches

end TrinoManagement.Redaction
