/-
Masking the secrets in a line of JSON: what `redact` makes of a text that `json.dumps` printed.

A name that reads like a secret's is only in a string, for nothing outside strings has a "p", a "k" or a "c". Its secret goes on
to the next space, and that is the next space of the string, or else it takes the closing quote with it.
- `maskText_eq_iff`: a text is left as it is exactly if every secret of it is three asterisks already.
- `redact_print`: if no secret reaches the end of its string, the line is the JSON of the same values with masked texts.
- `lex_spilled`: if one does, the line ends in a string or is no JSON before that.
-/
import Mathlib.Tactic
import TrinoManagement.Core.JsonText
import TrinoManagement.Ops.Redact

namespace TrinoManagement.Redaction

open TrinoManagement.JsonText TrinoManagement.Text

/-! ## Outside strings -/

section Outside

variable {alnum : Char → Bool} {place : Place}

theorem isOutside_ignoreCase {letter c : Char} (hletter : letter = 'p' ∨ letter = 'k' ∨ letter = 'c')
    (h : ignoreCase letter c = true) : isOutside c = false := by
  rcases hletter with rfl | rfl | rfl
  · have hc : c = 'p' ∨ c = 'P' := by simpa [ignoreCase] using h
    rcases hc with rfl | rfl <;> decide
  · have hc : (c = 'k' ∨ c = 'K') ∨ c = '\u212A' := by simpa [ignoreCase] using h
    rcases hc with (rfl | rfl) | rfl <;> decide
  · have hc : c = 'c' ∨ c = 'C' := by simpa [ignoreCase] using h
    rcases hc with rfl | rfl <;> decide

/-- a word with one of the letters in a run -/
theorem exists_letter {run : List Char} {items : List Pattern} (hitems : ∀ item ∈ items, ∃ letter,
    (letter = 'p' ∨ letter = 'k' ∨ letter = 'c') ∧ .one (ignoreCase letter) ∈ item) (h : search items run = true) :
    ∃ c ∈ run, isOutside c = false := by
  obtain ⟨rest, hsuffix, item, hitem, hmatch⟩ := search_iff.1 h
  obtain ⟨letter, hletter, hmem⟩ := hitems item hitem
  obtain ⟨c, hc, hcase⟩ := exists_of_matchesAt hmem hmatch
  exact ⟨c, hsuffix.subset hc, isOutside_ignoreCase hletter hcase⟩

theorem mem_word {w : String} {letter : Char} (h : letter ∈ w.toList) : .one (ignoreCase letter) ∈ word w :=
  List.mem_map.2 ⟨letter, h, rfl⟩

/-- a secret's name has a character that nothing outside strings has -/
theorem isSecretName_letter {run : List Char} (h : isSecretName alnum run = true) : ∃ c ∈ run, isOutside c = false := by
  rw [isSecretName, Bool.and_eq_true, Bool.or_eq_true] at h
  rcases h.2 with hwords | hpass
  · refine exists_letter ?_ hwords
    intro item hitem
    simp only [secretWords, List.mem_cons, List.not_mem_nil, or_false] at hitem
    rcases hitem with rfl | rfl | rfl | rfl | rfl
    · exact ⟨'p', .inl rfl, mem_word (by decide)⟩
    · exact ⟨'p', .inl rfl, mem_word (by decide)⟩
    · exact ⟨'c', .inr (.inr rfl), mem_word (by decide)⟩
    · exact ⟨'k', .inr (.inl rfl), mem_word (by decide)⟩
    · exact ⟨'p', .inl rfl, List.mem_append_left _ (mem_word (by decide))⟩
  · refine exists_letter ?_ hpass
    intro item hitem
    obtain rfl := List.mem_singleton.1 hitem
    exact ⟨'p', .inl rfl, List.mem_append_left _ (mem_word (by decide))⟩

/-- between names, or in one of nothing but what is outside strings -/
def Harmless (place : Place) : Prop := place = .idle ∨ ∃ run, place = .name run ∧ ∀ c ∈ run, isOutside c = true

theorem harmless_idle : Harmless .idle := .inl rfl

theorem atSign_harmless (h : Harmless place) : place.atSign alnum = false := by
  rcases h with rfl | ⟨run, rfl, hrun⟩
  · rfl
  · by_contra hsecret
    obtain ⟨c, hc, hnot⟩ := isSecretName_letter (by simpa [Place.atSign] using hsecret)
    rw [hrun c hc] at hnot
    cases hnot

theorem ne_of_harmless (h : Harmless place) : place ≠ .assigned ∧ place ≠ .secret := by
  rcases h with rfl | ⟨run, rfl, -⟩ <;> exact ⟨nofun, nofun⟩

theorem emits_harmless (h : Harmless place) (c : Char) : place.emits c = [c] := by
  rcases h with rfl | ⟨run, rfl, -⟩ <;> rfl

/-- any character comes to a name, or between names -/
theorem next_harmless (h : Harmless place) (c : Char) :
    place.next alnum c = if inName alnum c then .name (place.run ++ [c]) else .idle := by
  have hsign := @atSign_harmless alnum place h
  rcases h with rfl | ⟨run, rfl, -⟩
  · rfl
  · change isSecretName alnum run = false at hsign
    simp [next_name, hsign, Place.run]

theorem harmless_next (h : Harmless place) {c : Char} (hc : isOutside c = true) : Harmless (place.next alnum c) := by
  rw [next_harmless h]
  split_ifs
  · refine .inr ⟨_, rfl, fun d hd => ?_⟩
    rcases List.mem_append.1 hd with hd | hd
    · rcases h with rfl | ⟨run, rfl, hrun⟩
      · cases hd
      · exact hrun d hd
    · rwa [List.mem_singleton.1 hd]
  · exact harmless_idle

/-- a text that `redact` changes to another from any harmless place, to a harmless place again -/
def Passes (alnum : Char → Bool) (text text' : List Char) : Prop :=
  ∀ place, Harmless place → redactFrom alnum place text = text' ∧ Harmless (placeAfter alnum place text)

theorem Passes.append {a a' b b' : List Char} (ha : Passes alnum a a') (hb : Passes alnum b b') :
    Passes alnum (a ++ b) (a' ++ b') := by
  intro place hplace
  obtain ⟨ha, hafter⟩ := ha place hplace
  obtain ⟨hb, hafter'⟩ := hb _ hafter
  rw [redactFrom_append, placeAfter_append, ha, hb]
  exact ⟨rfl, hafter'⟩

theorem passes_outside {text : List Char} (h : ∀ c ∈ text, isOutside c = true) : Passes alnum text text := by
  induction text with
  | nil => exact fun place hplace => ⟨rfl, hplace⟩
  | cons c text ih =>
    obtain ⟨hc, htext⟩ := List.forall_mem_cons.1 h
    intro place hplace
    obtain ⟨hrest, hafter⟩ := ih htext _ (harmless_next hplace hc)
    rw [redactFrom, placeAfter_cons, emits_harmless hplace, hrest]
    exact ⟨rfl, hafter⟩

end Outside

/-! ## In strings -/

section Strings

variable (alnum : Char → Bool)

/-- what is left of a character, where its escape is one character or several -/
def kept (place : Place) (c : Char) : List Char :=
  match place with
  | .secret => if c = ' ' then [c] else []
  | .assigned => if c = ' ' then [c] else ['*', '*', '*']
  | _ => [c]

def maskChars : Place → List Char → List Char
  | _, [] => []
  | place, c :: rest => kept place c ++ maskChars (placeAfter alnum place (escapeChar c)) rest

/-- a text of a string, as it is masked there -/
def maskText (s : String) : String := String.ofList (maskChars alnum .idle s.toList)

/-- a secret reaches the closing quote, or would begin with it -/
def Spills (s : String) : Prop :=
  placeAfter alnum .idle (escape s.toList) = .assigned ∨ placeAfter alnum .idle (escape s.toList) = .secret

instance (s : String) : Decidable (Spills alnum s) := inferInstanceAs (Decidable (_ ∨ _))

variable {alnum} {place : Place}

theorem eq_space {c : Char} (hspace : isSpace c = true) (h : 32 ≤ c.toNat ∧ c.toNat ≤ 126) : c = ' ' := by
  have hle := isSpace_le hspace (by omega)
  have hnat : c.toNat = ' '.toNat := le_antisymm hle h.1
  rw [← Char.ofNat_toNat c, hnat]
  rfl

/-- neither white space nor a sign -/
def Solid (x : Char) : Prop := isSpace x = false ∧ x ≠ ':' ∧ x ≠ '='

theorem solid_hexDigit {n : ℕ} : Solid (hexDigit (n % 16)) := by
  have h : n % 16 < 16 := Nat.mod_lt _ (by decide)
  unfold Solid
  interval_cases n % 16 <;> decide

theorem solid_unicodeEscape (n : ℕ) : ∀ x ∈ unicodeEscape n, Solid x := by
  simp only [unicodeEscape, List.forall_mem_cons, List.not_mem_nil, false_imp_iff, implies_true, and_true]
  exact ⟨⟨rfl, by decide, by decide⟩, ⟨rfl, by decide, by decide⟩, solid_hexDigit, solid_hexDigit, solid_hexDigit, solid_hexDigit⟩

/-- a character is printed as it is, or escaped with nothing in the escape that the pattern looks at -/
theorem escapeChar_cases (c : Char) :
    escapeChar c = [c] ∧ c ≠ '"' ∧ c ≠ '\\' ∧ (isSpace c = true → c = ' ') ∨
      c ≠ ' ' ∧ ∃ xs, escapeChar c = '\\' :: xs ∧ ∀ x ∈ '\\' :: xs, Solid x := by
  unfold escapeChar
  cases hshort : shortEscape c with
  | some e =>
    refine .inr ⟨(by rintro rfl; cases hshort), [e], rfl, ?_⟩
    have hmem := Assoc.mem_of_lookup hshort
    simp only [List.mem_cons, Prod.mk.injEq, List.not_mem_nil, or_false] at hmem
    simp only [List.forall_mem_cons, List.not_mem_nil, false_imp_iff, implies_true, and_true]
    refine ⟨⟨rfl, by decide, by decide⟩, ?_⟩
    rcases hmem with ⟨-, rfl⟩ | ⟨-, rfl⟩ | ⟨-, rfl⟩ | ⟨-, rfl⟩ | ⟨-, rfl⟩ | ⟨-, rfl⟩ | ⟨-, rfl⟩
    all_goals exact ⟨rfl, by decide, by decide⟩
  | none =>
    obtain ⟨hquote, hslash⟩ := ne_of_shortEscape hshort
    dsimp only
    split_ifs with hplain hbmp
    · exact .inl ⟨rfl, hquote, hslash, fun hspace => eq_space hspace hplain⟩
    · exact .inr ⟨(by rintro rfl; exact hplain (by decide)), _, rfl, solid_unicodeEscape _⟩
    · have hsolid : ∀ x ∈ unicodeEscape (0xD800 + (c.toNat - 0x10000) / 1024) ++ unicodeEscape (0xDC00 + (c.toNat - 0x10000) % 1024),
          Solid x := List.forall_mem_append.2 ⟨solid_unicodeEscape _, solid_unicodeEscape _⟩
      exact .inr ⟨(by rintro rfl; exact hplain (by decide)), _, rfl, hsolid⟩

theorem isSpace_escapeChar {c : Char} (h : c ≠ ' ') : ∃ x xs, escapeChar c = x :: xs ∧ isSpace x = false ∧
    ∀ x ∈ xs, isSpace x = false := by
  rcases escapeChar_cases c with ⟨hplain, -, -, hspace⟩ | ⟨-, xs, hxs, hsolid⟩
  · exact ⟨c, [], hplain, Bool.eq_false_iff.2 fun hc => h (hspace hc), fun _ hx => absurd hx List.not_mem_nil⟩
  · exact ⟨_, xs, hxs, rfl, fun x hx => (hsolid x (List.mem_cons_of_mem _ hx)).1⟩

/-- between names, or in one -/
def Calm (place : Place) : Prop := place = .idle ∨ ∃ run, place = .name run

theorem next_calm (h : Calm place) {c : Char} (hc : Solid c) : place.emits c = [c] ∧ Calm (place.next alnum c) := by
  obtain ⟨hspace, hcolon, hequals⟩ := hc
  rcases h with rfl | ⟨run, rfl⟩
  · refine ⟨rfl, ?_⟩
    rw [next_idle]
    split_ifs
    · exact .inr ⟨_, rfl⟩
    · exact .inl rfl
  · refine ⟨rfl, ?_⟩
    rw [next_name, if_neg (Bool.eq_false_iff.1 hspace), if_neg (not_or.2 ⟨hcolon, hequals⟩)]
    split_ifs
    · exact .inr ⟨_, rfl⟩
    · exact .inl rfl
    · exact .inl rfl

theorem redactFrom_solid (h : Calm place) {xs : List Char} (hxs : ∀ x ∈ xs, Solid x) : redactFrom alnum place xs = xs := by
  induction xs generalizing place with
  | nil => rfl
  | cons x xs ih =>
    obtain ⟨hx, hrest⟩ := List.forall_mem_cons.1 hxs
    obtain ⟨hemits, hnext⟩ := @next_calm alnum place h x hx
    rw [redactFrom, hemits, ih hnext hrest]
    rfl

/-- a backslash or a quote comes between names, unless it is a secret's or begins one -/
theorem next_mark {c : Char} (hc : c = '\\' ∨ c = '"') (hplace : place ≠ .assigned) (hsecret : place ≠ .secret) :
    place.emits c = [c] ∧ place.next alnum c = .idle := by
  cases place with
  | assigned => exact absurd rfl hplace
  | secret => exact absurd rfl hsecret
  | idle => rcases hc with rfl | rfl <;> exact ⟨rfl, rfl⟩
  | named => rcases hc with rfl | rfl <;> exact ⟨rfl, rfl⟩
  | name run =>
    refine ⟨rfl, ?_⟩
    have hout : inName alnum c = false ∧ isSpace c = false ∧ ¬ (c = ':' ∨ c = '=') := by
      rcases hc with rfl | rfl <;> exact ⟨rfl, rfl, by decide⟩
    rw [next_name]
    simp [hout.1, hout.2.1, hout.2.2]

theorem redactFrom_escapeChar (c : Char) : redactFrom alnum place (escapeChar c) = escape (kept place c) := by
  have hself : escape [c] = escapeChar c := List.append_nil _
  by_cases hsecret : place = .secret
  · subst hsecret
    by_cases hc : c = ' '
    · subst hc
      rfl
    · obtain ⟨x, xs, hxs, hx, hrest⟩ := isSpace_escapeChar hc
      rw [hxs, kept, if_neg hc, (redactFrom_secret (List.forall_mem_cons.2 ⟨hx, hrest⟩)).1]
      rfl
  by_cases hassigned : place = .assigned
  · subst hassigned
    by_cases hc : c = ' '
    · subst hc
      rfl
    · obtain ⟨x, xs, hxs, hx, hrest⟩ := isSpace_escapeChar hc
      have hnext : Place.assigned.next alnum x = .secret := by simp [Place.next, hx]
      have hemits : Place.assigned.emits x = ['*', '*', '*'] := by simp [Place.emits, hx]
      rw [hxs, kept, if_neg hc, redactFrom, hnext, hemits, (redactFrom_secret hrest).1]
      rfl
  have hkept : kept place c = [c] := by
    cases place <;> first | rfl | contradiction
  rw [hkept, hself]
  rcases escapeChar_cases c with ⟨hplain, -⟩ | ⟨-, xs, hxs, hsolid⟩
  · have hemits : place.emits c = [c] := by
      cases place <;> first | rfl | contradiction
    rw [hplain, redactFrom, hemits]
    rfl
  · obtain ⟨hemits, hnext⟩ := @next_mark alnum place '\\' (.inl rfl) hassigned hsecret
    rw [hxs, redactFrom, hemits, hnext, redactFrom_solid (.inl rfl) (List.forall_mem_cons.1 hsolid).2]
    rfl

theorem redactFrom_escape (cs : List Char) : redactFrom alnum place (escape cs) = escape (maskChars alnum place cs) := by
  induction cs generalizing place with
  | nil => rfl
  | cons c cs ih =>
    have hcons : escape (c :: cs) = escapeChar c ++ escape cs := List.flatMap_cons
    have happend : ∀ a b : List Char, escape (a ++ b) = escape a ++ escape b := fun a b => List.flatMap_append
    rw [hcons, redactFrom_append, redactFrom_escapeChar, ih, maskChars, happend]

/-- a string whose secrets end before its closing quote -/
theorem passes_quoted {s : String} (h : ¬ Spills alnum s) : Passes alnum (quoted s) (quoted (maskText alnum s)) := by
  obtain ⟨hassigned, hsecret⟩ := not_or.1 h
  intro place hplace
  obtain ⟨hemits, hnext⟩ := @next_mark alnum place '"' (.inr rfl) (ne_of_harmless hplace).1 (ne_of_harmless hplace).2
  obtain ⟨hclose, hafter⟩ := @next_mark alnum _ '"' (.inr rfl) hassigned hsecret
  rw [quoted, List.cons_append, redactFrom, hemits, hnext, redactFrom_append, redactFrom_escape, redactFrom, hclose,
    placeAfter_cons, hnext, placeAfter_append, placeAfter_cons, hafter]
  refine ⟨?_, harmless_idle⟩
  rw [quoted, maskText, String.toList_ofList]
  rfl

end Strings

/-! ## Texts that are not changed -/

section Bare

variable (alnum : Char → Bool)

/-- a secret of a text, from a place on: it comes after its name and sign, and goes on to the next space -/
structure SecretIn (place : Place) (text before secret after : List Char) : Prop where
  text : text = before ++ (secret ++ after)
  begins : placeAfter alnum place (escape before) = .assigned
  ne : secret ≠ []
  solid : ∀ c ∈ secret, c ≠ ' '
  ends : ∀ c, after.head? = some c → c = ' '

/-- every secret is three asterisks already -/
def BareFrom (place : Place) (text : List Char) : Prop :=
  ∀ before secret after, SecretIn alnum place text before secret after → secret = ['*', '*', '*']

def Bare (s : String) : Prop := BareFrom alnum .idle s.toList

variable {alnum} {place : Place}

theorem takeWhile_solid {secret after : List Char} (hsolid : ∀ c ∈ secret, c ≠ ' ') (hends : ∀ c, after.head? = some c → c = ' ') :
    (secret ++ after).takeWhile (· ≠ ' ') = secret := by
  rw [List.takeWhile_append_of_pos (by simpa using hsolid)]
  cases after with
  | nil => simp
  | cons c after =>
    obtain rfl := hends c rfl
    simp

theorem head_dropWhile (text : List Char) : ∀ c, (text.dropWhile (· ≠ ' ')).head? = some c → c = ' ' := by
  intro c hc
  have hnot := List.head?_dropWhile_not (· ≠ ' ') text
  simp only [ne_eq] at hc hnot
  rw [hc] at hnot
  simpa using hnot

theorem bareFrom_cons {c : Char} {rest : List Char} : BareFrom alnum place (c :: rest) ↔
    (place = .assigned → c ≠ ' ' → c :: rest.takeWhile (· ≠ ' ') = ['*', '*', '*']) ∧
      BareFrom alnum (placeAfter alnum place (escapeChar c)) rest := by
  have hescape : ∀ before : List Char, escape (c :: before) = escapeChar c ++ escape before := fun _ => List.flatMap_cons
  constructor
  · intro h
    constructor
    · intro hplace hc
      refine h [] _ (rest.dropWhile (· ≠ ' ')) ⟨?_, hplace, List.cons_ne_nil _ _, ?_, ?_⟩
      · rw [List.nil_append, List.cons_append, List.takeWhile_append_dropWhile]
      · refine List.forall_mem_cons.2 ⟨hc, fun d hd => ?_⟩
        simpa using List.mem_takeWhile_imp hd
      · exact head_dropWhile rest
    · intro before secret after hin
      refine h (c :: before) secret after ⟨by rw [hin.text, List.cons_append], ?_, hin.ne, hin.solid, hin.ends⟩
      rw [hescape, placeAfter_append]
      exact hin.begins
  · rintro ⟨hfirst, hrest⟩ before secret after hin
    cases before with
    | nil =>
      have htext := hin.text
      rw [List.nil_append] at htext
      have hword : (c :: rest).takeWhile (· ≠ ' ') = secret := by rw [htext, takeWhile_solid hin.solid hin.ends]
      have hc : c ≠ ' ' := by
        rintro rfl
        exact hin.ne (by rw [← hword]; rfl)
      rw [← hword, List.takeWhile_cons_of_pos (by simpa using hc)]
      exact hfirst hin.begins hc
    | cons d before =>
      have htext := hin.text
      rw [List.cons_append] at htext
      obtain ⟨rfl, hrestText⟩ := List.cons.inj htext
      refine hrest before secret after ⟨hrestText, ?_, hin.ne, hin.solid, hin.ends⟩
      have hbegins := hin.begins
      rw [hescape, placeAfter_append] at hbegins
      exact hbegins

theorem placeAfter_secret (c : Char) : placeAfter alnum .secret (escapeChar c) = if c = ' ' then .idle else .secret := by
  split_ifs with hc
  · subst hc
    rfl
  · obtain ⟨x, xs, hxs, hx, hrest⟩ := isSpace_escapeChar hc
    rw [hxs]
    exact (redactFrom_secret (List.forall_mem_cons.2 ⟨hx, hrest⟩)).2

theorem placeAfter_assigned (c : Char) : placeAfter alnum .assigned (escapeChar c) = if c = ' ' then .assigned else .secret := by
  split_ifs with hc
  · subst hc
    rfl
  · obtain ⟨x, xs, hxs, hx, hrest⟩ := isSpace_escapeChar hc
    have hnext : Place.assigned.next alnum x = .secret := by simp [Place.next, hx]
    rw [hxs, placeAfter_cons, hnext]
    exact (redactFrom_secret hrest).2

/-- a secret begins after its sign only -/
theorem next_ne_secret (hassigned : place ≠ .assigned) (hsecret : place ≠ .secret) (c : Char) : place.next alnum c ≠ .secret := by
  cases place with
  | assigned => exact absurd rfl hassigned
  | secret => exact absurd rfl hsecret
  | idle =>
    rw [next_idle]
    split_ifs <;> nofun
  | name run =>
    rw [next_name]
    split_ifs <;> nofun
  | named =>
    rw [next_named]
    split_ifs <;> nofun

theorem placeAfter_ne_secret (hassigned : place ≠ .assigned) (hsecret : place ≠ .secret) (c : Char) :
    placeAfter alnum place (escapeChar c) ≠ .secret := by
  rcases escapeChar_cases c with ⟨hplain, -⟩ | ⟨-, xs, hxs, hsolid⟩
  · rw [hplain]
    exact next_ne_secret hassigned hsecret c
  · have hcalm : ∀ (xs : List Char) (place : Place), Calm place → (∀ x ∈ xs, Solid x) → placeAfter alnum place xs ≠ .secret := by
      intro xs
      induction xs with
      | nil =>
        rintro place (rfl | ⟨run, rfl⟩) - <;> nofun
      | cons x xs ih =>
        intro place hplace hxs
        obtain ⟨hx, hrest⟩ := List.forall_mem_cons.1 hxs
        exact ih _ (next_calm hplace hx).2 hrest
    rw [hxs, placeAfter_cons, (next_mark (.inl rfl) hassigned hsecret).2]
    exact hcalm xs _ (.inl rfl) (List.forall_mem_cons.1 hsolid).2

theorem kept_of_ne (hassigned : place ≠ .assigned) (hsecret : place ≠ .secret) (c : Char) : kept place c = [c] := by
  cases place <;> first | rfl | contradiction

/-- what masking leaves of a text begins with a space, if it begins in a secret -/
theorem maskChars_secret (rest : List Char) : ∀ c, (maskChars alnum .secret rest).head? = some c → c = ' ' := by
  induction rest with
  | nil => exact nofun
  | cons d rest ih =>
    rw [maskChars, placeAfter_secret]
    by_cases hd : d = ' '
    · subst hd
      rintro c hc
      exact (Option.some.inj hc).symm
    · rw [if_neg hd, kept, if_neg hd]
      exact ih

/-- masking changes nothing but secrets: up to the next space where it begins in one -/
theorem maskChars_iff (text : List Char) : ∀ place, BareFrom alnum place text ↔
    maskChars alnum place text = if place = .secret then text.dropWhile (· ≠ ' ') else text := by
  induction text with
  | nil =>
    intro place
    refine iff_of_true (fun before secret after hin => ?_) (by simp [maskChars])
    have htext := hin.text
    simp only [List.nil_eq, List.append_eq_nil_iff] at htext
    exact absurd htext.2.1 hin.ne
  | cons c rest ih =>
    intro place
    rw [bareFrom_cons, ih, maskChars]
    by_cases hsecret : place = .secret
    · subst hsecret
      rw [placeAfter_secret, if_pos rfl]
      by_cases hc : c = ' '
      · subst hc
        simp [kept]
      · simp [kept, hc]
    by_cases hassigned : place = .assigned
    · subst hassigned
      rw [placeAfter_assigned, if_neg hsecret]
      by_cases hc : c = ' '
      · subst hc
        simp [kept]
      · -- the word of the text is the secret, and both sides begin with a space after it
        have hword : (c :: rest).takeWhile (· ≠ ' ') = c :: rest.takeWhile (· ≠ ' ') := List.takeWhile_cons_of_pos (by simpa using hc)
        have hsplit : c :: rest = (c :: rest.takeWhile (· ≠ ' ')) ++ rest.dropWhile (· ≠ ' ') := by
          rw [List.cons_append, List.takeWhile_append_dropWhile]
        have hkept : kept .assigned c = ['*', '*', '*'] := if_neg hc
        rw [if_neg hc, if_pos rfl, hkept]
        simp only [forall_const]
        constructor
        · rintro ⟨hfirst, hmask⟩
          rw [hmask, ← hfirst hc]
          exact hsplit.symm
        · intro heq
          have hstars : c :: rest.takeWhile (· ≠ ' ') = ['*', '*', '*'] := by
            rw [← hword, ← heq]
            exact takeWhile_solid (by simp) (maskChars_secret rest)
          refine ⟨fun _ => hstars, ?_⟩
          rw [hsplit, hstars] at heq
          exact List.append_cancel_left heq
    · have hnext := @placeAfter_ne_secret alnum place hassigned hsecret c
      rw [kept_of_ne hassigned hsecret, if_neg hsecret, if_neg hnext]
      simp [hassigned]

/-- **A text is left as it is** exactly if every secret of it is three asterisks already. -/
theorem maskText_eq_iff {s : String} : maskText alnum s = s ↔ Bare alnum s := by
  have heq : maskText alnum s = s ↔ maskChars alnum .idle s.toList = s.toList := by
    rw [maskText, ← String.toList_inj, String.toList_ofList]
  rw [heq, Bare, maskChars_iff, if_neg nofun]

end Bare

/-! ## Values -/

section Trees

variable (alnum : Char → Bool)

mutual

/-- the value with every text masked, those of its keys too -/
def maskTree : Tree → Tree
  | .str s => .str (maskText alnum s)
  | .list items => .list (maskItems items)
  | .dict fields => .dict (maskFields fields)
  | t => t

def maskItems : List Tree → List Tree
  | [] => []
  | t :: ts => maskTree t :: maskItems ts

def maskFields : List (String × Tree) → List (String × Tree)
  | [] => []
  | (key, t) :: fs => (maskText alnum key, maskTree t) :: maskFields fs

end

mutual

/-- the texts of a value, those of its keys too -/
def texts : Tree → List String
  | .str s => [s]
  | .list items => textsOfItems items
  | .dict fields => textsOfFields fields
  | _ => []

def textsOfItems : List Tree → List String
  | [] => []
  | t :: ts => texts t ++ textsOfItems ts

def textsOfFields : List (String × Tree) → List String
  | [] => []
  | (key, t) :: fs => key :: texts t ++ textsOfFields fs

end

variable {alnum}

theorem isOutside_literal (literal : Literal) : ∀ c ∈ literal.1, isOutside c = true := by
  rcases literal.2 with hspecial | hnumber
  · have hall : specials.all (fun cs => cs.all isOutside) = true := by decide +kernel
    exact List.all_eq_true.1 (List.all_eq_true.1 hall _ hspecial)
  · exact fun c hc => isOutside_of_isNumberChar (isNumber_chars hnumber c hc)

theorem passes_literal (literal : Literal) : Passes alnum literal.1 literal.1 := passes_outside (isOutside_literal literal)

/-- nothing of JSON's own is masked -/
theorem passes_mark {text : List Char} (h : text.all isOutside = true) : Passes alnum text text :=
  passes_outside (List.all_eq_true.1 h)

theorem passes_printField {key : String} {t t' : Tree} (hkey : ¬ Spills alnum key) (ht : Passes alnum (print t) (print t')) :
    Passes alnum (printField (key, t)) (printField (maskText alnum key, t')) := by
  have hcolon : Passes alnum [':', ' '] [':', ' '] := passes_mark (by decide)
  exact (passes_quoted hkey).append (hcolon.append ht)

mutual

theorem passes_print : ∀ t : Tree, (∀ s ∈ texts t, ¬ Spills alnum s) → Passes alnum (print t) (print (maskTree alnum t))
  | .null, _ => passes_mark (by decide)
  | .bool true, _ => passes_mark (by decide)
  | .bool false, _ => passes_mark (by decide)
  | .num literal, _ => passes_literal literal
  | .str s, h => passes_quoted (h s List.mem_cons_self)
  | .list [], _ => passes_mark (by decide)
  | .list (t :: ts), h => by
    obtain ⟨ht, hts⟩ := List.forall_mem_append.1 h
    have hopen : Passes alnum ['['] ['['] := passes_mark (by decide)
    exact hopen.append ((passes_print t ht).append (passes_printItems ts hts))
  | .dict [], _ => passes_mark (by decide)
  | .dict ((key, t) :: fs), h => by
    obtain ⟨hkey, hrest⟩ := List.forall_mem_cons.1 h
    obtain ⟨ht, hfs⟩ := List.forall_mem_append.1 hrest
    have hopen : Passes alnum ['\x7b'] ['\x7b'] := passes_mark (by decide)
    exact hopen.append ((passes_printField hkey (passes_print t ht)).append (passes_printFields fs hfs))

theorem passes_printItems : ∀ ts : List Tree, (∀ s ∈ textsOfItems ts, ¬ Spills alnum s) →
    Passes alnum (printItems ts) (printItems (maskItems alnum ts))
  | [], _ => passes_mark (by decide)
  | t :: ts, h => by
    obtain ⟨ht, hts⟩ := List.forall_mem_append.1 h
    have hcomma : Passes alnum [',', ' '] [',', ' '] := passes_mark (by decide)
    exact hcomma.append ((passes_print t ht).append (passes_printItems ts hts))

theorem passes_printFields : ∀ fs : List (String × Tree), (∀ s ∈ textsOfFields fs, ¬ Spills alnum s) →
    Passes alnum (printFields fs) (printFields (maskFields alnum fs))
  | [], _ => passes_mark (by decide)
  | (key, t) :: fs, h => by
    obtain ⟨hkey, hrest⟩ := List.forall_mem_cons.1 h
    obtain ⟨ht, hfs⟩ := List.forall_mem_append.1 hrest
    have hcomma : Passes alnum [',', ' '] [',', ' '] := passes_mark (by decide)
    exact hcomma.append ((passes_printField hkey (passes_print t ht)).append (passes_printFields fs hfs))

end

/-- **Values without a spilled secret** are printed with masked texts. -/
theorem redact_print {t : Tree} (h : ∀ s ∈ texts t, ¬ Spills alnum s) :
    redactFrom alnum .idle (print t) = print (maskTree alnum t) :=
  (passes_print t h .idle harmless_idle).1

end Trees

/-! ## A secret that takes its quote -/

section Spilled

variable {alnum : Char → Bool} {place : Place} {l : Lex}

/-- the line as it is masked so far ends in a string, or is no JSON, and the pattern is between names or in a secret -/
structure Off (place : Place) (l : Lex) : Prop where
  lex : l = .inside ∨ l = .bad
  place : Harmless place ∨ place = .secret

/-- what a text leads to -/
def Leads (alnum : Char → Bool) (place : Place) (l : Lex) (text : List Char) (P : Place → Lex → Prop) : Prop :=
  P (placeAfter alnum place text) (lex l (redactFrom alnum place text))

theorem leads_append {a b : List Char} {P : Place → Lex → Prop} : Leads alnum place l (a ++ b) P ↔
    Leads alnum place l a fun place l => Leads alnum place l b P := by
  unfold Leads
  rw [placeAfter_append, redactFrom_append, lex_append]

theorem Leads.mono {text : List Char} {P Q : Place → Lex → Prop} (h : Leads alnum place l text P)
    (himp : ∀ place l, P place l → Q place l) : Leads alnum place l text Q := himp _ _ h

theorem step_off (h : l = .inside ∨ l = .bad) {c : Char} (hquote : c ≠ '"') (hslash : c ≠ '\\') : l.step c = l := by
  rcases h with rfl | rfl
  · exact step_inside hquote hslash
  · rfl

theorem ne_of_isOutside {c : Char} (h : isOutside c = true) : c ≠ '"' ∧ c ≠ '\\' := by
  constructor <;> (rintro rfl; revert h; decide)

/-- what is outside strings leaves a line that is off so -/
theorem off_outside {c : Char} (h : Off place l) (hc : isOutside c = true) : Leads alnum place l [c] Off := by
  obtain ⟨hquote, hslash⟩ := ne_of_isOutside hc
  have hstep := step_off h.lex hquote hslash
  unfold Leads
  rw [placeAfter_cons, redactFrom, redactFrom, List.append_nil]
  rcases h.place with hplace | rfl
  · rw [emits_harmless hplace, lex_cons, hstep]
    exact ⟨h.lex, .inl (harmless_next hplace hc)⟩
  · by_cases hspace : isSpace c = true
    · simp only [Place.emits, Place.next, hspace, if_true, lex_cons, hstep]
      exact ⟨h.lex, .inl harmless_idle⟩
    · simp only [Place.emits, Place.next, hspace]
      exact ⟨h.lex, .inr rfl⟩

/-- after a comma or a colon and a space the pattern is between names again -/
theorem off_space {c : Char} (h : Off place l) (hc : c = ',' ∨ c = ':') :
    Leads alnum place l [c, ' '] fun place l => Off place l ∧ Harmless place := by
  have hout : isOutside c = true := by rcases hc with rfl | rfl <;> decide
  refine (leads_append (a := [c]) (b := [' '])).2 ((off_outside h hout).mono fun place l h => ⟨off_outside h (by decide), ?_⟩)
  have hidle : place.next alnum ' ' = .idle := by
    rcases h.place with hplace | rfl
    · exact next_harmless hplace ' '
    · rfl
  exact .inl hidle

/-- outside strings, a text of JSON's strings stays so or is no JSON -/
theorem outside_escape (h : Harmless place) (cs : List Char) :
    Leads alnum place .outside (escape cs) fun place l => l = .bad ∨ l = .outside ∧ Harmless place := by
  induction cs generalizing place with
  | nil => exact .inr ⟨rfl, h⟩
  | cons c cs ih =>
    have hbad : ∀ place, Leads alnum place .bad (escape cs) fun place l => l = .bad ∨ l = .outside ∧ Harmless place :=
      fun place => .inl (lex_bad _)
    rw [show escape (c :: cs) = escapeChar c ++ escape cs from List.flatMap_cons, leads_append]
    rcases escapeChar_cases c with ⟨hplain, hquote, -, -⟩ | ⟨-, xs, hxs, -⟩
    · unfold Leads
      rw [hplain, placeAfter_cons, redactFrom, redactFrom, List.append_nil, emits_harmless h, lex_cons]
      by_cases hc : isOutside c = true
      · rw [step_outside hc]
        exact ih (harmless_next h hc)
      · rw [Lex.step, if_neg hquote, if_neg hc]
        exact hbad _
    · unfold Leads
      rw [hxs, redactFrom, emits_harmless h, List.singleton_append, lex_cons, show Lex.outside.step '\\' = .bad from rfl, lex_bad]
      exact hbad _

theorem quoted_eq (s : String) : quoted s = ['"'] ++ (escape s.toList ++ ['"']) := List.cons_append

/-- after a quote the pattern is between names, or in a secret -/
theorem next_quote (place : Place) : place.next alnum '"' = .idle ∨ place.next alnum '"' = .secret := by
  by_cases hassigned : place = .assigned
  · exact .inr (by rw [hassigned]; rfl)
  by_cases hsecret : place = .secret
  · exact .inr (by rw [hsecret]; rfl)
  exact .inl (next_mark (.inr rfl) hassigned hsecret).2

theorem off_quoted (h : Off place l) (hplace : Harmless place) (s : String) : Leads alnum place l (quoted s) Off := by
  have hlast : ∀ place l, l = .bad ∨ l = .outside ∧ Harmless place → Leads alnum place l ['"'] Off := by
    intro place l hl
    rcases hl with rfl | ⟨rfl, hplace⟩
    · refine ⟨.inr (lex_bad _), ?_⟩
      exact (next_quote place).imp_left fun hidle => .inl hidle
    · obtain ⟨hemits, hnext⟩ := @next_mark alnum place '"' (.inr rfl) (ne_of_harmless hplace).1 (ne_of_harmless hplace).2
      unfold Leads
      rw [placeAfter_cons, redactFrom, redactFrom, hemits, hnext]
      exact ⟨.inl rfl, .inl harmless_idle⟩
  obtain ⟨hemits, hnext⟩ := @next_mark alnum place '"' (.inr rfl) (ne_of_harmless hplace).1 (ne_of_harmless hplace).2
  rw [quoted_eq, leads_append]
  unfold Leads
  rw [placeAfter_cons, redactFrom, redactFrom, hemits, hnext]
  change Leads alnum .idle (l.step '"') (escape s.toList ++ ['"']) Off
  rw [leads_append]
  rcases h.lex with rfl | rfl
  · exact (outside_escape harmless_idle s.toList).mono hlast
  · exact hlast _ _ (.inl (lex_bad _))

/-- a spilled secret takes the quote -/
theorem spilled_quoted (hplace : Harmless place) {s : String} (h : Spills alnum s) :
    Leads alnum place .outside (quoted s) Off := by
  obtain ⟨hemits, hnext⟩ := @next_mark alnum place '"' (.inr rfl) (ne_of_harmless hplace).1 (ne_of_harmless hplace).2
  rw [quoted_eq, leads_append]
  unfold Leads
  rw [placeAfter_cons, redactFrom, redactFrom, hemits, hnext]
  change Leads alnum .idle .inside (escape s.toList ++ ['"']) Off
  rw [leads_append]
  unfold Leads
  rw [redactFrom_escape, lex_escape]
  rcases h with h | h
  · rw [h]
    exact ⟨.inl rfl, .inr rfl⟩
  · rw [h]
    exact ⟨.inl rfl, .inr rfl⟩

/-- the pattern is between names, and the line as it is masked so far is outside its strings -/
def Level (place : Place) (l : Lex) : Prop := Harmless place ∧ l = .outside

theorem level_of_passes (hplace : Harmless place) {text text' : List Char} (h : Passes alnum text text')
    (hlex : lex .outside text' = .outside) : Leads alnum place .outside text Level := by
  obtain ⟨hredact, hafter⟩ := h place hplace
  unfold Leads
  rw [hredact, hlex]
  exact ⟨hafter, rfl⟩

theorem level_mark (hplace : Harmless place) {text : List Char} (h : text.all isOutside = true) :
    Leads alnum place .outside text Level :=
  level_of_passes hplace (passes_mark h) (lex_outside (List.all_eq_true.1 h))

theorem level_quoted (hplace : Harmless place) {s : String} (h : ¬ Spills alnum s) :
    Leads alnum place .outside (quoted s) Level :=
  level_of_passes hplace (passes_quoted h) (lex_print (fun _ => ' ') (.str (maskText alnum s)))

theorem level_print (hplace : Harmless place) {t : Tree} (h : ∀ s ∈ texts t, ¬ Spills alnum s) :
    Leads alnum place .outside (print t) Level :=
  level_of_passes hplace (passes_print t h) (lex_print (fun _ => ' ') (maskTree alnum t))

/-- a value's own text leaves a line off -/
theorem off_text (h : Off place l) {text : List Char} (htext : ∀ c ∈ text, isOutside c = true) : Leads alnum place l text Off := by
  induction text generalizing place l with
  | nil => exact h
  | cons c text ih =>
    obtain ⟨hc, hrest⟩ := List.forall_mem_cons.1 htext
    exact (leads_append (a := [c])).2 ((off_outside h hc).mono fun place l h => ih h hrest)

theorem off_mark (h : Off place l) (hplace : Harmless place) {c : Char} (hc : isOutside c = true) :
    Leads alnum place l [c] fun place l => Off place l ∧ Harmless place :=
  ⟨off_outside h hc, harmless_next hplace hc⟩

theorem off_words (h : Off place l) {text : List Char} (htext : text.all isOutside = true) : Leads alnum place l text Off :=
  off_text h (List.all_eq_true.1 htext)

/-- a key, and then a value -/
theorem off_printField {key : String} {t : Tree} (ht : ∀ place l, Off place l → Harmless place → Leads alnum place l (print t) Off)
    (h : Off place l) (hplace : Harmless place) : Leads alnum place l (printField (key, t)) Off := by
  refine leads_append.2 ((off_quoted h hplace key).mono fun place l h => ?_)
  refine (leads_append (a := [':', ' '])).2 ((off_space h (.inr rfl)).mono fun place l h => ?_)
  exact ht place l h.1 h.2

mutual

/-- what comes after a quote was taken cannot put the line right -/
theorem off_print : ∀ (t : Tree) (place : Place) (l : Lex), Off place l → Harmless place → Leads alnum place l (print t) Off
  | .null, _, _, h, _ => off_words h (by decide)
  | .bool true, _, _, h, _ => off_words h (by decide)
  | .bool false, _, _, h, _ => off_words h (by decide)
  | .num literal, _, _, h, _ => off_text h (isOutside_literal literal)
  | .str s, _, _, h, hplace => off_quoted h hplace s
  | .list [], _, _, h, _ => off_words h (by decide)
  | .list (t :: ts), _, _, h, hplace => by
    refine (leads_append (a := ['['])).2 ((off_mark h hplace (by decide)).mono fun place l h => ?_)
    exact leads_append.2 ((off_print t place l h.1 h.2).mono (off_printItems ts))
  | .dict [], _, _, h, _ => off_words h (by decide)
  | .dict ((key, t) :: fs), _, _, h, hplace => by
    refine (leads_append (a := ['\x7b'])).2 ((off_mark h hplace (by decide)).mono fun place l h => ?_)
    exact leads_append.2 ((off_printField (off_print t) h.1 h.2).mono (off_printFields fs))

theorem off_printItems : ∀ (ts : List Tree) (place : Place) (l : Lex), Off place l → Leads alnum place l (printItems ts) Off
  | [], _, _, h => off_words h (by decide)
  | t :: ts, _, _, h => by
    refine (leads_append (a := [',', ' '])).2 ((off_space h (.inl rfl)).mono fun place l h => ?_)
    exact leads_append.2 ((off_print t place l h.1 h.2).mono (off_printItems ts))

theorem off_printFields : ∀ (fs : List (String × Tree)) (place : Place) (l : Lex), Off place l →
    Leads alnum place l (printFields fs) Off
  | [], _, _, h => off_words h (by decide)
  | (key, t) :: fs, _, _, h => by
    refine (leads_append (a := [',', ' '])).2 ((off_space h (.inl rfl)).mono fun place l h => ?_)
    exact leads_append.2 ((off_printField (off_print t) h.1 h.2).mono (off_printFields fs))

end

/-- the first text that spills is in the head or after it -/
theorem spilled_append {a b : List Char} {ss ss' : List String}
    (ha : Harmless place → (∃ s ∈ ss, Spills alnum s) → Leads alnum place .outside a Off)
    (hlevel : Harmless place → (∀ s ∈ ss, ¬ Spills alnum s) → Leads alnum place .outside a Level)
    (hoff : ∀ place l, Off place l → Leads alnum place l b Off)
    (hb : ∀ place, Harmless place → (∃ s ∈ ss', Spills alnum s) → Leads alnum place .outside b Off)
    (hplace : Harmless place) (h : ∃ s ∈ ss ++ ss', Spills alnum s) : Leads alnum place .outside (a ++ b) Off := by
  rw [leads_append]
  by_cases hspill : ∃ s ∈ ss, Spills alnum s
  · exact (ha hplace hspill).mono hoff
  · have hnone : ∀ s ∈ ss, ¬ Spills alnum s := fun s hs hspills => hspill ⟨s, hs, hspills⟩
    obtain ⟨s, hs, hspills⟩ := h
    have hafter : ∃ s ∈ ss', Spills alnum s := ⟨s, (List.mem_append.1 hs).resolve_left fun hmem => hnone s hmem hspills, hspills⟩
    refine (hlevel hplace hnone).mono fun place l hl => ?_
    obtain ⟨hplace, rfl⟩ := hl
    exact hb place hplace hafter

theorem level_printField (hplace : Harmless place) {key : String} {t : Tree} (h : ∀ s ∈ key :: texts t, ¬ Spills alnum s) :
    Leads alnum place .outside (printField (key, t)) Level := by
  obtain ⟨hkey, ht⟩ := List.forall_mem_cons.1 h
  refine leads_append.2 ((level_quoted hplace hkey).mono fun place l hl => ?_)
  obtain ⟨hplace, rfl⟩ := hl
  refine (leads_append (a := [':', ' '])).2 ((level_mark hplace (by decide)).mono fun place l hl => ?_)
  obtain ⟨hplace, rfl⟩ := hl
  exact level_print hplace ht

theorem spilled_printField {key : String} {t : Tree}
    (ht : ∀ place, Harmless place → (∃ s ∈ texts t, Spills alnum s) → Leads alnum place .outside (print t) Off)
    (hplace : Harmless place) (h : ∃ s ∈ key :: texts t, Spills alnum s) :
    Leads alnum place .outside (printField (key, t)) Off := by
  refine @spilled_append alnum place (quoted key) (':' :: ' ' :: print t) [key] (texts t) ?_ ?_ ?_ ?_ hplace h
  · rintro hplace ⟨s, hs, hspills⟩
    obtain rfl := List.mem_singleton.1 hs
    exact spilled_quoted hplace hspills
  · exact fun hplace hnone => level_quoted hplace (hnone key List.mem_cons_self)
  · intro place l hoff
    refine (leads_append (a := [':', ' '])).2 ((off_space hoff (.inr rfl)).mono fun place l h => ?_)
    exact off_print t place l h.1 h.2
  · intro place hplace hspill
    refine (leads_append (a := [':', ' '])).2 ((level_mark hplace (by decide)).mono fun place l hl => ?_)
    obtain ⟨hplace, rfl⟩ := hl
    exact ht place hplace hspill

mutual

/-- a text that spills puts the line off -/
theorem spilled_print : ∀ (t : Tree) (place : Place), Harmless place → (∃ s ∈ texts t, Spills alnum s) →
    Leads alnum place .outside (print t) Off
  | .null, _, _, h => absurd h (by simp [texts])
  | .bool _, _, _, h => absurd h (by simp [texts])
  | .num _, _, _, h => absurd h (by simp [texts])
  | .str s, _, hplace, h => by
    obtain ⟨s', hs', hspills⟩ := h
    obtain rfl := List.mem_singleton.1 hs'
    exact spilled_quoted hplace hspills
  | .list [], _, _, h => absurd h (by simp [texts, textsOfItems])
  | .list (t :: ts), _, hplace, h => by
    refine (leads_append (a := ['['])).2 ((level_mark hplace (by decide)).mono fun place l hl => ?_)
    obtain ⟨hplace, rfl⟩ := hl
    exact spilled_append (spilled_print t place) (fun hplace => level_print hplace) (off_printItems ts) (spilled_printItems ts)
      hplace h
  | .dict [], _, _, h => absurd h (by simp [texts, textsOfFields])
  | .dict ((key, t) :: fs), _, hplace, h => by
    refine (leads_append (a := ['\x7b'])).2 ((level_mark hplace (by decide)).mono fun place l hl => ?_)
    obtain ⟨hplace, rfl⟩ := hl
    exact spilled_append (spilled_printField (spilled_print t)) (fun hplace => level_printField hplace) (off_printFields fs)
      (spilled_printFields fs) hplace h

theorem spilled_printItems : ∀ (ts : List Tree) (place : Place), Harmless place → (∃ s ∈ textsOfItems ts, Spills alnum s) →
    Leads alnum place .outside (printItems ts) Off
  | [], _, _, h => absurd h (by simp [textsOfItems])
  | t :: ts, _, hplace, h => by
    refine (leads_append (a := [',', ' '])).2 ((level_mark hplace (by decide)).mono fun place l hl => ?_)
    obtain ⟨hplace, rfl⟩ := hl
    exact spilled_append (spilled_print t place) (fun hplace => level_print hplace) (off_printItems ts) (spilled_printItems ts)
      hplace h

theorem spilled_printFields : ∀ (fs : List (String × Tree)) (place : Place), Harmless place →
    (∃ s ∈ textsOfFields fs, Spills alnum s) → Leads alnum place .outside (printFields fs) Off
  | [], _, _, h => absurd h (by simp [textsOfFields])
  | (key, t) :: fs, _, hplace, h => by
    refine (leads_append (a := [',', ' '])).2 ((level_mark hplace (by decide)).mono fun place l hl => ?_)
    obtain ⟨hplace, rfl⟩ := hl
    exact spilled_append (spilled_printField (spilled_print t)) (fun hplace => level_printField hplace) (off_printFields fs)
      (spilled_printFields fs) hplace h

end

/-- **A spilled secret** leaves a line that ends in a string, or is no JSON before that. -/
theorem lex_spilled {t : Tree} (h : ∃ s ∈ texts t, Spills alnum s) :
    lex .outside (redactFrom alnum .idle (print t)) ≠ .outside := by
  have hoff := (spilled_print t .idle harmless_idle h).lex
  intro hlex
  rw [hlex] at hoff
  rcases hoff with hoff | hoff <;> cases hoff

end Spilled

end TrinoManagement.Redaction
