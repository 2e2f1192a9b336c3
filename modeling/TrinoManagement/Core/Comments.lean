/-
SQL comments, as a reader that goes from left to right once sees them. A line comment runs to the end of its line, a block
comment to the first close after its mark, and neither starts inside a quoted string.

- `bare`: the text with each comment replaced by a blank.
- `Piece`: a blank or a whole comment, with what makes it whole as a field. `AtToken`: no piece begins here.
- `exists_lead`: every text is some pieces and then a token. `bare_lead`: what is left of the pieces is blank.
-/
import Mathlib.Tactic
import TrinoManagement.Core.Text

namespace TrinoManagement.Sql

open TrinoManagement.Text (isSpace)

/-- where the reader stands; `opening` and `closing` wait for the second character of a mark -/
inductive Place where
  | text
  | line
  | opening
  | block
  | closing
  | quoted (quote : Char)
deriving DecidableEq, Repr

def bare : Place → List Char → List Char
  | _, [] => []
  | .text, c :: rest =>
    if c = '-' ∧ rest.head? = some '-' then ' ' :: bare .line rest
    else if c = '/' ∧ rest.head? = some '*' then ' ' :: bare .opening rest
    else if c = '\'' ∨ c = '"' then c :: bare (.quoted c) rest
    else c :: bare .text rest
  | .line, c :: rest => if c = '\n' then c :: bare .text rest else bare .line rest
  | .opening, _ :: rest => bare .block rest
  | .block, c :: rest => if c = '*' ∧ rest.head? = some '/' then bare .closing rest else bare .block rest
  | .closing, _ :: rest => bare .text rest
  | .quoted quote, c :: rest => c :: bare (if c = quote then .text else .quoted quote) rest

/-- a block comment that is open here will end -/
def closes : List Char → Bool
  | [] => false
  | c :: rest => (c = '*' && rest.head? = some '/') || closes rest

/-- a blank, a line comment with its newline, or a block comment with its close -/
inductive Piece where
  | blank (c : Char) (space : isSpace c = true)
  | line (body : List Char) (oneLine : '\n' ∉ body)
  | block (body : List Char) (open_ : closes body = false)

namespace Piece

def text : Piece → List Char
  | .blank c _ => [c]
  | .line body _ => '-' :: '-' :: body ++ ['\n']
  | .block body _ => '/' :: '*' :: body ++ ['*', '/']

/-- what is left of it -/
def left : Piece → List Char
  | .blank c _ => [c]
  | .line _ _ => [' ', '\n']
  | .block _ _ => [' ']

theorem text_length_pos (p : Piece) : 0 < p.text.length := by
  cases p <;> simp [text]

theorem left_space (p : Piece) : ∀ c ∈ p.left, isSpace c = true := by
  intro c hc
  cases p with
  | blank d space =>
    obtain rfl := List.mem_singleton.1 hc
    exact space
  | line body oneLine =>
    rcases List.mem_cons.1 hc with rfl | hc
    · decide
    · obtain rfl := List.mem_singleton.1 hc
      decide
  | block body open_ =>
    obtain rfl := List.mem_singleton.1 hc
    decide

end Piece

/-- nothing but blanks and whole comments can be skipped before a token; the text may also end, or open a comment that
never ends -/
def AtToken (rest : List Char) : Prop := ∀ p : Piece, ¬ p.text <+: rest

def leadText (lead : List Piece) : List Char := lead.flatMap Piece.text

def leadLeft (lead : List Piece) : List Char := lead.flatMap Piece.left

theorem leadLeft_space {lead : List Piece} : ∀ c ∈ leadLeft lead, isSpace c = true := by
  intro c hc
  obtain ⟨p, -, hc⟩ := List.mem_flatMap.1 hc
  exact p.left_space c hc

/-! ## Characters -/

theorem ne_of_isSpace {c d : Char} (h : isSpace c = true) (hd : isSpace d = false) : c ≠ d := by
  rintro rfl
  rw [h] at hd
  cases hd

/-- a text with a close is what stands before the first one, the close, and the rest -/
theorem exists_of_closes {l : List Char} (h : closes l = true) :
    ∃ body rest, closes body = false ∧ l = body ++ '*' :: '/' :: rest := by
  induction l with
  | nil => cases h
  | cons c l ih =>
    by_cases hc : c = '*' ∧ l.head? = some '/'
    · obtain ⟨rfl, hl⟩ := hc
      obtain ⟨rest, rfl⟩ := List.head?_eq_some_iff.1 hl
      exact ⟨[], rest, rfl, rfl⟩
    · have hl : closes l = true := by simpa [closes, hc] using h
      obtain ⟨body, rest, hbody, rfl⟩ := ih hl
      refine ⟨c :: body, rest, ?_, rfl⟩
      have hc' : ¬ (c = '*' ∧ body.head? = some '/') := by
        rintro ⟨rfl, hhead⟩
        obtain ⟨body', rfl⟩ := List.head?_eq_some_iff.1 hhead
        simp at hc
      simpa [closes, hbody] using hc'

theorem closes_append {l : List Char} (h : closes l = true) (rest : List Char) : closes (l ++ rest) = true := by
  induction l with
  | nil => cases h
  | cons c l ih =>
    simp only [closes, Bool.or_eq_true, Bool.and_eq_true, decide_eq_true_eq, List.cons_append] at h ⊢
    rcases h with ⟨hc, hl⟩ | h
    · obtain ⟨l', rfl⟩ := List.head?_eq_some_iff.1 hl
      exact .inl ⟨hc, rfl⟩
    · exact .inr (ih h)

/-- no close yet, so the mark that follows is read as one -/
theorem closes_cons_false {c : Char} {body : List Char} (h : closes (c :: body) = false) (rest : List Char) :
    closes body = false ∧ ¬ (c = '*' ∧ (body ++ '*' :: rest).head? = some '/') := by
  simp only [closes, Bool.or_eq_false_iff] at h
  refine ⟨h.2, ?_⟩
  rintro ⟨rfl, hhead⟩
  cases body with
  | nil => simp at hhead
  | cons d body =>
    have hd : d = '/' := by simpa using hhead
    simp [hd] at h

/-! ## Reading the pieces -/

theorem bare_line {body : List Char} (h : '\n' ∉ body) (rest : List Char) :
    bare .line (body ++ '\n' :: rest) = '\n' :: bare .text rest := by
  induction body with
  | nil => simp [bare]
  | cons c body ih =>
    obtain ⟨hc, hbody⟩ := List.ne_and_not_mem_of_not_mem_cons h
    rw [List.cons_append, bare, if_neg (Ne.symm hc)]
    exact ih hbody

theorem bare_block {body : List Char} (h : closes body = false) (rest : List Char) :
    bare .block (body ++ '*' :: '/' :: rest) = bare .text rest := by
  induction body with
  | nil => simp [bare]
  | cons c body ih =>
    obtain ⟨hbody, hc⟩ := closes_cons_false h ('/' :: rest)
    rw [List.cons_append, bare, if_neg hc]
    exact ih hbody

theorem bare_piece (p : Piece) (rest : List Char) : bare .text (p.text ++ rest) = p.left ++ bare .text rest := by
  cases p with
  | blank c space =>
    have hdash := ne_of_isSpace space (d := '-') (by decide)
    have hslash := ne_of_isSpace space (d := '/') (by decide)
    have hsingle := ne_of_isSpace space (d := '\'') (by decide)
    have hdouble := ne_of_isSpace space (d := '"') (by decide)
    simp [Piece.text, Piece.left, bare, hdash, hslash, hsingle, hdouble]
  | line body oneLine =>
    have hdash : '\n' ∉ '-' :: body := by simp [oneLine]
    have hread := bare_line hdash rest
    simpa [Piece.text, Piece.left, bare] using hread
  | block body open_ =>
    have hread := bare_block open_ rest
    simpa [Piece.text, Piece.left, bare] using hread

/-- **What is left of a lead.** Blanks only, and the reader stands in the text after it. -/
theorem bare_lead (lead : List Piece) (rest : List Char) :
    bare .text (leadText lead ++ rest) = leadLeft lead ++ bare .text rest := by
  induction lead with
  | nil => rfl
  | cons p lead ih =>
    simp only [leadText, leadLeft, List.flatMap_cons, List.append_assoc] at ih ⊢
    rw [bare_piece, ih]

/-! ## Where a token begins -/

theorem exists_lead (sql : List Char) : ∃ lead rest, AtToken rest ∧ sql = leadText lead ++ rest := by
  induction hn : sql.length using Nat.strong_induction_on generalizing sql with
  | _ n ih =>
    by_cases h : AtToken sql
    · exact ⟨[], sql, h, rfl⟩
    · obtain ⟨p, hp⟩ := not_forall.1 h
      obtain ⟨rest, rfl⟩ := not_not.1 hp
      have hlt : rest.length < n := by
        have hpos := p.text_length_pos
        rw [List.length_append] at hn
        omega
      obtain ⟨lead, rest', hrest, heq⟩ := ih rest.length hlt rest rfl
      refine ⟨p :: lead, rest', hrest, ?_⟩
      rw [heq]
      simp [leadText]

theorem AtToken.not_space {c : Char} {rest : List Char} (h : AtToken (c :: rest)) : isSpace c = false := by
  by_contra hc
  exact h (.blank c (by simpa using hc)) ⟨rest, rfl⟩

/-- a line comment at a token has no end -/
theorem AtToken.line {rest : List Char} (h : AtToken ('-' :: '-' :: rest)) : '\n' ∉ rest := by
  intro hmem
  obtain ⟨body, rest', rfl, hbody⟩ := List.eq_append_cons_of_mem hmem
  exact h (.line body hbody) ⟨rest', by simp [Piece.text]⟩

/-- and a block comment neither -/
theorem AtToken.block {rest : List Char} (h : AtToken ('/' :: '*' :: rest)) : closes rest = false := by
  by_contra hc
  obtain ⟨body, rest', hbody, rfl⟩ := exists_of_closes (by simpa using hc : closes rest = true)
  exact h (.block body hbody) ⟨rest', by simp [Piece.text]⟩

end TrinoManagement.Sql
