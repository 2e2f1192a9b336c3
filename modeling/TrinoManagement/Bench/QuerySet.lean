/-
What may be a benchmark statement, `tms/bench/queryset.py`. The first word of the statement without its comments must be one
of `READ_ONLY_STARTS`; block comments are removed in one pass over the text and line comments in a second one.

- `withoutComments_lead`: pieces whose line comments keep their block marks to themselves leave what a reader from left to
  right leaves of them.
- `fork`: from a token on both readings agree, up to a comment, a quote or the end.
- `firstWord_fork`: so both readings have the same first word, or it holds a mark.
-/
import Mathlib.Tactic
import TrinoManagement.Core.Comments
import TrinoManagement.Core.Text

namespace TrinoManagement.Bench

open TrinoManagement.Text (isSpace stripChars stripChars_spaces_append stripChars_split)
open TrinoManagement.Sql

/-! ## The two passes -/

/-- where the block pass stands; a pass knows no quotes and no line comments -/
inductive BlockPlace where
  | outside | opening | inside | closing
deriving DecidableEq, Repr

/-- `re.sub(r"/\*.*?\*/", " ", sql, flags=re.S)`: a mark that is never closed is no match -/
def withoutBlocks : BlockPlace → List Char → List Char
  | _, [] => []
  | .outside, c :: rest =>
    if c = '/' ∧ rest.head? = some '*' ∧ closes rest.tail = true then ' ' :: withoutBlocks .opening rest
    else c :: withoutBlocks .outside rest
  | .opening, _ :: rest => withoutBlocks .inside rest
  | .inside, c :: rest =>
    if c = '*' ∧ rest.head? = some '/' then withoutBlocks .closing rest else withoutBlocks .inside rest
  | .closing, _ :: rest => withoutBlocks .outside rest

/-- `re.sub(r"--[^\n]*", " ", no_block)`, outside and inside a match -/
def withoutLines : Bool → List Char → List Char
  | _, [] => []
  | false, c :: rest =>
    if c = '-' ∧ rest.head? = some '-' then ' ' :: withoutLines true rest else c :: withoutLines false rest
  | true, c :: rest => if c = '\n' then c :: withoutLines false rest else withoutLines true rest

def withoutComments (sql : List Char) : List Char := withoutLines false (withoutBlocks .outside sql)

/-! ## The check -/

def readOnlyStarts : List String := ["SELECT", "WITH", "SHOW", "EXPLAIN", "DESCRIBE", "VALUES", "TABLE"]

def maxStatementChars : ℕ := 20000

/-- what separates words for the check: `[\s(]` -/
def separates (c : Char) : Bool := isSpace c || c = '('

/-- `re.split(r"[\s(]+", stripped.lstrip("("), maxsplit=1)[0]` -/
def firstWord (stripped : List Char) : List Char := (stripped.dropWhile (· = '(')).takeWhile fun c => !separates c

/-- `str.upper`, character by character; beyond ASCII it is whatever the Unicode tables say -/
def upper (beyond : Char → List Char) (word : List Char) : List Char :=
  word.flatMap fun c => if c.toNat < 128 then [c.toUpper] else beyond c

section Check

variable (beyond : Char → List Char) (repr : String → String)

/-- the first word of what is left, in capitals -/
def startOf (bareText : List Char) : String := String.ofList (upper beyond (firstWord (stripChars bareText)))

/-- `refuse_statement` -/
def refuseStatement (sql : List Char) : Option String :=
  let stripped := stripChars (withoutComments sql)
  if stripped = [] then some "the statement is empty"
  else if maxStatementChars < sql.length then
    some ("the statement is longer than " ++ toString maxStatementChars ++ " characters")
  else if ';' ∈ stripped.rdropWhile (· = ';') then
    some "more than one statement; a benchmark query must be a single statement"
  else
    let first := startOf beyond (withoutComments sql)
    if first ∉ readOnlyStarts then
      some ("starts with " ++ repr first ++ "; benchmark statements must be read-only (" ++
        ", ".intercalate readOnlyStarts ++ ")")
    else none

theorem refuseStatement_eq_none {sql : List Char} : refuseStatement beyond repr sql = none ↔
    stripChars (withoutComments sql) ≠ [] ∧ sql.length ≤ maxStatementChars ∧
    ';' ∉ (stripChars (withoutComments sql)).rdropWhile (· = ';') ∧
    startOf beyond (withoutComments sql) ∈ readOnlyStarts := by
  unfold refuseStatement
  dsimp only
  split_ifs with hempty hlong hmany hstart
  · simp [hempty]
  · simp [hlong]
  · simp [hmany]
  · simp [hempty, hmany, hstart, Nat.le_of_not_lt hlong]
  · simp [hstart]

end Check

/-! ## Whole pieces -/

theorem withoutBlocks_inside {body : List Char} (h : closes body = false) (rest : List Char) :
    withoutBlocks .inside (body ++ '*' :: '/' :: rest) = withoutBlocks .outside rest := by
  induction body with
  | nil => simp [withoutBlocks]
  | cons c body ih =>
    obtain ⟨hbody, hc⟩ := closes_cons_false h ('/' :: rest)
    rw [List.cons_append, withoutBlocks, if_neg hc]
    exact ih hbody

theorem withoutLines_true {body : List Char} (h : '\n' ∉ body) (rest : List Char) :
    withoutLines true (body ++ '\n' :: rest) = '\n' :: withoutLines false rest := by
  induction body with
  | nil => simp [withoutLines]
  | cons c body ih =>
    obtain ⟨hc, hbody⟩ := List.ne_and_not_mem_of_not_mem_cons h
    rw [List.cons_append, withoutLines, if_neg (Ne.symm hc)]
    exact ih hbody

/-- where the block pass stands after a text, if every mark it opens is closed somewhere -/
def placeAfter : BlockPlace → List Char → BlockPlace
  | m, [] => m
  | .outside, c :: rest => if c = '/' ∧ rest.head? = some '*' then placeAfter .opening rest else placeAfter .outside rest
  | .opening, _ :: rest => placeAfter .inside rest
  | .inside, c :: rest => if c = '*' ∧ rest.head? = some '/' then placeAfter .closing rest else placeAfter .inside rest
  | .closing, _ :: rest => placeAfter .outside rest

/-- the block marks in a line comment are closed in it -/
def Contained : Piece → Prop
  | .line body _ => placeAfter .outside body = .outside
  | _ => True

instance Contained.decidable : ∀ p, Decidable (Contained p)
  | .blank .. => isTrue trivial
  | .line body _ => inferInstanceAs (Decidable (placeAfter .outside body = .outside))
  | .block .. => isTrue trivial

theorem closes_of_placeAfter {m : BlockPlace} {body : List Char} (hm : m = .inside) (h : placeAfter m body = .outside) :
    closes body = true := by
  subst hm
  induction body with
  | nil => cases h
  | cons c body ih =>
    by_cases hc : c = '*' ∧ body.head? = some '/'
    · simp [closes, hc]
    · rw [placeAfter, if_neg hc] at h
      simp [closes, ih h]

/-- a newline is no part of a mark -/
theorem head_line {body rest : List Char} {d : Char} (hd : d ≠ '\n') :
    (body ++ '\n' :: rest).head? = some d ↔ body.head? = some d := by
  cases body with
  | nil => simp [hd.symm]
  | cons c body => simp

/-- a line comment with its marks closed stays one line -/
theorem withoutBlocks_line {m : BlockPlace} {body : List Char} (hline : '\n' ∉ body) (h : placeAfter m body = .outside) :
    ∃ out, '\n' ∉ out ∧ ∀ rest, withoutBlocks m (body ++ '\n' :: rest) = out ++ '\n' :: withoutBlocks .outside rest := by
  induction body generalizing m with
  | nil =>
    have hm : m = .outside := h
    subst hm
    exact ⟨[], by simp, fun rest => by simp [withoutBlocks]⟩
  | cons c body ih =>
    obtain ⟨hc, hbody⟩ := List.ne_and_not_mem_of_not_mem_cons hline
    cases m with
    | outside =>
      rw [placeAfter] at h
      split_ifs at h with hmark
      · obtain ⟨out, hout, heq⟩ := ih hbody h
        refine ⟨' ' :: out, by simp [hout], ?_⟩
        intro rest
        obtain ⟨body', rfl⟩ := List.head?_eq_some_iff.1 hmark.2
        rw [placeAfter] at h
        have hcloses := closes_append (closes_of_placeAfter rfl h) ('\n' :: rest)
        rw [List.cons_append, withoutBlocks, if_pos ⟨hmark.1, rfl, hcloses⟩, heq rest, List.cons_append]
      · obtain ⟨out, hout, heq⟩ := ih hbody h
        refine ⟨c :: out, by simp [hout, hc], ?_⟩
        intro rest
        have hmark' : ¬ (c = '/' ∧ (body ++ '\n' :: rest).head? = some '*' ∧ closes (body ++ '\n' :: rest).tail = true) := by
          intro hboth
          obtain ⟨hslash, hstar, -⟩ := hboth
          exact hmark ⟨hslash, (head_line (by decide)).1 hstar⟩
        rw [List.cons_append, withoutBlocks, if_neg hmark', heq rest, List.cons_append]
    | opening =>
      obtain ⟨out, hout, heq⟩ := ih hbody h
      exact ⟨out, hout, heq⟩
    | inside =>
      rw [placeAfter] at h
      split_ifs at h with hmark
      · obtain ⟨out, hout, heq⟩ := ih hbody h
        refine ⟨out, hout, ?_⟩
        intro rest
        rw [List.cons_append, withoutBlocks, if_pos ⟨hmark.1, (head_line (by decide)).2 hmark.2⟩, heq rest]
      · obtain ⟨out, hout, heq⟩ := ih hbody h
        refine ⟨out, hout, ?_⟩
        intro rest
        have hmark' : ¬ (c = '*' ∧ (body ++ '\n' :: rest).head? = some '/') := by
          intro hboth
          obtain ⟨hstar, hslash⟩ := hboth
          exact hmark ⟨hstar, (head_line (by decide)).1 hslash⟩
        rw [List.cons_append, withoutBlocks, if_neg hmark', heq rest]
    | closing =>
      obtain ⟨out, hout, heq⟩ := ih hbody h
      exact ⟨out, hout, heq⟩

theorem withoutComments_piece {p : Piece} (h : Contained p) (rest : List Char) :
    withoutComments (p.text ++ rest) = p.left ++ withoutComments rest := by
  unfold withoutComments
  cases p with
  | blank c space =>
    have hdash := ne_of_isSpace space (d := '-') (by decide)
    have hslash := ne_of_isSpace space (d := '/') (by decide)
    simp [Piece.text, Piece.left, withoutBlocks, withoutLines, hdash, hslash]
  | line body oneLine =>
    obtain ⟨out, hout, heq⟩ := withoutBlocks_line oneLine h
    have hdash : '\n' ∉ '-' :: out := by simp [hout]
    have hread := withoutLines_true hdash (withoutBlocks .outside rest)
    have hblocks : withoutBlocks .outside ((Piece.line body oneLine).text ++ rest) =
        '-' :: '-' :: out ++ '\n' :: withoutBlocks .outside rest := by
      simp [Piece.text, withoutBlocks, heq rest]
    rw [hblocks]
    simpa [Piece.left, withoutLines] using hread
  | block body open_ =>
    have hcloses : closes (body ++ '*' :: '/' :: rest) = true := by
      clear h open_
      induction body with
      | nil => simp [closes]
      | cons c body ih => simp [closes, ih]
    have hread := withoutBlocks_inside open_ rest
    have hblocks : withoutBlocks .outside ((Piece.block body open_).text ++ rest) = ' ' :: withoutBlocks .outside rest := by
      simpa [Piece.text, withoutBlocks, hcloses] using hread
    rw [hblocks]
    simp [Piece.left, withoutLines]

/-- **The passes over a lead.** They leave what the reader leaves. -/
theorem withoutComments_lead {lead : List Piece} (h : ∀ p ∈ lead, Contained p) (rest : List Char) :
    withoutComments (leadText lead ++ rest) = leadLeft lead ++ withoutComments rest := by
  induction lead with
  | nil => rfl
  | cons p lead ih =>
    have htail := ih fun q hq => h q (List.mem_cons_of_mem p hq)
    simp only [leadText, leadLeft, List.flatMap_cons, List.append_assoc] at htail ⊢
    rw [withoutComments_piece (h p List.mem_cons_self), htail]

/-! ## From a token on -/

/-- what the two readings go on with where they part: nothing, or a blank each, or a mark for the passes -/
def Fork (passes reader : List Char) : Prop :=
  (passes = [] ∧ reader = []) ∨ (passes.head? = some ' ' ∧ reader.head? = some ' ') ∨
  ∃ c ∈ ['/', '\'', '"'], passes.head? = some c

/-- the block pass adds blanks only -/
theorem withoutBlocks_head {rest : List Char} {c : Char} (hc : c ≠ ' ') (h : (withoutBlocks .outside rest).head? = some c) :
    rest.head? = some c := by
  cases rest with
  | nil => simp [withoutBlocks] at h
  | cons d rest =>
    rw [withoutBlocks] at h
    split_ifs at h with hmark
    · simp [hc.symm] at h
    · simpa using h

/-- where no comment begins -/
theorem withoutComments_cons {c : Char} {rest : List Char} (hline : ¬ (c = '-' ∧ rest.head? = some '-'))
    (hblock : ¬ (c = '/' ∧ rest.head? = some '*')) : withoutComments (c :: rest) = c :: withoutComments rest := by
  have hmark : ¬ (c = '/' ∧ rest.head? = some '*' ∧ closes rest.tail = true) := by
    intro hboth
    obtain ⟨hslash, hstar, -⟩ := hboth
    exact hblock ⟨hslash, hstar⟩
  have hdash : ¬ (c = '-' ∧ (withoutBlocks .outside rest).head? = some '-') := by
    intro hboth
    obtain ⟨hdash, hhead⟩ := hboth
    exact hline ⟨hdash, withoutBlocks_head (by decide) hhead⟩
  unfold withoutComments
  rw [withoutBlocks, if_neg hmark, withoutLines, if_neg hdash]

/-- **Both readings of a text.** They agree up to the first comment, quote or mark, or the end. -/
theorem fork (rest : List Char) : ∃ word passes reader, withoutComments rest = word ++ passes ∧
    bare .text rest = word ++ reader ∧ Fork passes reader := by
  induction rest with
  | nil => exact ⟨[], [], [], rfl, rfl, .inl ⟨rfl, rfl⟩⟩
  | cons c rest ih =>
    by_cases hline : c = '-' ∧ rest.head? = some '-'
    · obtain ⟨rfl, hrest⟩ := hline
      obtain ⟨rest', rfl⟩ := List.head?_eq_some_iff.1 hrest
      refine ⟨[], withoutComments ('-' :: '-' :: rest'), bare .text ('-' :: '-' :: rest'), rfl, rfl, .inr (.inl ⟨?_, ?_⟩)⟩
      · simp [withoutComments, withoutBlocks, withoutLines]
      · simp [bare]
    by_cases hblock : c = '/' ∧ rest.head? = some '*'
    · obtain ⟨rfl, hrest⟩ := hblock
      refine ⟨[], withoutComments ('/' :: rest), bare .text ('/' :: rest), rfl, rfl, ?_⟩
      by_cases hcloses : closes rest.tail = true
      · refine .inr (.inl ⟨?_, ?_⟩)
        · simp [withoutComments, withoutBlocks, withoutLines, hrest, hcloses]
        · simp [bare, hrest]
      · exact .inr (.inr ⟨'/', by simp, by simp [withoutComments, withoutBlocks, withoutLines, hcloses]⟩)
    have hpasses := withoutComments_cons hline hblock
    by_cases hquote : c = '\'' ∨ c = '"'
    · refine ⟨[], withoutComments (c :: rest), bare .text (c :: rest), rfl, rfl, .inr (.inr ⟨c, ?_, by simp [hpasses]⟩)⟩
      rcases hquote with rfl | rfl <;> simp
    · obtain ⟨word, passes, reader, hw, hr, hfork⟩ := ih
      refine ⟨c :: word, passes, reader, ?_, ?_, hfork⟩
      · rw [hpasses, hw, List.cons_append]
      · rw [bare, if_neg hline, if_neg hblock, if_neg hquote, hr, List.cons_append]

/-! ## Words -/

theorem separates_of_isSpace {c : Char} (h : isSpace c = true) : separates c = true := by simp [separates, h]

/-- trailing blanks are no part of the first word -/
theorem firstWord_append_spaces (l : List Char) {spaces : List Char} (h : ∀ c ∈ spaces, isSpace c = true) :
    firstWord (l ++ spaces) = firstWord l := by
  have hword : ∀ l : List Char, (l ++ spaces).takeWhile (fun c => !separates c) = l.takeWhile fun c => !separates c := by
    intro l
    induction l with
    | nil =>
      cases spaces with
      | nil => rfl
      | cons c spaces => simp [separates_of_isSpace (h c List.mem_cons_self)]
    | cons c l ih => simp [List.takeWhile_cons, ih]
  unfold firstWord
  induction l with
  | nil =>
    cases spaces with
    | nil => rfl
    | cons c spaces =>
      have hc := h c List.mem_cons_self
      have hne := ne_of_isSpace hc (d := '(') (by decide)
      simp [hne, separates_of_isSpace hc]
  | cons c l ih =>
    by_cases hc : c = '('
    · simpa [hc] using ih
    · rw [List.cons_append, List.dropWhile_cons_of_neg (by simpa using hc), List.dropWhile_cons_of_neg (by simpa using hc)]
      exact hword (c :: l)

theorem firstWord_stripChars (l : List Char) : firstWord (stripChars l) = firstWord (l.dropWhile isSpace) := by
  rw [← List.rdropWhile_append_rtakeWhile (p := isSpace) (l := l.dropWhile isSpace),
    firstWord_append_spaces _ fun c hc => List.mem_rtakeWhile_imp hc]
  rfl

/-- a character of ASCII that is no letter stays in the capitals -/
theorem mem_upper {beyond : Char → List Char} {word : List Char} {c : Char} (hc : c ∈ word) (hascii : c.toNat < 128) :
    c.toUpper ∈ upper beyond word :=
  List.mem_flatMap.2 ⟨c, hc, by simp [hascii]⟩

/-- a read-only start has letters only -/
theorem letters_of_start {beyond : Char → List Char} {word : List Char}
    (h : String.ofList (upper beyond word) ∈ readOnlyStarts) : word ≠ [] ∧ ∀ c ∈ ['/', '\'', '"'], c ∉ word := by
  have hstart : upper beyond word ∈ readOnlyStarts.map String.toList :=
    List.mem_map.2 ⟨_, h, String.toList_ofList⟩
  generalize hcapitals : upper beyond word = capitals at hstart
  have hletters : capitals ≠ [] ∧ '/' ∉ capitals ∧ '\'' ∉ capitals ∧ '"' ∉ capitals := by
    simp only [readOnlyStarts, List.map_cons, List.map_nil, List.mem_cons, List.not_mem_nil, or_false] at hstart
    rcases hstart with rfl | rfl | rfl | rfl | rfl | rfl | rfl <;> decide
  subst hcapitals
  refine ⟨?_, ?_⟩
  · rintro rfl
    exact hletters.1 rfl
  · intro c hc hmem
    simp only [List.mem_cons, List.not_mem_nil, or_false] at hc
    rcases hc with rfl | rfl | rfl
    · exact hletters.2.1 (mem_upper hmem (by decide))
    · exact hletters.2.2.1 (mem_upper hmem (by decide))
    · exact hletters.2.2.2 (mem_upper hmem (by decide))

/-- where two readings part, the first word has ended, or it holds a mark -/
theorem firstWord_fork (word : List Char) {passes reader : List Char} (h : Fork passes reader) :
    (∃ c ∈ ['/', '\'', '"'], c ∈ firstWord (word ++ passes)) ∨ firstWord (word ++ passes) = firstWord (word ++ reader) := by
  have hmarks : ∀ c ∈ ['/', '\'', '"'], separates c = false ∧ c ≠ '(' := by
    intro c hc
    simp only [List.mem_cons, List.not_mem_nil, or_false] at hc
    rcases hc with rfl | rfl | rfl <;> decide
  have htake : ∀ word : List Char, (∃ c ∈ ['/', '\'', '"'], c ∈ (word ++ passes).takeWhile fun c => !separates c) ∨
      (word ++ passes).takeWhile (fun c => !separates c) = (word ++ reader).takeWhile fun c => !separates c := by
    intro word
    induction word with
    | nil =>
      rcases h with ⟨rfl, rfl⟩ | ⟨hp, hr⟩ | ⟨c, hc, hp⟩
      · exact .inr rfl
      · obtain ⟨passes, rfl⟩ := List.head?_eq_some_iff.1 hp
        obtain ⟨reader, rfl⟩ := List.head?_eq_some_iff.1 hr
        exact .inr rfl
      · obtain ⟨passes, rfl⟩ := List.head?_eq_some_iff.1 hp
        exact .inl ⟨c, hc, by simp [(hmarks c hc).1]⟩
    | cons d word ih =>
      by_cases hd : separates d = true
      · exact .inr (by simp [hd])
      · rcases ih with ⟨c, hc, hmem⟩ | heq
        · exact .inl ⟨c, hc, by simp [hd, hmem]⟩
        · exact .inr (by simp [hd, heq])
  unfold firstWord
  induction word with
  | nil =>
    rcases h with ⟨rfl, rfl⟩ | ⟨hp, hr⟩ | ⟨c, hc, hp⟩
    · exact .inr rfl
    · obtain ⟨passes, rfl⟩ := List.head?_eq_some_iff.1 hp
      obtain ⟨reader, rfl⟩ := List.head?_eq_some_iff.1 hr
      exact .inr rfl
    · obtain ⟨passes, rfl⟩ := List.head?_eq_some_iff.1 hp
      exact .inl ⟨c, hc, by simp [(hmarks c hc).1, (hmarks c hc).2]⟩
  | cons d word ih =>
    by_cases hd : d = '('
    · simpa [hd] using ih
    · have htake' := htake (d :: word)
      rw [List.cons_append, List.cons_append] at htake'
      rw [List.cons_append, List.cons_append, List.dropWhile_cons_of_neg (by simpa using hd),
        List.dropWhile_cons_of_neg (by simpa using hd)]
      exact htake'

/-! ## The first word -/

/-- no line breaks come from the block pass -/
theorem mem_withoutBlocks {m : BlockPlace} {l : List Char} {c : Char} (h : c ∈ withoutBlocks m l) : c = ' ' ∨ c ∈ l := by
  induction l generalizing m with
  | nil => cases m <;> cases h
  | cons d l ih =>
    have hmore : ∀ m', c ∈ withoutBlocks m' l → c = ' ' ∨ c ∈ d :: l := by
      intro m' hmem
      exact (ih hmem).imp_right (List.mem_cons_of_mem d)
    cases m with
    | outside =>
      rw [withoutBlocks] at h
      split_ifs at h
      · exact (List.mem_cons.1 h).elim .inl (hmore .opening)
      · rcases List.mem_cons.1 h with rfl | h
        · exact .inr List.mem_cons_self
        · exact hmore .outside h
    | opening => exact hmore .inside h
    | inside =>
      rw [withoutBlocks] at h
      split_ifs at h
      · exact hmore .closing h
      · exact hmore .inside h
    | closing => exact hmore .outside h

theorem withoutLines_nil {l : List Char} (h : '\n' ∉ l) : withoutLines true l = [] := by
  induction l with
  | nil => rfl
  | cons c l ih =>
    obtain ⟨hc, hl⟩ := List.ne_and_not_mem_of_not_mem_cons h
    rw [withoutLines, if_neg (Ne.symm hc)]
    exact ih hl

/-- a comment that never ends hides everything, or shows its mark -/
theorem not_comment_of_start {beyond : Char → List Char} {c : Char} {rest : List Char} (hrest : AtToken (c :: rest))
    (h : startOf beyond (withoutComments (c :: rest)) ∈ readOnlyStarts) :
    ¬ (c = '-' ∧ rest.head? = some '-') ∧ ¬ (c = '/' ∧ rest.head? = some '*') := by
  obtain ⟨hnil, hmarks⟩ := letters_of_start h
  rw [firstWord_stripChars] at hnil hmarks
  refine ⟨?_, ?_⟩
  · intro hboth
    obtain ⟨rfl, hhead⟩ := hboth
    obtain ⟨rest, rfl⟩ := List.head?_eq_some_iff.1 hhead
    have hline : '\n' ∉ withoutBlocks .outside rest := by
      intro hmem
      rcases mem_withoutBlocks hmem with hc | hc
      · cases hc
      · exact hrest.line hc
    have hblank : withoutComments ('-' :: '-' :: rest) = [' '] := by
      simp [withoutComments, withoutBlocks, withoutLines, withoutLines_nil hline]
    rw [hblank] at hnil
    exact hnil rfl
  · intro hboth
    obtain ⟨rfl, hhead⟩ := hboth
    obtain ⟨rest, rfl⟩ := List.head?_eq_some_iff.1 hhead
    have hmark : withoutComments ('/' :: '*' :: rest) = '/' :: withoutLines false (withoutBlocks .outside ('*' :: rest)) := by
      simp [withoutComments, withoutBlocks, withoutLines, hrest.block]
    rw [hmark] at hmarks
    apply hmarks '/' (by simp)
    exact List.mem_cons_self

theorem bare_head {c : Char} {rest : List Char} (hline : ¬ (c = '-' ∧ rest.head? = some '-'))
    (hblock : ¬ (c = '/' ∧ rest.head? = some '*')) : (bare .text (c :: rest)).head? = some c := by
  rw [bare, if_neg hline, if_neg hblock]
  split_ifs <;> rfl

theorem dropWhile_of_head {l : List Char} {c : Char} (hl : l.head? = some c) (hc : isSpace c = false) :
    l.dropWhile isSpace = l := by
  obtain ⟨l, rfl⟩ := List.head?_eq_some_iff.1 hl
  exact List.dropWhile_cons_of_neg (by simp [hc])

/-- **The first word of an accepted statement.** If its leading line comments keep their marks to themselves, the passes and
the reader find the same one. -/
theorem startOf_eq {beyond : Char → List Char} {lead : List Piece} (hlead : ∀ p ∈ lead, Contained p) {rest : List Char}
    (hrest : AtToken rest) (h : startOf beyond (withoutComments (leadText lead ++ rest)) ∈ readOnlyStarts) :
    startOf beyond (bare .text (leadText lead ++ rest)) = startOf beyond (withoutComments (leadText lead ++ rest)) := by
  have hblanks : ∀ l, startOf beyond (leadLeft lead ++ l) = startOf beyond l := by
    intro l
    unfold startOf
    rw [stripChars_spaces_append leadLeft_space]
  rw [withoutComments_lead hlead, hblanks] at h
  rw [bare_lead, withoutComments_lead hlead, hblanks, hblanks]
  cases rest with
  | nil => rfl
  | cons c rest =>
    obtain ⟨hline, hblock⟩ := not_comment_of_start hrest h
    have hmarks := (letters_of_start h).2
    have hpasses : (withoutComments (c :: rest)).head? = some c := by simp [withoutComments_cons hline hblock]
    have hreader := bare_head hline hblock
    have hstart : ∀ l : List Char, l.head? = some c → firstWord (stripChars l) = firstWord l := by
      intro l hl
      rw [firstWord_stripChars, dropWhile_of_head hl hrest.not_space]
    obtain ⟨word, passes, reader, hw, hr, hfork⟩ := fork (c :: rest)
    unfold startOf
    rw [hstart _ hpasses] at hmarks ⊢
    rw [hstart _ hreader, hw, hr]
    rw [hw] at hmarks
    rcases firstWord_fork word hfork with ⟨d, hd, hmem⟩ | heq
    · exact absurd hmem (hmarks d hd)
    · rw [heq]

end TrinoManagement.Bench
