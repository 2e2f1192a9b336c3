/-
Read-only benchmarks: no statement without comments that the runner hands to Trino should change data, given that Trino
changes data only for a statement that begins with a keyword for that, or for EXPLAIN ANALYZE over such a statement.

`READ_ONLY_STARTS` has EXPLAIN in it, which runs what it explains once ANALYZE follows.
- `firstKeyword_not_write`: the keyword Trino reads first is a prefix of a read-only start, and no keyword for changes is.
- `changes_nothing_iff`: what is handed over changes nothing for sure exactly when it does not analyze a change.
- `analyze_delete_handed`: EXPLAIN ANALYZE DELETE is handed over.
-/
import Mathlib.Tactic
import TrinoManagement.Bench.Runner

namespace TrinoManagement.Bench

open TrinoManagement.Text (isSpace stripChars)
open TrinoManagement.Sql

/-! ## What is assumed of Trino -/

/-- the keywords that begin a statement which changes data or definitions -/
def writeKeywords : List String :=
  ["INSERT", "UPDATE", "DELETE", "MERGE", "TRUNCATE", "CREATE", "ALTER", "DROP", "COMMENT", "REFRESH", "ANALYZE", "CALL",
    "GRANT", "REVOKE", "DENY", "EXECUTE"]

def isWordChar (c : Char) : Bool := c.isAlphanum || c = '_'

/-- the first keyword in capitals, after blanks and parentheses -/
def firstKeyword (sql : List Char) : String :=
  String.ofList (((sql.dropWhile separates).takeWhile isWordChar).map Char.toUpper)

/-- what follows the keyword, if it comes next -/
def afterKeyword (keyword : String) (sql : List Char) : Option (List Char) :=
  let next := sql.dropWhile isSpace
  if String.ofList ((next.takeWhile isWordChar).map Char.toUpper) = keyword then some (next.dropWhile isWordChar) else none

/-- what follows a parenthesised list, if one comes next -/
def afterOptions (sql : List Char) : List Char :=
  match sql.dropWhile isSpace with
  | '(' :: rest => (rest.dropWhile (· ≠ ')')).tail
  | _ => sql

/-- what `EXPLAIN ANALYZE`, with or without `VERBOSE` or options, is about -/
def analyzed (sql : List Char) : Option (List Char) := do
  let rest ← afterKeyword "EXPLAIN" sql
  let rest ← afterKeyword "ANALYZE" rest
  pure (afterOptions ((afterKeyword "VERBOSE" rest).getD rest))

/-- the statements that may change data -/
inductive MayChange : List Char → Prop where
  | write {sql : List Char} (hwrite : firstKeyword sql ∈ writeKeywords) : MayChange sql
  | analyze {sql explained : List Char} (hexplained : analyzed sql = some explained) (hchange : MayChange explained) :
    MayChange sql

/-- Trino changes data for no others -/
def TrinoRule (changes : List Char → Prop) : Prop := ∀ sql, changes sql → MayChange sql

/-- the reader finds no comment to replace -/
def CommentFree (sql : List Char) : Prop := bare .text sql = sql

instance (sql : List Char) : Decidable (CommentFree sql) := inferInstanceAs (Decidable (bare .text sql = sql))

/-- `EXPLAIN ANALYZE` over a statement that may change data -/
def AnalyzesChange (sql : List Char) : Prop := ∃ explained, analyzed sql = some explained ∧ MayChange explained

/-! ## Keywords and words -/

theorem takeWhile_prefix_of_imp {p q : Char → Bool} (h : ∀ c, p c = true → q c = true) (l : List Char) :
    l.takeWhile p <+: l.takeWhile q := by
  induction l with
  | nil => exact List.prefix_refl _
  | cons c l ih =>
    by_cases hp : p c = true
    · rw [List.takeWhile_cons_of_pos hp, List.takeWhile_cons_of_pos (h c hp)]
      exact List.cons_prefix_cons.2 ⟨rfl, ih⟩
    · rw [List.takeWhile_cons_of_neg hp]
      exact List.nil_prefix

theorem wordChar_range {c : Char} (h : isWordChar c = true) :
    (48 ≤ c.toNat ∧ c.toNat ≤ 57) ∨ (65 ≤ c.toNat ∧ c.toNat ≤ 90) ∨ (97 ≤ c.toNat ∧ c.toNat ≤ 122) ∨ c.toNat = 95 := by
  change (((decide (c.val ≥ 65 ∧ c.val ≤ 90) || (decide (c.val ≥ 97) && decide (c.val ≤ 122))) ||
    (decide (c.val ≥ 48) && decide (c.val ≤ 57))) || decide (c = '_')) = true at h
  simp only [Bool.or_eq_true, Bool.and_eq_true, decide_eq_true_eq, UInt32.le_iff_toNat_le, ge_iff_le] at h
  change (((65 ≤ c.toNat ∧ c.toNat ≤ 90) ∨ 97 ≤ c.toNat ∧ c.toNat ≤ 122) ∨ 48 ≤ c.toNat ∧ c.toNat ≤ 57) ∨ c = '_' at h
  rcases h with h | rfl
  · omega
  · decide

theorem not_separates_of_isWordChar {c : Char} (h : isWordChar c = true) : (!separates c) = true := by
  have hrange := wordChar_range h
  have hspace : isSpace c = false := by
    rw [isSpace]
    simp only [Bool.or_eq_false_iff, Bool.and_eq_false_iff, decide_eq_false_iff_not, beq_eq_false_iff_ne]
    omega
  have hparen : c ≠ '(' := by
    rintro rfl
    revert hrange
    decide
  simp [separates, hspace, hparen]

/-- what the check reads as the first word is where Trino reads the first keyword -/
theorem dropWhile_separates {l : List Char} (h : firstWord (l.dropWhile isSpace) ≠ []) :
    l.dropWhile separates = (l.dropWhile isSpace).dropWhile (· = '(') := by
  induction l with
  | nil => rfl
  | cons c l ih =>
    by_cases hspace : isSpace c = true
    · rw [List.dropWhile_cons_of_pos hspace] at h ⊢
      rw [List.dropWhile_cons_of_pos (separates_of_isSpace hspace)]
      exact ih h
    · rw [List.dropWhile_cons_of_neg hspace] at h ⊢
      clear ih
      generalize hl : c :: l = l' at h ⊢
      clear hl hspace
      induction l' with
      | nil => rfl
      | cons d l' ih =>
        by_cases hd : d = '('
        · subst hd
          rw [firstWord, List.dropWhile_cons_of_pos (by decide)] at h
          rw [List.dropWhile_cons_of_pos (by decide), List.dropWhile_cons_of_pos (by decide)]
          exact ih h
        · rw [firstWord, List.dropWhile_cons_of_neg (by simpa using hd)] at h
          have hsep : ¬ separates d = true := by
            intro hsep
            rw [List.takeWhile_cons_of_neg (by simp [hsep])] at h
            exact h rfl
          rw [List.dropWhile_cons_of_neg hsep, List.dropWhile_cons_of_neg (by simpa using hd)]

/-- no keyword for changes begins a read-only start -/
theorem not_prefix_of_write : ∀ keyword ∈ writeKeywords, ∀ start ∈ readOnlyStarts, ¬ keyword.toList <+: start.toList := by
  decide +kernel

/-- **The allowlist and Trino's keyword.** A text whose first word is a read-only start, whatever `str.upper` makes of it
beyond ASCII, begins with no keyword for changes. -/
theorem firstKeyword_not_write {beyond : Char → List Char} {sql : List Char} (h : startOf beyond sql ∈ readOnlyStarts) :
    firstKeyword sql ∉ writeKeywords := by
  have hword := (letters_of_start h).1
  rw [firstWord_stripChars] at hword
  have hplace := dropWhile_separates hword
  have hpre := takeWhile_prefix_of_imp (fun c => @not_separates_of_isWordChar c) (sql.dropWhile separates)
  generalize hkeyword : (sql.dropWhile separates).takeWhile isWordChar = keyword at hpre
  have hcapitals : keyword.map Char.toUpper = upper beyond keyword := by
    have hascii : ∀ c ∈ keyword, c.toNat < 128 := by
      intro c hc
      rw [← hkeyword] at hc
      have hrange := wordChar_range (List.mem_takeWhile_imp hc)
      omega
    clear hkeyword hpre
    induction keyword with
    | nil => rfl
    | cons c keyword ih =>
      have hc := hascii c List.mem_cons_self
      rw [List.map_cons, ih fun d hd => hascii d (List.mem_cons_of_mem c hd)]
      simp [upper, hc]
  have hstart : (firstKeyword sql).toList <+: (startOf beyond sql).toList := by
    rw [firstKeyword, hkeyword, startOf, String.toList_ofList, String.toList_ofList, hcapitals, firstWord_stripChars,
      firstWord, ← hplace]
    obtain ⟨more, hmore⟩ := hpre
    rw [← hmore]
    exact ⟨upper beyond more, by simp [upper]⟩
  intro hwrite
  exact not_prefix_of_write _ hwrite _ h hstart

/-! ## Statements without comments -/

/-- a text without comments begins with blanks only -/
theorem contained_of_commentFree {lead : List Piece} {rest : List Char} (h : CommentFree (leadText lead ++ rest)) :
    ∀ p ∈ lead, Contained p := by
  rw [CommentFree, bare_lead] at h
  induction lead with
  | nil => simp
  | cons p lead ih =>
    simp only [leadText, leadLeft, List.flatMap_cons, List.append_assoc] at h ih
    cases p with
    | blank c space =>
      have htail := (List.cons.inj h).2
      intro q hq
      rcases List.mem_cons.1 hq with rfl | hq
      · trivial
      · exact ih htail q hq
    | line body oneLine => exact absurd (List.cons.inj h).1 (by decide)
    | block body open_ => exact absurd (List.cons.inj h).1 (by decide)

theorem startOf_of_commentFree {beyond : Char → List Char} {repr : String → String} {sql : List Char} (hfree : CommentFree sql)
    (h : refuseStatement beyond repr sql = none) : startOf beyond sql ∈ readOnlyStarts := by
  have hstart := ((refuseStatement_eq_none beyond repr).1 h).2.2.2
  obtain ⟨lead, rest, hrest, rfl⟩ := exists_lead sql
  have heq := startOf_eq (contained_of_commentFree hfree) hrest hstart
  rw [hfree] at heq
  rw [heq]
  exact hstart

/-- **What is handed over.** Of a statement without comments that the runner hands to Trino it is certain, from the rule
alone, that it changes no data exactly when it is not `EXPLAIN ANALYZE` over a statement that may. -/
theorem changes_nothing_iff (beyond : Char → List Char) (repr : String → String) (client : List Char → Answer) (ms : ℤ)
    (query : Query) (iteration : ℕ) (sql : List Char) (hfree : CommentFree sql)
    (hhanded : (one beyond repr client ms query iteration).handed = some sql) :
    (∀ changes, TrinoRule changes → ¬ changes sql) ↔ ¬ AnalyzesChange sql := by
  constructor
  · intro hnever hanalyzes
    obtain ⟨explained, hexplained, hchange⟩ := hanalyzes
    exact hnever MayChange (fun _ h => h) (.analyze hexplained hchange)
  · intro hanalyzes changes hrule hchanges
    have hstart := startOf_of_commentFree hfree (one_handed_iff.1 hhanded).2
    cases hrule sql hchanges with
    | write hwrite => exact firstKeyword_not_write hstart hwrite
    | analyze hexplained hchange => exact hanalyzes ⟨_, hexplained, hchange⟩

def Sample.select : Query := ⟨"q1", "SELECT 'a--b' FROM t".toList⟩

theorem changes_nothing_select :
    (∀ changes, TrinoRule changes → ¬ changes Sample.select.sql) ↔ ¬ AnalyzesChange Sample.select.sql :=
  changes_nothing_iff (fun c => [c]) id (fun _ => .clientError "timeout") 0 Sample.select 1 Sample.select.sql
    (by decide +kernel) (one_handed_iff.2 ⟨rfl, by decide +kernel⟩)

def Sample.analyze : Query := ⟨"q1", "EXPLAIN ANALYZE DELETE FROM t".toList⟩

/-- **A statement that deletes.** It has no comment, is handed to Trino, and the rule lets it change data. -/
theorem analyze_delete_handed :
    CommentFree Sample.analyze.sql ∧
    (one (fun c => [c]) id (fun _ => .clientError "timeout") 0 Sample.analyze 1).handed = some Sample.analyze.sql ∧
    ∃ changes, TrinoRule changes ∧ changes Sample.analyze.sql := by
  refine ⟨by decide +kernel, one_handed_iff.2 ⟨rfl, by decide +kernel⟩, MayChange, fun _ h => h, ?_⟩
  have hexplained : analyzed Sample.analyze.sql = some " DELETE FROM t".toList := by decide +kernel
  apply MayChange.analyze hexplained
  apply MayChange.write
  decide +kernel

end TrinoManagement.Bench
