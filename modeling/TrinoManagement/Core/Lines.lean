/-
Lines of a text, as Python's `str.splitlines` cuts them, on lists of characters.

- `splitLines_break`: the first line of a text is what stands before its first line break.
- `contents_append`: what a text holds besides blank lines is what the parts of it hold that a newline joins.
-/
import Mathlib.Tactic
import TrinoManagement.Core.Text

namespace TrinoManagement.Text

/-- the characters that end a line for `str.splitlines` -/
def isBreak (c : Char) : Bool :=
  let n := c.toNat
  (decide (10 ≤ n) && decide (n ≤ 13)) || (decide (28 ≤ n) && decide (n ≤ 30)) || n == 133 || n == 8232 || n == 8233

/-- a text that is one line, by looking at it -/
theorem unbroken_of_any {l : List Char} (h : l.any isBreak = false) : ∀ c ∈ l, isBreak c = false := by
  intro c hc
  exact Bool.eq_false_iff.2 (List.any_eq_false.1 h c hc)

/-- `str.splitlines`; a return and a newline after it are one break -/
def splitLines : List Char → List (List Char)
  | [] => []
  | '\r' :: '\n' :: rest => [] :: splitLines rest
  | c :: rest =>
    if isBreak c then [] :: splitLines rest
    else
      match splitLines rest with
      | [] => [[c]]
      | line :: lines => (c :: line) :: lines

/-- what follows a break; the newline after a return belongs to it -/
def afterBreak : Char → List Char → List Char
  | '\r', '\n' :: rest => rest
  | _, rest => rest

theorem splitLines_isBreak {c : Char} (h : isBreak c = true) (rest : List Char) :
    splitLines (c :: rest) = [] :: splitLines (afterBreak c rest) := by
  by_cases hc : c = '\r'
  · subst hc
    cases rest with
    | nil => rfl
    | cons d rest =>
      by_cases hd : d = '\n'
      · subst hd
        rfl
      · rw [splitLines, if_pos h, afterBreak]
        · simp [hd]
        · simp [hd]
  · rw [splitLines, if_pos h, afterBreak]
    · simp [hc]
    · simp [hc]

theorem splitLines_cons {c : Char} (h : isBreak c = false) (rest : List Char) :
    splitLines (c :: rest) = match splitLines rest with
      | [] => [[c]]
      | line :: lines => (c :: line) :: lines := by
  have hc : c ≠ '\r' := by
    rintro rfl
    revert h
    decide
  rw [splitLines, if_neg (by simp [h])]
  simp [hc]

/-- one line and nothing else -/
theorem splitLines_line {l : List Char} (hl : ∀ c ∈ l, isBreak c = false) (hne : l ≠ []) : splitLines l = [l] := by
  induction l with
  | nil => exact absurd rfl hne
  | cons c rest ih =>
    rw [splitLines_cons (hl c List.mem_cons_self)]
    by_cases hrest : rest = []
    · subst hrest
      rfl
    · rw [ih (fun d hd => hl d (List.mem_cons_of_mem c hd)) hrest]

/-- a line, its break, and the rest -/
theorem splitLines_break {l : List Char} {b : Char} (hl : ∀ c ∈ l, isBreak c = false) (hb : isBreak b = true)
    (rest : List Char) : splitLines (l ++ b :: rest) = l :: splitLines (afterBreak b rest) := by
  induction l with
  | nil => exact splitLines_isBreak hb rest
  | cons c l ih =>
    rw [List.cons_append, splitLines_cons (hl c List.mem_cons_self), ih fun d hd => hl d (List.mem_cons_of_mem c hd)]

theorem length_afterBreak (b : Char) (rest : List Char) : (afterBreak b rest).length ≤ rest.length := by
  unfold afterBreak
  split
  · simp
  · exact le_rfl

theorem afterBreak_cons {b d : Char} (h : ¬ (b = '\r' ∧ d = '\n')) (rest : List Char) :
    afterBreak b (d :: rest) = d :: rest := by
  unfold afterBreak
  split
  · rename_i heq
    obtain ⟨rfl, -⟩ := List.cons.inj heq
    exact absurd ⟨rfl, rfl⟩ h
  · rfl

theorem mem_of_mem_afterBreak {b c : Char} {rest : List Char} (h : c ∈ afterBreak b rest) : c ∈ rest := by
  unfold afterBreak at h
  split at h
  · exact List.mem_cons_of_mem _ h
  · exact h

/-- what is joined on is left whole, unless a newline comes first -/
theorem afterBreak_append (b : Char) (rest : List Char) {l : List Char} (hl : l.head? ≠ some '\n') :
    afterBreak b (rest ++ l) = afterBreak b rest ++ l := by
  cases rest with
  | nil =>
    have hnil : afterBreak b [] = [] := by simp [afterBreak]
    rw [hnil]
    cases l with
    | nil => exact hnil
    | cons c l => exact afterBreak_cons (fun h => hl (by rw [h.2]; rfl)) l
  | cons d rest =>
    by_cases hc : b = '\r' ∧ d = '\n'
    · obtain ⟨rfl, rfl⟩ := hc
      rfl
    · rw [List.cons_append, afterBreak_cons hc, afterBreak_cons hc, List.cons_append]

/-- induction on the lines of a text: the last one, and one with its break before the rest -/
theorem lines_induction {P : List Char → Prop} (last : ∀ l, (∀ c ∈ l, isBreak c = false) → P l)
    (next : ∀ l b rest, (∀ c ∈ l, isBreak c = false) → isBreak b = true → P (afterBreak b rest) → P (l ++ b :: rest))
    (text : List Char) : P text := by
  induction h : text.length using Nat.strong_induction_on generalizing text with
  | _ n ih =>
    have hfirst : ∀ c ∈ text.takeWhile fun c => !isBreak c, isBreak c = false := fun c hc => by
      simpa using List.mem_takeWhile_imp hc
    have htext : text.takeWhile (fun c => !isBreak c) ++ text.dropWhile (fun c => !isBreak c) = text :=
      List.takeWhile_append_dropWhile
    cases hrest : text.dropWhile fun c => !isBreak c with
    | nil =>
      rw [hrest, List.append_nil] at htext
      rw [htext] at hfirst
      exact last text hfirst
    | cons b rest =>
      rw [hrest] at htext
      have hb : isBreak b = true := by
        have hne : 0 < (text.dropWhile fun c => !isBreak c).length := by simp [hrest]
        have := List.dropWhile_get_zero_not (fun c => !isBreak c) text hne
        simpa [hrest] using this
      rw [← htext]
      refine next _ b rest hfirst hb (ih (afterBreak b rest).length ?_ _ rfl)
      have hlength := congrArg List.length htext
      rw [List.length_append, List.length_cons] at hlength
      have := length_afterBreak b rest
      omega

/-- no line of a text holds a break -/
theorem isBreak_of_mem_splitLines {text line : List Char} (h : line ∈ splitLines text) : ∀ c ∈ line, isBreak c = false := by
  induction text using lines_induction with
  | last l hl =>
    by_cases hne : l = []
    · subst hne
      cases h
    · rw [splitLines_line hl hne] at h
      obtain rfl := List.mem_singleton.1 h
      exact hl
  | next l b rest hl hb ih =>
    rw [splitLines_break hl hb] at h
    rcases List.mem_cons.1 h with rfl | h
    · exact hl
    · exact ih h

section Contents

variable {α : Type} {read : List Char → Option α}

/-- what a reader of lines finds in a text, line by line -/
def contents (read : List Char → Option α) (text : List Char) : List α := (splitLines text).filterMap read

theorem contents_line (hblank : read [] = none) {l : List Char} (hl : ∀ c ∈ l, isBreak c = false) :
    contents read l = (read l).toList := by
  by_cases hne : l = []
  · subst hne
    simp [contents, splitLines, hblank]
  · rw [contents, splitLines_line hl hne]
    cases h : read l <;> simp [h]

theorem contents_break {l : List Char} {b : Char} (hl : ∀ c ∈ l, isBreak c = false) (hb : isBreak b = true)
    (rest : List Char) : contents read (l ++ b :: rest) = (read l).toList ++ contents read (afterBreak b rest) := by
  rw [contents, splitLines_break hl hb]
  cases h : read l <;> simp [h, contents]

/-- **Two texts joined by a newline** hold what either holds. -/
theorem contents_append (hblank : read [] = none) (text rest : List Char) :
    contents read (text ++ '\n' :: rest) = contents read text ++ contents read rest := by
  induction text using lines_induction with
  | last l hl => rw [contents_break hl rfl, contents_line hblank hl]; rfl
  | next l b more hl hb ih =>
    rw [List.append_assoc, List.cons_append, contents_break hl hb, contents_break hl hb, List.append_assoc]
    congr 1
    -- a return at the very end takes the newline with it
    have hafter : afterBreak b (more ++ '\n' :: rest) = afterBreak b more ++ '\n' :: rest ∨
        afterBreak b (more ++ '\n' :: rest) = rest ∧ afterBreak b more = [] := by
      cases more with
      | nil =>
        by_cases hc : b = '\r'
        · subst hc
          exact .inr ⟨rfl, rfl⟩
        · left
          simp [afterBreak, hc]
      | cons d more =>
        by_cases hc : b = '\r' ∧ d = '\n'
        · obtain ⟨rfl, rfl⟩ := hc
          exact .inl rfl
        · left
          rw [List.cons_append, afterBreak_cons hc, afterBreak_cons hc, List.cons_append]
    rcases hafter with h | ⟨h, h'⟩
    · rw [h, ih]
    · rw [h, h']
      rfl

end Contents

end TrinoManagement.Text
