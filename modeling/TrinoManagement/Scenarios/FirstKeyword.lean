/-
The first keyword of a benchmark statement: what `refuse_statement` accepts should begin, for a reader that takes comments
from left to right, with one of `READ_ONLY_STARTS`.

The block pass comes first and knows no line comments, so a block mark in a line comment takes the lines up to the next close
with it.
- `withoutBlocks_open`: what such a line comment hides.
- `first_token_iff`: leads whose line comments close every block mark they open are safe, and only those.
- `delete_accepted`: a DELETE hidden from the check and not from Trino.
-/
import Mathlib.Tactic
import TrinoManagement.Bench.QuerySet

namespace TrinoManagement.Bench

open TrinoManagement.Text (isSpace stripChars stripChars_spaces_append)
open TrinoManagement.Sql

section Claim

variable (beyond : Char → List Char) (repr : String → String)

/-- an accepted statement begins with a read-only start for the reader as well -/
def Seen (sql : List Char) : Prop :=
  refuseStatement beyond repr sql = none → startOf beyond (bare .text sql) ∈ readOnlyStarts

/-- so does every statement that begins like this, up to any of the pieces -/
def Safe (lead : List Piece) : Prop := ∀ (n : ℕ) (rest : List Char), AtToken rest → Seen beyond repr (leadText (lead.take n) ++ rest)

end Claim

/-! ## What an open mark hides -/

/-- the next close ends the mark, whatever stands before it -/
theorem withoutBlocks_open {m : BlockPlace} {body : List Char} (hline : '\n' ∉ body) (h : placeAfter m body ≠ .outside)
    (hwait : m = .opening ∨ m = .closing → body ≠ []) : ∃ out, '\n' ∉ out ∧ ∀ rest,
      withoutBlocks m (body ++ '\n' :: 'X' :: '*' :: '/' :: rest) = out ++ withoutBlocks .outside rest := by
  induction body generalizing m with
  | nil =>
    cases m with
    | outside => exact absurd rfl h
    | opening => exact absurd rfl (hwait (.inl rfl))
    | inside => exact ⟨[], by simp, fun rest => by simp [withoutBlocks]⟩
    | closing => exact absurd rfl (hwait (.inr rfl))
  | cons c body ih =>
    obtain ⟨hc, hbody⟩ := List.ne_and_not_mem_of_not_mem_cons hline
    cases m with
    | outside =>
      rw [placeAfter] at h
      split_ifs at h with hmark
      · obtain ⟨hslash, hstar⟩ := hmark
        obtain ⟨body', rfl⟩ := List.head?_eq_some_iff.1 hstar
        obtain ⟨out, hout, heq⟩ := ih hbody h (by simp)
        refine ⟨' ' :: out, by simp [hout], ?_⟩
        intro rest
        have hcloses : closes (body' ++ '\n' :: 'X' :: '*' :: '/' :: rest) = true := by
          clear ih h hstar hbody hline hout heq
          induction body' with
          | nil => simp [closes]
          | cons d body' ih => simp [closes, ih]
        rw [List.cons_append, withoutBlocks, if_pos ⟨hslash, rfl, hcloses⟩, heq rest, List.cons_append]
      · obtain ⟨out, hout, heq⟩ := ih hbody h (by simp)
        refine ⟨c :: out, by simp [hout, hc], ?_⟩
        intro rest
        have hmark' : ¬ (c = '/' ∧ (body ++ '\n' :: 'X' :: '*' :: '/' :: rest).head? = some '*' ∧
            closes (body ++ '\n' :: 'X' :: '*' :: '/' :: rest).tail = true) := by
          intro hboth
          obtain ⟨hslash, hstar, -⟩ := hboth
          exact hmark ⟨hslash, (head_line (by decide)).1 hstar⟩
        rw [List.cons_append, withoutBlocks, if_neg hmark', heq rest, List.cons_append]
    | opening =>
      obtain ⟨out, hout, heq⟩ := ih hbody h (by simp)
      exact ⟨out, hout, heq⟩
    | inside =>
      rw [placeAfter] at h
      split_ifs at h with hmark
      · have hne : body ≠ [] := by
          rintro rfl
          simp at hmark
        obtain ⟨out, hout, heq⟩ := ih hbody h fun _ => hne
        refine ⟨out, hout, ?_⟩
        intro rest
        rw [List.cons_append, withoutBlocks, if_pos ⟨hmark.1, (head_line (by decide)).2 hmark.2⟩, heq rest]
      · obtain ⟨out, hout, heq⟩ := ih hbody h (by simp)
        refine ⟨out, hout, ?_⟩
        intro rest
        have hmark' : ¬ (c = '*' ∧ (body ++ '\n' :: 'X' :: '*' :: '/' :: rest).head? = some '/') := by
          intro hboth
          obtain ⟨hstar, hslash⟩ := hboth
          exact hmark ⟨hstar, (head_line (by decide)).1 hslash⟩
        rw [List.cons_append, withoutBlocks, if_neg hmark', heq rest]
    | closing =>
      obtain ⟨out, hout, heq⟩ := ih hbody h (by simp)
      exact ⟨out, hout, heq⟩

/-- a close, and then a start on a line of its own -/
def smuggled : List Char := ['X', '*', '/', '\n', 'W', 'I', 'T', 'H']

theorem atToken_smuggled : AtToken smuggled := by
  intro p hp
  cases p with
  | blank c space =>
    have hc : c = 'X' := (List.cons_prefix_cons.1 hp).1
    subst hc
    exact absurd space (by decide)
  | line body oneLine => exact absurd (List.cons_prefix_cons.1 hp).1 (by decide)
  | block body open_ => exact absurd (List.cons_prefix_cons.1 hp).1 (by decide)

/-- after an open line comment the passes see the start, and the reader what stands before it -/
theorem not_seen_of_open {beyond : Char → List Char} {repr : String → String} {before : List Piece} {p : Piece}
    (hbefore : ∀ q ∈ before, Contained q) (hp : ¬ Contained p)
    (hroom : (leadText (before ++ [p])).length + 8 ≤ maxStatementChars) :
    ¬ Seen beyond repr (leadText (before ++ [p]) ++ smuggled) := by
  cases p with
  | blank c space => exact absurd trivial hp
  | block body open_ => exact absurd trivial hp
  | line body oneLine =>
    have hlead : leadText (before ++ [.line body oneLine]) ++ smuggled =
        leadText before ++ ((Piece.line body oneLine).text ++ smuggled) := by
      simp [leadText]
    have hpasses : withoutComments (leadText (before ++ [.line body oneLine]) ++ smuggled) =
        leadLeft before ++ [' ', '\n', 'W', 'I', 'T', 'H'] := by
      obtain ⟨out, hout, heq⟩ := withoutBlocks_open oneLine hp (by simp)
      have hdash : '\n' ∉ '-' :: out := by simp [hout]
      have hread := withoutLines_true hdash ['W', 'I', 'T', 'H']
      have hblocks : withoutBlocks .outside ((Piece.line body oneLine).text ++ smuggled) =
          '-' :: '-' :: out ++ ['\n', 'W', 'I', 'T', 'H'] := by
        have hrest := heq ['\n', 'W', 'I', 'T', 'H']
        simpa [Piece.text, smuggled, withoutBlocks] using hrest
      rw [hlead, withoutComments_lead hbefore, withoutComments, hblocks]
      simpa [withoutLines] using hread
    have hstripped : stripChars (withoutComments (leadText (before ++ [.line body oneLine]) ++ smuggled)) =
        ['W', 'I', 'T', 'H'] := by
      rw [hpasses, stripChars_spaces_append leadLeft_space]
      decide
    have hreader : startOf beyond (bare .text (leadText (before ++ [.line body oneLine]) ++ smuggled)) = "X*/" := by
      rw [bare_lead, startOf, stripChars_spaces_append leadLeft_space]
      rfl
    intro hseen
    have hstart := hseen ((refuseStatement_eq_none beyond repr).2 ⟨?_, ?_, ?_, ?_⟩)
    · rw [hreader] at hstart
      exact absurd hstart (by decide)
    · rw [hstripped]
      decide
    · rw [List.length_append]
      exact hroom
    · rw [hstripped]
      decide
    · rw [startOf, hstripped]
      change "WITH" ∈ readOnlyStarts
      decide

/-! ## Leads -/

/-- **Comments before the first keyword.** Every statement is blanks and comments and then a token. As long as each of these
line comments closes the block marks it opens, an accepted statement begins with a read-only start; and as soon as one does
not, some accepted statement that begins with the same comments does not, given room for eight more characters. -/
theorem first_token_iff (beyond : Char → List Char) (repr : String → String) :
    (∀ sql, ∃ lead rest, AtToken rest ∧ sql = leadText lead ++ rest) ∧
    ∀ lead : List Piece,
      ((∀ p ∈ lead, Contained p) → Safe beyond repr lead) ∧
      ((leadText lead).length + 8 ≤ maxStatementChars → Safe beyond repr lead → ∀ p ∈ lead, Contained p) := by
  refine ⟨exists_lead, ?_⟩
  intro lead
  constructor
  · intro hlead n rest hrest haccepted
    have hstart := ((refuseStatement_eq_none beyond repr).1 haccepted).2.2.2
    have htake : ∀ p ∈ lead.take n, Contained p := fun p hp => hlead p (List.mem_of_mem_take hp)
    rw [startOf_eq htake hrest hstart]
    exact hstart
  · intro hroom hsafe
    have hall : ∀ n, ∀ p ∈ lead.take n, Contained p := by
      intro n
      induction n with
      | zero => simp
      | succ n ih =>
        by_cases hn : n < lead.length
        · rw [List.take_succ_eq_append_getElem hn]
          by_contra hopen
          have hp : ¬ Contained lead[n] := by
            intro hp
            apply hopen
            intro q hq
            rcases List.mem_append.1 hq with hq | hq
            · exact ih q hq
            · rw [List.mem_singleton.1 hq]
              exact hp
          have hshort : (leadText (lead.take n ++ [lead[n]])).length + 8 ≤ maxStatementChars := by
            rw [← List.take_succ_eq_append_getElem hn]
            have hsplit : leadText lead = leadText (lead.take (n + 1)) ++ leadText (lead.drop (n + 1)) := by
              rw [leadText, leadText, leadText, ← List.flatMap_append, List.take_append_drop]
            rw [hsplit, List.length_append] at hroom
            omega
          apply not_seen_of_open ih hp hshort
          rw [← List.take_succ_eq_append_getElem hn]
          exact hsafe (n + 1) smuggled atToken_smuggled
        · rw [List.take_of_length_le (by omega)]
          rwa [List.take_of_length_le (by omega)] at ih
    intro p hp
    apply hall lead.length
    rwa [List.take_length]

/-- a statement that deletes, accepted because the check sees the second line of its last comment -/
theorem delete_accepted :
    refuseStatement (fun c => [c]) id "-- /*\nDELETE FROM t /*/\nSELECT 1 */".toList = none ∧
    startOf (fun c => [c]) (bare .text "-- /*\nDELETE FROM t /*/\nSELECT 1 */".toList) = "DELETE" ∧
    ¬ Seen (fun c => [c]) id "-- /*\nDELETE FROM t /*/\nSELECT 1 */".toList := by
  have haccepted : refuseStatement (fun c => [c]) id "-- /*\nDELETE FROM t /*/\nSELECT 1 */".toList = none := by
    decide +kernel
  have hstart : startOf (fun c => [c]) (bare .text "-- /*\nDELETE FROM t /*/\nSELECT 1 */".toList) = "DELETE" := by
    decide +kernel
  refine ⟨haccepted, hstart, ?_⟩
  intro hseen
  have hmem := hseen haccepted
  rw [hstart] at hmem
  exact absurd hmem (by decide)

end TrinoManagement.Bench
