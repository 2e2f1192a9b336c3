/-
What a credential looks like to TMS: the patterns `SECRET_KEY` and `ENV_REFERENCE`, which three modules carry a copy of
each.

- `secretPattern`: the copies differ in their plain words alone.
- `secret_strip`: a key that looks like a credential still does once it is stripped.
-/
import Mathlib.Tactic
import TrinoManagement.Core.Pattern

namespace TrinoManagement.Secrets

open TrinoManagement.Text

/-- `first[-_.]?key` -/
def keyAfter (first : String) : Pattern := word first ++ .opt (fun c => c == '-' || c == '_' || c == '.') :: word "key"

/-- `\.key$` -/
def dotKey : Pattern := .one (· == '.') :: word "key" ++ [.atEnd]

/-- `SECRET_KEY`, of the plain words each copy begins with -/
def secretPattern (words : List String) : List Pattern :=
  words.map word ++ [keyAfter "access", keyAfter "private", dotKey, word "keystore", word "truststore"]

def isLetter (c : Char) : Bool := c.isLower || c.isUpper

/-- `ENV_REFERENCE`, `^\$\{ENV:[A-Za-z_][A-Za-z0-9_]*\}$` -/
def envReference (value : String) : Bool :=
  let text := dropFinalNewline value.toList
  "$\x7bENV:".toList.isPrefixOf text &&
    match text.drop 6 with
    | [] => false
    | c :: rest => (isLetter c || c == '_') && rest.getLast? == some '\x7d' &&
        rest.dropLast.all fun c => isLetter c || c.isDigit || c == '_'

/-! ## Keys are stripped before they are looked at -/

/-- no letter of the word is white space, in either case -/
def Plain (w : String) : Prop := ∀ letter ∈ w.toList, isSpace letter = false ∧ isSpace letter.toUpper = false

instance (w : String) : Decidable (Plain w) :=
  List.decidableBAll (fun letter => isSpace letter = false ∧ isSpace letter.toUpper = false) w.toList

theorem solid_word {w : String} (hw : Plain w) : ∀ item ∈ word w, item.Solid := by
  intro item hitem
  obtain ⟨letter, hletter, rfl⟩ := List.mem_map.1 hitem
  intro c hc
  simp only [ignoreCase, Bool.or_eq_true, Bool.and_eq_true, beq_iff_eq] at hc
  rcases hc with (((hc | hc) | ⟨-, hc⟩) | ⟨-, hc⟩) | ⟨-, hc | hc⟩
  · rw [hc]; exact (hw letter hletter).1
  · rw [hc]; exact (hw letter hletter).2
  all_goals rw [hc]; decide

theorem solid_keyAfter {first : String} (hfirst : Plain first) : ∀ item ∈ keyAfter first, item.Solid := by
  intro item hitem
  rcases List.mem_append.1 hitem with hitem | hitem
  · exact solid_word hfirst item hitem
  · rcases List.mem_cons.1 hitem with rfl | hitem
    · intro c hc
      simp only [Bool.or_eq_true, beq_iff_eq] at hc
      rcases hc with (rfl | rfl) | rfl <;> decide
    · exact solid_word (by decide) item hitem

theorem solid_dotKey : ∀ item ∈ dotKey, item.Solid := by
  intro item hitem
  rcases List.mem_cons.1 hitem with rfl | hitem
  · intro c hc
    rw [beq_iff_eq.1 hc]
    decide
  · rcases List.mem_append.1 hitem with hitem | hitem
    · exact solid_word (by decide) item hitem
    · obtain rfl := List.mem_singleton.1 hitem
      trivial

theorem solid_secretPattern {words : List String} (hwords : ∀ w ∈ words, Plain w) :
    ∀ items ∈ secretPattern words, ∀ item ∈ items, item.Solid := by
  intro items hitems
  rcases List.mem_append.1 hitems with hitems | hitems
  · obtain ⟨w, hw, rfl⟩ := List.mem_map.1 hitems
    exact solid_word (hwords w hw)
  · simp only [List.mem_cons, List.not_mem_nil, or_false] at hitems
    rcases hitems with rfl | rfl | rfl | rfl | rfl
    · exact solid_keyAfter (by decide)
    · exact solid_keyAfter (by decide)
    · exact solid_dotKey
    · exact solid_word (by decide)
    · exact solid_word (by decide)

/-- a key that looks like a credential still does once it is stripped -/
theorem secret_strip {words : List String} (hwords : ∀ w ∈ words, Plain w) {key : String}
    (h : search (secretPattern words) key.toList = true) : search (secretPattern words) (strip key).toList = true := by
  rw [strip, String.toList_ofList]
  exact search_stripChars (solid_secretPattern hwords) h

/-- one more plain word is one more way to look like a credential -/
theorem secret_insert (before after : List String) (w : String) (text : List Char) :
    search (secretPattern (before ++ w :: after)) text =
      (search [word w] text || search (secretPattern (before ++ after)) text) := by
  have hcons : ∀ l : List Pattern, search (word w :: l) text = (search [word w] text || search l text) := fun l =>
    search_or [word w] l text
  simp only [secretPattern, List.map_append, List.map_cons, List.append_assoc, List.cons_append]
  rw [search_or, hcons, search_or (before.map word) (after.map word ++ _), Bool.or_left_comm]

end TrinoManagement.Secrets
